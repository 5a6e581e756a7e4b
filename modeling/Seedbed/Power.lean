/-!
# Powers of numbers

Powers of numbers are those of the core library, whatever else is known about powers.
-/

namespace Seedbed

attribute [scoped instance (high)] instPowNat

end Seedbed
