import Seedbed.Config.Settings
import Seedbed.Decimal.Binary64
import Seedbed.Ulid

/-!
# Users

A made-up user, and what decides how users are made up.
-/

namespace Seedbed

structure User where
  id : Ulid
  username : String
  email : String
  passwordHash : String
  displayName : String
  badges : Int
  statusText : String
  statusPresence : String
  profileContent : String
  profileBackgroundId? : Option String := none
  privileged : Bool
  suspendedUntil? : Option Int := none
  /-- Milliseconds since the start of 1970. -/
  createdAt : Int
  /-- Milliseconds since the start of 1970. -/
  updatedAt : Int
  verified : Bool
  deriving DecidableEq, Repr, Inhabited

structure UserConfig where
  password : String := "password123"
  privilegedRate : Decimal.Binary64 := (Decimal.Binary64.ofRatio? 1 10).getD .zero
  verifiedRate : Decimal.Binary64 := (Decimal.Binary64.ofRatio? 8 10).getD .zero
  maxBadges : Int := 5
  /-- How many characters of a status text are kept. -/
  statusTextLimit : Nat := 510
  statusPresence : String := "online"
  maxUniqueAttempts : Nat := 1000
  deriving DecidableEq, Repr

def UserConfig.ofSettings (settings : SeedSettings) : UserConfig where
  password := settings.password
  maxUniqueAttempts := settings.maxUniqueAttempts

end Seedbed
