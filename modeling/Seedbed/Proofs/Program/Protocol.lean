import Seedbed.Proofs.Program.History

/-!
# Protocols

How a program behaves towards surroundings that others use too. A protocol has phases; it says which
answers can be expected in a phase, and to which phases a request may lead, given its answer. A
program follows a protocol if each of its requests can be taken as such a move, whatever answers
come that can be expected (`Follows`). One program after another follows a protocol if both do
(`Follows.bind`).
-/

namespace Seedbed.Program

variable {Request : Type} {Answer : Request → Type}

/-- A protocol. -/
structure Protocol (Answer : Request → Type) where
  Phase : Type
  /-- Whether an answer can be expected. -/
  Expects : Phase → (request : Request) → Answer request → Prop
  /-- Whether a request with an answer may lead from a phase to another. -/
  Moves : Phase → (request : Request) → Answer request → Phase → Prop

/-- From a phase on, a program follows a protocol, and ends in a phase and with a value that meet a
condition. -/
def Follows (protocol : Protocol Answer) (ends : protocol.Phase → α → Prop) :
    protocol.Phase → Program Answer α → Prop
  | phase, .done value => ends phase value
  | _, .halt => True
  | phase, .ask request next => ∀ answer, protocol.Expects phase request answer →
      ∃ later, protocol.Moves phase request answer later ∧ Follows protocol ends later (next answer)

variable {protocol : Protocol Answer} {phase : protocol.Phase}

theorem Follows.mono {ends weaker : protocol.Phase → α → Prop} {program : Program Answer α}
    (follows : Follows protocol ends phase program)
    (implies : ∀ last value, ends last value → weaker last value) :
    Follows protocol weaker phase program := by
  induction program generalizing phase with
  | done value => exact implies phase value follows
  | halt => trivial
  | ask request next ih =>
    intro answer expected
    obtain ⟨later, moves, further⟩ := follows answer expected
    exact ⟨later, moves, ih answer further⟩

theorem Follows.bind {middle : protocol.Phase → α → Prop} {ends : protocol.Phase → β → Prop}
    {program : Program Answer α} {next : α → Program Answer β}
    (first : Follows protocol middle phase program)
    (rest : ∀ later value, middle later value → Follows protocol ends later (next value)) :
    Follows protocol ends phase (program >>= next) := by
  induction program generalizing phase with
  | done value => exact rest phase value first
  | halt => trivial
  | ask request further ih =>
    intro answer expected
    obtain ⟨later, moves, follows⟩ := first answer expected
    exact ⟨later, moves, ih answer follows⟩

/-- A program stays in a phase as long as it asks nothing that leads elsewhere. -/
theorem follows_of_asks {stays : Request → Prop} {program : Program Answer α}
    (asks : program.Asks stays)
    (moves : ∀ request, stays request → ∀ answer, protocol.Moves phase request answer phase) :
    Follows protocol (fun last _ => last = phase) phase program := by
  induction program with
  | done value => rfl
  | halt => trivial
  | ask request next ih =>
    intro answer _
    exact ⟨phase, moves request asks.1 answer, ih answer (asks.2 answer)⟩

end Seedbed.Program
