/-!
# Programs

A program asks its surroundings one thing after another, and each answer decides how it goes on.
What can be asked, and which answers there are, is left open; so a program can be run against any
surroundings, and several programs step by step in any order.
-/

namespace Seedbed

/-- A program that asks requests of a type and ends with a value. -/
inductive Program {Request : Type} (Answer : Request → Type) (α : Type) : Type where
  | done (value : α)
  /-- It has come to a sudden end. -/
  | halt
  | ask (request : Request) (next : Answer request → Program Answer α)

namespace Program

variable {Request : Type} {Answer : Request → Type}

def bind (program : Program Answer α) (next : α → Program Answer β) : Program Answer β :=
  match program with
  | .done value => next value
  | .halt => .halt
  | .ask request further => .ask request fun answer => bind (further answer) next

instance : Monad (Program Answer) where
  pure := .done
  bind := bind

def request (request : Request) : Program Answer (Answer request) := .ask request .done

/-- A program with every request asked in another way. -/
def redirect {Request' : Type} {Answer' : Request' → Type}
    (ask : (request : Request) → Program Answer' (Answer request)) :
    Program Answer α → Program Answer' α
  | .done value => .done value
  | .halt => .halt
  | .ask request next => (ask request).bind fun answer => redirect ask (next answer)

inductive Outcome (α : Type) where
  | done (value : α)
  | halted
  /-- It waits for something that does not happen. -/
  | blocked
  deriving DecidableEq, Repr

/-- Runs a program against surroundings with a state, which may let it wait. -/
def run (perform : (request : Request) → σ → Option (Answer request × σ)) :
    Program Answer α → σ → Outcome α × σ
  | .done value, state => (.done value, state)
  | .halt, state => (.halted, state)
  | .ask request next, state =>
    match perform request state with
    | some (answer, state) => run perform (next answer) state
    | none => (.blocked, state)

theorem bind_done (program : Program Answer α) : program.bind .done = program := by
  induction program with
  | done value => rfl
  | halt => rfl
  | ask request next ih => simp [bind, ih]

theorem bind_assoc (program : Program Answer α) (f : α → Program Answer β)
    (g : β → Program Answer γ) :
    (program.bind f).bind g = program.bind fun value => (f value).bind g := by
  induction program with
  | done value => rfl
  | halt => rfl
  | ask request next ih => simp [bind, ih]

instance : LawfulMonad (Program Answer) :=
  LawfulMonad.mk' _ (fun program => bind_done program) (fun _ _ => rfl)
    (fun program f g => bind_assoc program f g)

theorem run_bind {σ : Type} (perform : (request : Request) → σ → Option (Answer request × σ))
    (program : Program Answer α) (next : α → Program Answer β) (state : σ) :
    run perform (program.bind next) state =
      match run perform program state with
      | (.done value, state) => run perform (next value) state
      | (.halted, state) => (.halted, state)
      | (.blocked, state) => (.blocked, state) := by
  induction program generalizing state with
  | done value => rfl
  | halt => rfl
  | ask request further ih =>
    simp only [bind, run]
    cases perform request state with
    | none => rfl
    | some pair => exact ih _ _

end Program
end Seedbed
