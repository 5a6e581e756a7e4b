import Seedbed.Proofs.Program.History

/-!
# Two programs abreast

Two programs go abreast if each request of one is paired with a request of the other, as long as the
answers to both agree, and if they come to the same kind of end. Which requests are paired, and
which answers agree then, is left open (`Abreast`). One program after another goes abreast if both
do (`Abreast.bind`), and so do two programs whose requests are asked in another way
(`Abreast.redirect`).
-/

namespace Seedbed.Program

variable {Request : Type} {Answer : Request → Type}

/-- Which requests are paired, and which of their answers agree. -/
abbrev Pairing (Answer : Request → Type) :=
  (request request' : Request) → (Answer request → Answer request' → Prop) → Prop

/-- Whether two programs go abreast, and end with values that meet a condition. -/
inductive Abreast (pairs : Pairing Answer) (ends : α → β → Prop) :
    Program Answer α → Program Answer β → Prop where
  | done {value : α} {value' : β} (ended : ends value value') :
      Abreast pairs ends (.done value) (.done value')
  | halt : Abreast pairs ends .halt .halt
  | ask {request request' : Request} {agrees : Answer request → Answer request' → Prop}
      {next : Answer request → Program Answer α} {next' : Answer request' → Program Answer β}
      (paired : pairs request request' agrees)
      (further : ∀ answer answer', agrees answer answer' →
        Abreast pairs ends (next answer) (next' answer')) :
      Abreast pairs ends (.ask request next) (.ask request' next')

variable {pairs : Pairing Answer}

theorem abreast_pure {ends : α → β → Prop} {value : α} {value' : β} (ended : ends value value') :
    Abreast pairs ends (pure value) (pure value') := .done ended

theorem abreast_request {request request' : Request}
    {agrees : Answer request → Answer request' → Prop} (paired : pairs request request' agrees) :
    Abreast pairs agrees (Program.request request) (Program.request request') :=
  .ask paired fun _ _ agree => .done agree

theorem Abreast.bind {middle : α → β → Prop} {ends : γ → δ → Prop} {program : Program Answer α}
    {program' : Program Answer β} {next : α → Program Answer γ} {next' : β → Program Answer δ}
    (first : Abreast pairs middle program program')
    (rest : ∀ value value', middle value value' → Abreast pairs ends (next value) (next' value')) :
    Abreast pairs ends (program >>= next) (program' >>= next') := by
  induction first with
  | done ended => exact rest _ _ ended
  | halt => exact .halt
  | ask paired further ih => exact .ask paired ih

/-- A program goes abreast with itself if it asks nothing but what is paired with itself. -/
theorem abreast_self {program : Program Answer α}
    (asks : program.Asks fun request => pairs request request Eq) :
    Abreast pairs Eq program program := by
  induction program with
  | done value => exact .done rfl
  | halt => exact .halt
  | ask request next ih =>
    refine .ask asks.1 ?_
    rintro answer _ rfl
    exact ih answer (asks.2 answer)

/-- Two programs whose requests are asked in another way go abreast if what is asked for each pair
of requests does. -/
theorem Abreast.redirect {Request' : Type} {Answer' : Request' → Type} {pairs' : Pairing Answer'}
    {ask ask' : (request : Request) → Program Answer' (Answer request)} {ends : α → β → Prop}
    {program : Program Answer α} {program' : Program Answer β}
    (abreast : Abreast pairs ends program program')
    (each : ∀ request request' agrees, pairs request request' agrees →
      Abreast pairs' agrees (ask request) (ask' request')) :
    Abreast pairs' ends (program.redirect ask) (program'.redirect ask') := by
  induction abreast with
  | done ended => exact .done ended
  | halt => exact .halt
  | ask paired further ih => exact (each _ _ _ paired).bind fun answer answer' => ih answer answer'

end Seedbed.Program
