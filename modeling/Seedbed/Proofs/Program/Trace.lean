import Seedbed.Proofs.Program.History

/-!
# Traces

What a program may have asked at some moment of its run, and how it was answered, whoever has given
the answers (`Traces`). A trace of one program after another is one of the first, and then, if that
has ended, one of the second (`traces_bind`).
-/

namespace Seedbed.Program

variable {Request : Type} {Answer : Request → Type}

/-- A program that gets these answers asks these things; it may go on after that. -/
inductive Traces : Program Answer α → List (Event Answer) → Prop where
  | stop (program : Program Answer α) : Traces program []
  | ask {request : Request} {next : Answer request → Program Answer α} {answer : Answer request}
      {later : List (Event Answer)} (further : Traces (next answer) later) :
      Traces (.ask request next) (⟨request, answer⟩ :: later)

variable {history : List (Event Answer)}

theorem traces_done {value : α} : (.done value : Program Answer α).Traces history ↔ history = [] := by
  constructor
  · intro traces
    cases traces
    rfl
  · rintro rfl
    exact .stop _

theorem traces_halt : (.halt : Program Answer α).Traces history ↔ history = [] := by
  constructor
  · intro traces
    cases traces
    rfl
  · rintro rfl
    exact .stop _

theorem traces_ask {request : Request} {next : Answer request → Program Answer α} :
    (Program.ask request next).Traces history ↔
      history = [] ∨
        ∃ answer later, history = ⟨request, answer⟩ :: later ∧ (next answer).Traces later := by
  constructor
  · intro traces
    cases traces with
    | stop => exact .inl rfl
    | ask further => exact .inr ⟨_, _, rfl, further⟩
  · rintro (rfl | ⟨answer, later, rfl, further⟩)
    · exact .stop _
    · exact .ask further

/-- What is asked after one program has ended is asked by the next one. -/
theorem traces_bind {program : Program Answer α} {next : α → Program Answer β}
    (traces : (program.bind next).Traces history) :
    ∃ earlier later, history = earlier ++ later ∧ program.Traces earlier ∧
      (later = [] ∨ ∃ value, (next value).Traces later) := by
  induction program generalizing history with
  | done value => exact ⟨[], history, rfl, .stop _, .inr ⟨value, traces⟩⟩
  | halt =>
    rw [bind, traces_halt] at traces
    exact ⟨[], [], traces, .stop _, .inl rfl⟩
  | ask request further ih =>
    rw [bind, traces_ask] at traces
    obtain rfl | ⟨answer, rest, rfl, traces⟩ := traces
    · exact ⟨[], [], rfl, .stop _, .inl rfl⟩
    · obtain ⟨earlier, later, rfl, first, second⟩ := ih answer traces
      exact ⟨⟨request, answer⟩ :: earlier, later, rfl, .ask first, second⟩

/-- A program that asks nothing but what is permitted has asked nothing else so far. -/
theorem Traces.permitted {permitted : Request → Prop} {program : Program Answer α}
    (traces : program.Traces history) (asks : program.Asks permitted) :
    ∀ event ∈ history, permitted event.request := by
  induction traces with
  | stop => nofun
  | ask further ih => exact List.forall_mem_cons.mpr ⟨asks.1, ih (asks.2 _)⟩

/-- What a program asks when it is run is a trace of it. -/
theorem traces_events {σ : Type} (perform : (request : Request) → σ → Option (Answer request × σ))
    (program : Program Answer α) (state : σ) : program.Traces (program.events perform state) := by
  induction program generalizing state with
  | done value => exact .stop _
  | halt => exact .stop _
  | ask request next ih =>
    rw [events]
    cases perform request state with
    | none => exact .stop _
    | some pair => exact .ask (ih pair.1 pair.2)

end Seedbed.Program
