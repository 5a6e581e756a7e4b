import Seedbed.Program

/-!
# What programs ask

The history of a run: what a program asks, in order, and how it is answered. A condition on the end
of a run, on its history and on the state that it leaves is met by one program after another if it
is met along both (`meets_bind`). Whatever each permitted request keeps, a program that asks nothing
else keeps too (`run_keeps`).
-/

namespace Seedbed.Program

variable {Request : Type} {Answer : Request → Type} {σ : Type}

/-- Something that was asked, with its answer. -/
structure Event (Answer : Request → Type) where
  request : Request
  answer : Answer request

/-- A program that gets these answers asks these things, and ends with the value. -/
inductive Yields : Program Answer α → List (Event Answer) → α → Prop where
  | done (value : α) : Yields (.done value) [] value
  | ask {request : Request} {next : Answer request → Program Answer α} {answer : Answer request}
      {later : List (Event Answer)} {value : α} (further : Yields (next answer) later value) :
      Yields (.ask request next) (⟨request, answer⟩ :: later) value

/-- A program that gets these answers asks these things, and comes to a sudden end. -/
inductive Breaks : Program Answer α → List (Event Answer) → Prop where
  | halt : Breaks .halt []
  | ask {request : Request} {next : Answer request → Program Answer α} {answer : Answer request}
      {later : List (Event Answer)} (further : Breaks (next answer) later) :
      Breaks (.ask request next) (⟨request, answer⟩ :: later)

section Surroundings

variable (perform : (request : Request) → σ → Option (Answer request × σ))

/-- What a program asks when it is run, in order, and how it is answered. -/
def events : Program Answer α → σ → List (Event Answer)
  | .done _, _ => []
  | .halt, _ => []
  | .ask request next, state =>
    match perform request state with
    | some (answer, state) => ⟨request, answer⟩ :: events (next answer) state
    | none => []

/-- What a program asks when it is run, in order; the last request may be left without an answer. -/
def asked : Program Answer α → σ → List Request
  | .done _, _ => []
  | .halt, _ => []
  | .ask request next, state =>
    request ::
      match perform request state with
      | some (answer, state) => asked (next answer) state
      | none => []

/-- A program after another asks its own things after those of the first, if that ends with a
value. -/
theorem asked_bind (program : Program Answer α) (next : α → Program Answer β) (state : σ) :
    (program.bind next).asked perform state = program.asked perform state ++
      match program.run perform state with
      | (.done value, state) => (next value).asked perform state
      | _ => [] := by
  induction program generalizing state with
  | done value => rfl
  | halt => rfl
  | ask request further ih =>
    simp only [bind, asked, run, List.cons_append]
    cases perform request state with
    | none => rfl
    | some pair => exact congrArg (request :: ·) (ih pair.1 pair.2)

/-- Run from a state, a program meets a condition on its end, its history and the state after it. -/
def Meets (program : Program Answer α) (state : σ)
    (condition : Outcome α → List (Event Answer) → σ → Prop) : Prop :=
  condition (program.run perform state).1 (program.events perform state)
    (program.run perform state).2

variable {perform}

theorem Meets.and {program : Program Answer α} {state : σ}
    {first second : Outcome α → List (Event Answer) → σ → Prop}
    (meetsFirst : Meets perform program state first)
    (meetsSecond : Meets perform program state second) :
    Meets perform program state fun outcome history after =>
      first outcome history after ∧ second outcome history after := ⟨meetsFirst, meetsSecond⟩

theorem Meets.mono {program : Program Answer α} {state : σ}
    {condition weaker : Outcome α → List (Event Answer) → σ → Prop}
    (meets : Meets perform program state condition)
    (implies : ∀ outcome history after, condition outcome history after →
      weaker outcome history after) :
    Meets perform program state weaker := implies _ _ _ meets

theorem meets_pure {value : α} {state : σ}
    {condition : Outcome α → List (Event Answer) → σ → Prop} :
    Meets perform (pure value) state condition ↔ condition (.done value) [] state := Iff.rfl

/-- A program that asks something goes on with the answer, unless it has to wait. -/
theorem meets_ask {request : Request} {next : Answer request → Program Answer α} {state : σ}
    {condition : Outcome α → List (Event Answer) → σ → Prop} :
    Meets perform (.ask request next) state condition ↔
      match perform request state with
      | some (answer, state) => Meets perform (next answer) state fun outcome later =>
          condition outcome (⟨request, answer⟩ :: later)
      | none => condition .blocked [] state := by
  simp only [Meets, run, events]
  cases perform request state <;> rfl

theorem meets_request {request : Request} {next : Answer request → Program Answer α} {state : σ}
    {condition : Outcome α → List (Event Answer) → σ → Prop} :
    Meets perform (Program.request request >>= next) state condition ↔
      match perform request state with
      | some (answer, state) => Meets perform (next answer) state fun outcome later =>
          condition outcome (⟨request, answer⟩ :: later)
      | none => condition .blocked [] state := meets_ask

/-- A program after another starts where the first ends, if it ends with a value. -/
theorem meets_bind {program : Program Answer α} {next : α → Program Answer β} {state : σ}
    {condition : Outcome β → List (Event Answer) → σ → Prop} :
    Meets perform (program.bind next) state condition ↔
      Meets perform program state fun outcome history middle =>
        match outcome with
        | .done value => Meets perform (next value) middle fun outcome later =>
            condition outcome (history ++ later)
        | .halted => condition .halted history middle
        | .blocked => condition .blocked history middle := by
  induction program generalizing state condition with
  | done value => rfl
  | halt => rfl
  | ask request further ih =>
    rw [bind, meets_ask, meets_ask]
    cases perform request state with
    | none => rfl
    | some pair => exact ih pair.1

/-- A program that was run has got the answers in its history. -/
theorem meets_answered (program : Program Answer α) (state : σ) :
    Meets perform program state fun outcome history _ =>
      (∀ value, outcome = .done value → program.Yields history value) ∧
        (outcome = .halted → program.Breaks history) := by
  induction program generalizing state with
  | done value =>
    refine ⟨fun other same => ?_, nofun⟩
    cases same
    exact .done value
  | halt => exact ⟨nofun, fun _ => .halt⟩
  | ask request next ih =>
    refine meets_ask.mpr ?_
    cases perform request state with
    | none => exact ⟨nofun, nofun⟩
    | some pair =>
      refine (ih pair.1 pair.2).mono fun outcome later after answered => ?_
      exact ⟨fun value same => .ask (answered.1 value same), fun same => .ask (answered.2 same)⟩

/-- If a program ends with a value, a condition holds for it and for the state it leaves. -/
def Returns (perform : (request : Request) → σ → Option (Answer request × σ))
    (program : Program Answer α) (state : σ) (condition : α → σ → Prop) : Prop :=
  Meets perform program state fun outcome _ after =>
    ∀ value, outcome = .done value → condition value after

theorem returns_pure {value : α} {state : σ} {condition : α → σ → Prop}
    (holds : condition value state) : Returns perform (pure value) state condition := by
  intro value same
  cases same
  exact holds

theorem returns_request {request : Request} {next : Answer request → Program Answer α} {state : σ}
    {condition : α → σ → Prop}
    (further : ∀ answer after, perform request state = some (answer, after) →
      Returns perform (next answer) after condition) :
    Returns perform (Program.request request >>= next) state condition := by
  refine meets_request.mpr ?_
  cases answered : perform request state with
  | none => nofun
  | some pair => exact further pair.1 pair.2 answered

theorem returns_bind {program : Program Answer α} {next : α → Program Answer β} {state : σ}
    {condition : β → σ → Prop}
    (first : Returns perform program state fun value middle =>
      Returns perform (next value) middle condition) :
    Returns perform (program >>= next) state condition := by
  refine meets_bind.mpr (Meets.mono first fun outcome history middle returns => ?_)
  cases outcome with
  | done value => exact returns value rfl
  | halted => nofun
  | blocked => nofun

theorem Returns.mono {program : Program Answer α} {state : σ} {condition weaker : α → σ → Prop}
    (returns : Returns perform program state condition)
    (implies : ∀ value after, condition value after → weaker value after) :
    Returns perform program state weaker :=
  Meets.mono returns fun _ _ after holds value same => implies value after (holds value same)

end Surroundings

/-- Whatever the answers, a program asks nothing but what is permitted. -/
def Asks (permitted : Request → Prop) : Program Answer α → Prop
  | .done _ => True
  | .halt => True
  | .ask request next => permitted request ∧ ∀ answer, (next answer).Asks permitted

theorem Asks.bind {permitted : Request → Prop} {program : Program Answer α}
    {next : α → Program Answer β} (first : program.Asks permitted)
    (later : ∀ value, (next value).Asks permitted) : (program.bind next).Asks permitted := by
  induction program with
  | done value => exact later value
  | halt => trivial
  | ask request further ih => exact ⟨first.1, fun answer => ih answer (first.2 answer)⟩

theorem Asks.mono {permitted wider : Request → Prop} {program : Program Answer α}
    (asks : program.Asks permitted) (implies : ∀ {request}, permitted request → wider request) :
    program.Asks wider := by
  induction program with
  | done value => trivial
  | halt => trivial
  | ask request next ih => exact ⟨implies asks.1, fun answer => ih answer (asks.2 answer)⟩

theorem Yields.permitted {permitted : Request → Prop} {program : Program Answer α}
    {history : List (Event Answer)} {value : α} (yields : program.Yields history value)
    (asks : program.Asks permitted) : ∀ event ∈ history, permitted event.request := by
  induction yields with
  | done value => nofun
  | ask further ih => exact List.forall_mem_cons.mpr ⟨asks.1, ih (asks.2 _)⟩

/-- A program that asks nothing but what is permitted has asked nothing else. -/
theorem permitted_of_mem_events {perform : (request : Request) → σ → Option (Answer request × σ)}
    {permitted : Request → Prop} {program : Program Answer α} (asks : program.Asks permitted)
    (state : σ) : ∀ event ∈ program.events perform state, permitted event.request := by
  induction program generalizing state with
  | done value => nofun
  | halt => nofun
  | ask request further ih =>
    rw [events]
    cases perform request state with
    | none => nofun
    | some pair => exact List.forall_mem_cons.mpr ⟨asks.1, ih pair.1 (asks.2 pair.1) pair.2⟩

theorem permitted_of_mem_asked {perform : (request : Request) → σ → Option (Answer request × σ)}
    {permitted : Request → Prop} {program : Program Answer α} (asks : program.Asks permitted)
    (state : σ) : ∀ request ∈ program.asked perform state, permitted request := by
  induction program generalizing state with
  | done value => nofun
  | halt => nofun
  | ask request further ih =>
    rw [asked]
    refine List.forall_mem_cons.mpr ⟨asks.1, ?_⟩
    cases perform request state with
    | none => nofun
    | some pair => exact ih pair.1 (asks.2 pair.1) pair.2

/-- What is kept by every permitted request is kept by a program that asks nothing else. -/
theorem run_keeps {perform : (request : Request) → σ → Option (Answer request × σ)}
    {permitted : Request → Prop} (Kept : σ → σ → Prop) (refl : ∀ state, Kept state state)
    (trans : ∀ {first second third}, Kept first second → Kept second third → Kept first third)
    (step : ∀ {request state answer after}, permitted request →
      perform request state = some (answer, after) → Kept state after)
    {program : Program Answer α} (asks : program.Asks permitted) (state : σ) :
    Kept state (program.run perform state).2 := by
  induction program generalizing state with
  | done value => exact refl state
  | halt => exact refl state
  | ask request further ih =>
    rw [run]
    cases answered : perform request state with
    | none => exact refl state
    | some pair => exact trans (step asks.1 answered) (ih pair.1 (asks.2 pair.1) pair.2)

end Seedbed.Program
