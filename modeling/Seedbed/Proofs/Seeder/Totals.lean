import Seedbed.Proofs.Seeder.Dispatch
import Seedbed.Proofs.User.InStep

/-!
# Totals

What becomes of the numbers of rows that are added up: those of the routines once their commit is
acknowledged, and those of the insertions that the routine for users makes. A sum that is a count is
told as it is. One that is none ends the routine for users (`Inserts.exact`, `sums_of_inserts`), and
a run too, after its commit, if anyone wants to know it; if nobody does there is a report, but its
total is no number (`totals_of_course`).
-/

namespace Seedbed

open Program Database

/-! ## Sums -/

/-- How many rows a report tells of in all. -/
def Report.rows (report : Report) : Nat := (report.routines.map Prod.snd).sum

theorem foldlM_addCounts? (counts : List (String × Nat)) {total : Nat}
    (small : total < countLimit) :
    counts.foldlM (fun total routine => addCounts? total routine.2) total =
      if total + (counts.map Prod.snd).sum < countLimit then
        some (total + (counts.map Prod.snd).sum)
      else none := by
  induction counts generalizing total with
  | nil => simp [small]
  | cons routine others ih =>
    rw [List.foldlM_cons, List.map_cons, List.sum_cons, ← Nat.add_assoc, addCounts?]
    by_cases fits : total + routine.2 < countLimit
    · rw [if_pos fits]
      exact ih fits
    · have more : ¬ total + routine.2 + (others.map Prod.snd).sum < countLimit := by omega
      rw [if_neg fits, if_neg more]
      rfl

theorem Report.totalRows?_eq (report : Report) :
    report.totalRows? = if report.rows < countLimit then some report.rows else none := by
  rw [totalRows?, foldlM_addCounts? _ (by decide +kernel), Nat.zero_add]
  rfl

/-! ## Who listens -/

namespace World

variable {world after : World} {pool : PoolId}

theorem LendsNew.listens {params : ConnectionParams} {reply : Except Fault ConnectionId}
    (lends : LendsNew world pool params reply after) : after.listens = world.listens := by
  cases lends with
  | refused connects => rfl
  | opened connects => rfl

theorem Lends.listens {reply : Except Fault ConnectionId} (lends : Lends world pool reply after) :
    after.listens = world.listens := by
  cases lends with
  | closed => rfl
  | waiting made waits there => rfl
  | replaced lent => exact lent.listens
  | new lent => exact lent.listens

theorem listens_giveBack (world : World) (connection : ConnectionId) :
    (world.giveBack connection).listens = world.listens := by
  unfold giveBack
  split
  · rfl
  · simp only
    split
    · rfl
    · split <;> rfl

/-- Nothing that is asked changes who listens. -/
theorem listens_perform {request : Request} {answer : request.Answer}
    (answered : perform request world = some (answer, after)) : after.listens = world.listens := by
  cases request with
  | checkOut pool => exact (lends_of_checkOut answered).listens
  | giveBack connection =>
    cases answered
    exact listens_giveBack world connection
  | say line =>
    cases answered
    split <;> rfl
  | lock | current | take =>
    rw [perform] at answered
    split at answered
    · cases answered
    · cases answered
      rfl
  | _ =>
    cases answered
    rfl

/-- Whoever asks is told who listens from the start. -/
theorem meets_heard (program : PoolProgram α) (world : World) :
    Meets perform program world fun _ history _ => ∀ level source answer,
      ⟨.listens level source, answer⟩ ∈ history → answer = world.listens level source := by
  induction program generalizing world with
  | done value => nofun
  | halt => nofun
  | ask request next ih =>
    refine meets_ask.mpr ?_
    cases answered : perform request world with
    | none => nofun
    | some pair =>
      obtain ⟨answer, middle⟩ := pair
      refine (ih answer middle).mono fun outcome later after heard => ?_
      intro level source other member
      rcases List.mem_cons.mp member with same | member
      · cases same
        cases answered
        rfl
      · rw [heard level source other member, listens_perform answered]

end World

/-! ## The commit -/

/-- A routine that succeeds whatever it is answered. -/
structure Routine.Succeeds (routine : Routine) (config : Config) : Prop where
  told : ∀ errands result, (routine.seed config).Yields errands result → ∃ rows, result = .ok rows
  ended : ∀ errands, ¬ (routine.seed config).Breaks errands

theorem Routine.succeeds_telling (name : String) (rows : Nat) (config : Config) :
    (telling name rows).Succeeds config := by
  refine ⟨fun errands result yields => ?_, fun errands breaks => ?_⟩
  · cases yields
    exact ⟨rows, rfl⟩
  · cases breaks

/-- The reply to a commit, if that was asked. -/
def Request.commitReply? : Request.Done → Option (Except Fault Nat)
  | ⟨.send _ .commit, reply⟩ => some reply
  | _ => none

namespace Seeder

/-- The replies to commits. -/
def commits (history : List Request.Done) : List (Except Fault Nat) :=
  history.filterMap Request.commitReply?

/-- Whether a commit was asked, and no commit was answered with a fault. -/
def Acknowledged (history : List Request.Done) : Prop :=
  commits history ≠ [] ∧ ∀ reply ∈ commits history, reply.isOk

instance (history : List Request.Done) : Decidable (Acknowledged history) :=
  inferInstanceAs (Decidable (_ ∧ _))

section

variable {seeder : Seeder} {config : Config} {history : List Request.Done} {pool : PoolId}
  {params : ConnectionParams} {routines : List Routine}

theorem commits_append (earlier later : List Request.Done) :
    commits (earlier ++ later) = commits earlier ++ commits later := List.filterMap_append

theorem commits_of_opens (opens : ∀ event ∈ history, event.request.Opens) :
    commits history = [] := by
  refine List.filterMap_eq_nil_iff.mpr fun event member => ?_
  have opens := opens event member
  obtain ⟨request, answer⟩ := event
  cases request with
  | connect | abandon => rfl
  | _ => exact opens.elim

theorem commits_of_establishes (establishes : Establishes params pool history) :
    commits history = [] := by
  cases establishes with
  | opened opens =>
    have nothing := commits_of_opens (opens.permitted (PoolManager.asks_firstConnections _ _ _))
    rw [commits_append]
    exact List.append_eq_nil_iff.mpr ⟨nothing, rfl⟩

theorem commits_of_misses {fault : Fault} (misses : Misses params fault history) :
    commits history = [] := by
  cases misses with
  | unopened opens =>
    have nothing := commits_of_opens (opens.permitted (PoolManager.asks_firstConnections _ _ _))
    rw [commits_append]
    exact List.append_eq_nil_iff.mpr ⟨nothing, rfl⟩

theorem commits_of_retires (retires : Retires pool history) : commits history = [] := by
  cases retires <;> rfl

theorem commits_of_telling (telling : Telling history) : commits history = [] := by
  refine List.filterMap_eq_nil_iff.mpr fun event member => ?_
  have tells := telling event member
  obtain ⟨request, answer⟩ := event
  cases request with
  | say | listens | elapsed => rfl
  | _ => exact tells.elim

/-- After the transaction nothing is committed any more. -/
theorem commits_of_finishes {outcome : Outcome (Except Failure (List (String × Nat)))}
    {ended : Outcome (Except Failure Report)} (finishes : Finishes pool outcome ended history) :
    commits history = [] := by
  cases finishes with
  | waits => rfl
  | broken => rfl
  | failed failure retires => exact commits_of_retires retires
  | reported retires telling =>
    rw [commits_append, commits_of_retires retires]
    exact commits_of_telling (List.forall_mem_cons.mpr ⟨trivial, telling⟩)
  | overflown retires tooMany =>
    rw [commits_append, commits_of_retires retires]
    rfl

/-- If all routines succeed, then a transaction was not begun, or its commit failed, or it is
settled. -/
theorem Transacts.settled {connection : ConnectionId}
    {outcome : Outcome (Except Failure (List (String × Nat)))}
    (transacts : Transacts connection config routines outcome history)
    (succeed : ∀ routine ∈ routines, routine.Succeeds config) :
    commits history = [] ∨ (∃ fault, .error fault ∈ commits history) ∨
      ∃ errands counts, outcome = .done (.ok counts) ∧ Served config routines errands counts := by
  cases transacts with
  | unbegun fault => exact .inl rfl
  | undone calls telling =>
    cases calls with
    | @failed earlier others routine _ _ _ _ split served ended =>
      have called : routine ∈ routines := by simp [split]
      obtain ⟨rows, differs⟩ := (succeed routine called).told _ _ ended
      cases differs
  | refused calls fault =>
    refine .inr (.inl ⟨fault, ?_⟩)
    rw [commits_append]
    exact List.mem_append_right _ List.mem_cons_self
  | committed calls =>
    cases calls with
    | all served => exact .inr (.inr ⟨_, _, rfl, served⟩)
  | broken calls =>
    cases calls with
    | @broken earlier others routine _ _ _ split served ended =>
      have called : routine ∈ routines := by simp [split]
      exact absurd ended ((succeed routine called).ended _)

/-- If all routines succeed and the commit is acknowledged, then all that is left is to shut down
and to tell. -/
theorem Course.settled {outcome : Outcome (Except Failure Report)}
    (course : Course seeder config outcome history)
    (succeed : ∀ routine ∈ seeder.routines, routine.Succeeds config)
    (acknowledged : Acknowledged history) :
    ∃ pool errands counts last, Served config seeder.routines errands counts ∧
      Finishes pool (.done (.ok counts)) outcome last ∧ last <:+ history := by
  obtain ⟨asked, accepted⟩ := acknowledged
  cases course with
  | invalid parsed => exact absurd rfl asked
  | unmade parsed misses => exact absurd (commits_of_misses misses) asked
  | @made params pool line first history last outcome ended parsed establishes borrows finishes =>
    have others : commits (first ++ ⟨.say line, ()⟩ :: (history ++ last)) =
        commits history ++ commits last := by
      rw [commits_append, commits_of_establishes establishes, ← commits_append]
      rfl
    rw [others, commits_of_finishes finishes, List.append_nil] at asked accepted
    cases borrows with
    | waits => exact absurd rfl asked
    | refused fault => exact absurd rfl asked
    | @lent connection result inner transacts =>
      have same : commits (⟨.current, some pool⟩ :: ⟨.checkOut pool, .ok connection⟩ :: inner ++
          [⟨.giveBack connection, ()⟩]) = commits inner := by
        rw [commits_append]
        exact List.append_nil _
      rw [same] at asked accepted
      rcases transacts.settled succeed with none | ⟨fault, refused⟩ |
        ⟨errands, counts, done, served⟩
      · exact absurd none asked
      · cases accepted _ refused
      · cases done
        refine ⟨pool, errands, counts, last, served, finishes, ?_⟩
        exact ((List.suffix_append _ last).trans (List.suffix_cons _ _)).trans
          (List.suffix_append first _)
    | broken transacts =>
      rcases transacts.settled succeed with none | ⟨fault, refused⟩ |
        ⟨errands, counts, done, served⟩
      · exact absurd none asked
      · cases accepted _ refused
      · cases done

end

/-! ## The total -/

/-- Whether a report without a total is told only if nobody wants to know that. -/
def Unasked (outcome : Outcome (Except Failure Report)) (history : List Request.Done) : Prop :=
  ∀ report, outcome = .done (.ok report) → report.totalRows? = none →
    ⟨.listens .info .seeder, false⟩ ∈ history

/-- What comes before does not matter. -/
theorem meets_unasked_after {program : PoolProgram α}
    {next : α → PoolProgram (Except Failure Report)} {world : World}
    (further : ∀ value middle, Meets World.perform (next value) middle fun outcome later _ =>
      Unasked outcome later) :
    Meets World.perform (program >>= next) world fun outcome history _ =>
      Unasked outcome history := by
  have anything : Meets World.perform program world fun _ _ _ => True := trivial
  refine meets_bind.mpr (anything.mono fun outcome earlier middle _ => ?_)
  cases outcome with
  | done value =>
    refine (further value middle).mono fun outcome later after unasked => ?_
    exact fun report done none => List.mem_append_right earlier (unasked report done none)
  | halted => nofun
  | blocked => nofun

theorem meets_announce_unasked (report : Report) (world : World) :
    Meets World.perform (announce report) world fun outcome history _ =>
      outcome = .done () → report.totalRows? = none →
        ⟨.listens .info .seeder, false⟩ ∈ history := by
  refine meets_request.mpr ?_
  show Meets World.perform (if world.listens .info .seeder then _ else _) world _
  cases world.listens .info .seeder with
  | false => exact fun _ _ => List.mem_cons_self
  | true =>
    rw [if_pos rfl]
    cases report.totalRows? with
    | none => nofun
    | some total => exact fun _ differs => by cases differs

theorem meets_unasked (seeder : Seeder) (config : Config) (world : World) :
    Meets World.perform (seeder.run config) world fun outcome history _ =>
      Unasked outcome history := by
  unfold run
  cases ConnectionParams.parse config.postgres with
  | error fault => exact meets_pure.mpr nofun
  | ok params =>
    refine meets_unasked_after fun established middle => ?_
    cases established with
    | error failure => exact meets_pure.mpr nofun
    | ok =>
      refine meets_unasked_after fun _ middle => meets_unasked_after fun outcome middle =>
        meets_unasked_after fun _ middle => ?_
      cases outcome with
      | error failure => exact meets_pure.mpr nofun
      | ok routines =>
        refine meets_unasked_after fun elapsed middle => meets_bind.mpr ?_
        refine (meets_announce_unasked _ middle).mono fun outcome told after unasked => ?_
        cases outcome with
        | done =>
          rintro report ⟨⟩ none
          exact List.mem_append_left _ (unasked rfl none)
        | halted => nofun
        | blocked => nofun

/-- What a run comes to whose routines have succeeded and whose commit is acknowledged, depending on
whether anyone wants to know its total. -/
inductive Totals (seeder : Seeder) (config : Config) (listens : Bool) :
    Outcome (Except Failure Report) → Prop where
  /-- All rows are a count: there is a report, with that total. -/
  | told {errands : List Errand.Done} {report : Report}
      (served : Served config seeder.routines errands report.routines)
      (fits : report.rows < countLimit) (total : report.totalRows? = some report.rows) :
      Totals seeder config listens (.done (.ok report))
  /-- They are none, and nobody wants to know: there is a report, but it has no total. -/
  | unasked {errands : List Errand.Done} {report : Report}
      (served : Served config seeder.routines errands report.routines)
      (tooMany : countLimit ≤ report.rows) (total : report.totalRows? = none)
      (silent : listens = false) : Totals seeder config listens (.done (.ok report))
  /-- They are none, and someone wants to know: there is a sudden end. -/
  | broken {errands : List Errand.Done} {report : Report}
      (served : Served config seeder.routines errands report.routines)
      (tooMany : countLimit ≤ report.rows) (heard : listens = true) :
      Totals seeder config listens .halted

theorem totals_of_acknowledged {seeder : Seeder} {config : Config} {world : World}
    (vacant : world.Vacant) (succeed : ∀ routine ∈ seeder.routines, routine.Succeeds config)
    (acknowledged : Acknowledged (seeder.history config world)) :
    Totals seeder config (world.listens .info .seeder) (world.run (seeder.run config)).1 := by
  have course : Course seeder config (world.run (seeder.run config)).1
      (seeder.history config world) := (meets_course seeder config vacant).1
  have unasked : Unasked (world.run (seeder.run config)).1 (seeder.history config world) :=
    meets_unasked seeder config world
  have heard : ∀ level source answer, ⟨.listens level source, answer⟩ ∈
      seeder.history config world → answer = world.listens level source :=
    World.meets_heard (seeder.run config) world
  obtain ⟨pool, errands, counts, last, served, finishes, suffix⟩ :=
    course.settled succeed acknowledged
  generalize (world.run (seeder.run config)).1 = outcome at unasked finishes
  cases finishes with
  | @reported _ elapsed _ _ retires telling =>
    by_cases fits : { routines := counts, elapsed : Report }.rows < countLimit
    · exact .told served fits ((Report.totalRows?_eq _).trans (if_pos fits))
    · have none := (Report.totalRows?_eq { routines := counts, elapsed }).trans (if_neg fits)
      have silent := heard _ _ _ (unasked _ rfl none)
      exact .unasked served (Nat.not_lt.mp fits) none silent.symm
  | @overflown _ elapsed _ retires tooMany =>
    have wanted := heard .info .seeder true (suffix.mem (List.mem_append_right _ (by simp)))
    rw [Report.totalRows?_eq] at tooMany
    split at tooMany
    · cases tooMany
    · rename_i large
      exact .broken served (Nat.not_lt.mp large) wanted.symm

end Seeder

/-! ## The routine for users -/

namespace UserTable

open UserGenerator

/-- A number of rows that is told is the sum of those that were affected, and it is a count. -/
theorem Inserts.exact {total left inserted rows : Nat} {before : UserGenerator}
    {source : SeededStream} {history : List Errand.Done} {outcome : Outcome (Except Failure Nat)}
    (inserts : Inserts total left inserted before source history outcome)
    (small : inserted < countLimit) (told : outcome = .done (.ok rows)) :
    rows = inserted + (affected history).sum ∧ rows < countLimit := by
  induction inserts with
  | finished =>
    cases told
    exact ⟨rfl, small⟩
  | unmade failed => cases told
  | stuck endless => cases told
  | refused made fault => cases told
  | overflown made tooMany => cases told
  | inserted made fits others ih =>
    obtain ⟨same, count⟩ := ih fits told
    rw [affected_ok, affected_progress, List.sum_cons, ← Nat.add_assoc]
    exact ⟨same, count⟩

/-- What becomes of the rows that are affected. -/
structure Sums (total : Nat) (generator : UserGenerator) (source : SeededStream)
    (outcome : Outcome (Except Failure Nat)) (history : List Errand.Done) : Prop where
  /-- If all users are made up and no insertion is refused, then their sum is told if it is a
  count. -/
  told : ∀ users after later,
    (generateBatch total).Ends generator source (.ok users) after later →
    AllDone (exchanges history) → (affected history).sum < countLimit →
      outcome = .done (.ok (affected history).sum)
  /-- No other number is told, -/
  only : ∀ rows, outcome = .done (.ok rows) →
    rows = (affected history).sum ∧ rows < countLimit
  /-- and if it is none, then there is a sudden end. -/
  broken : countLimit ≤ (affected history).sum → outcome = .halted

/-- Whatever answers the insertions. -/
theorem sums_seed {σ : Type} (supplies : UserSupplies) (config : Config)
    (answer : (errand : Errand) → σ → errand.Answer × σ) (state : σ) :
    Sums config.seed.users (generator supplies config.seed) (source supplies config.seed)
      ((UserTable.seed supplies config).run (answering answer) state).1
      ((UserTable.seed supplies config).events (answering answer) state) := by
  have follows : Meets (answering answer) (UserTable.seed supplies config) state
      fun outcome history _ => Sums config.seed.users (generator supplies config.seed)
        (source supplies config.seed) outcome history := by
    refine meets_request.mpr ((meets_insertRest _ _ _ _ _ _).mono ?_)
    intro outcome history after inserts
    have inStep := inStep_of_inserts inserts
    refine ⟨fun users after later made all fits => ?_, fun rows told => ?_, fun tooMany => ?_⟩
    · exact (inStep.completed users after later made all fits).2
    · have exact := inserts.exact (by decide +kernel) told
      rwa [Nat.zero_add] at exact
    · exact inStep.sudden (.inr tooMany)
  exact follows

end UserTable

/-! ## Both -/

namespace Seeder

/-- How rows are counted. -/
structure Counted (seeder : Seeder) (config : Config) (world : World) : Prop where
  /-- In a run whose routines succeed and whose commit is acknowledged, -/
  run : (∀ routine ∈ seeder.routines, routine.Succeeds config) →
    Acknowledged (seeder.history config world) →
      Totals seeder config (world.listens .info .seeder) (world.run (seeder.run config)).1
  /-- and in the routine for users. -/
  users : ∀ (σ : Type) (supplies : UserSupplies)
    (answer : (errand : Errand) → σ → errand.Answer × σ) (state : σ),
      UserTable.Sums config.seed.users (UserTable.generator supplies config.seed)
        (UserTable.source supplies config.seed)
        ((UserTable.seed supplies config).run (UserTable.answering answer) state).1
        ((UserTable.seed supplies config).events (UserTable.answering answer) state)

/-- Whatever the routines, the server and the log. -/
theorem counted_of_vacant (seeder : Seeder) (config : Config) {world : World}
    (vacant : world.Vacant) : Counted seeder config world where
  run := totals_of_acknowledged vacant
  users _ supplies answer state := UserTable.sums_seed supplies config answer state

/-- Two routines that tell numbers of rows. -/
def twoTelling (rows others : Nat) : Seeder := ⟨[.telling "a" rows, .telling "b" others]⟩

theorem counted_of_vacant_twoTelling : World.Vacant .obliging ∧
    (∀ routine ∈ (twoTelling 2 3).routines, routine.Succeeds { postgres := "pg://h/d" }) ∧
    Acknowledged ((twoTelling 2 3).history { postgres := "pg://h/d" } .obliging) ∧
    Counted (twoTelling 2 3) { postgres := "pg://h/d" } .obliging := by
  have vacant : World.Vacant .obliging := ⟨rfl, rfl⟩
  refine ⟨vacant, ?_, by decide +kernel, counted_of_vacant _ _ vacant⟩
  exact List.forall_mem_cons.mpr ⟨Routine.succeeds_telling _ _ _,
    List.forall_mem_singleton.mpr (Routine.succeeds_telling _ _ _)⟩

/-- With numbers of rows that add up to no count, an acknowledged commit is followed by a sudden end
if someone listens, and by a report without a total if nobody does. -/
theorem total_untold :
    Acknowledged ((twoTelling (2 ^ (63 : Nat)) (2 ^ (63 : Nat))).history
        { postgres := "pg://h/d" } .obliging) ∧
      (World.obliging.run ((twoTelling (2 ^ (63 : Nat)) (2 ^ (63 : Nat))).run
        { postgres := "pg://h/d" })).1 = .halted ∧
      Acknowledged ((twoTelling (2 ^ (63 : Nat)) (2 ^ (63 : Nat))).history
        { postgres := "pg://h/d" } { World.obliging with listens := fun _ _ => false }) ∧
      ∃ report, (World.run ((twoTelling (2 ^ (63 : Nat)) (2 ^ (63 : Nat))).run
          { postgres := "pg://h/d" }) { World.obliging with listens := fun _ _ => false }).1 =
            .done (.ok report) ∧ report.totalRows? = none := by
  refine ⟨by decide +kernel, by decide +kernel, by decide +kernel,
    { routines := [("a", 2 ^ (63 : Nat)), ("b", 2 ^ (63 : Nat))] }, by decide +kernel,
    by decide +kernel⟩

end Seeder
end Seedbed
