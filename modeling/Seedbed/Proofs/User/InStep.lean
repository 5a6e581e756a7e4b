import Mathlib.Algebra.Ring.Nat
import Seedbed.Proofs.User.Batches
import Seedbed.Proofs.User.Reproducible

/-!
# Row by row

The routine for users makes up a user and inserts it before it makes up the next one; a batch makes
up all of them at once. Given the same generator and the same source, the routine sends the users of
the batch, in order, as far as it comes (`inStep_of_rngSeed`). All that can come of it is listed
first (`Inserts`), each course in step with the generator; what a batch makes of the same generator
is then compared along such a course.
-/

namespace Seedbed

open Program Database

/-! ## What errands tell -/

/-- How many rows the statements among some errands affected, as far as they were carried out. -/
def affected (history : List Errand.Done) : List Nat :=
  (exchanges history).filterMap (·.2.toOption)

/-- The statements that were sent on some errands. -/
def statements (history : List Errand.Done) : List Statement := (exchanges history).map (·.1)

/-- The line that was written on an errand, if it is of that kind. -/
def Errand.line? : Errand.Done → Option Log.Line
  | ⟨.say line, _⟩ => some line
  | ⟨.send _, _⟩ => none

/-- The lines that were written on some errands. -/
def lines (history : List Errand.Done) : List Log.Line := history.filterMap Errand.line?

section

variable {statement : Statement} {rows : Nat} {fault : Fault} {line : Log.Line}
  {later : List Errand.Done}

@[simp] theorem exchanges_send (reply : Except Fault Nat) :
    exchanges (⟨.send statement, reply⟩ :: later) = (statement, reply) :: exchanges later := rfl

@[simp] theorem exchanges_say : exchanges (⟨.say line, ()⟩ :: later) = exchanges later := rfl

@[simp] theorem exchanges_nil : exchanges [] = [] := rfl

@[simp] theorem statements_send (reply : Except Fault Nat) :
    statements (⟨.send statement, reply⟩ :: later) = statement :: statements later := rfl

@[simp] theorem statements_say : statements (⟨.say line, ()⟩ :: later) = statements later := rfl

@[simp] theorem affected_ok :
    affected (⟨.send statement, .ok rows⟩ :: later) = rows :: affected later := rfl

@[simp] theorem affected_error :
    affected (⟨.send statement, .error fault⟩ :: later) = affected later := rfl

@[simp] theorem affected_say : affected (⟨.say line, ()⟩ :: later) = affected later := rfl

@[simp] theorem lines_send (reply : Except Fault Nat) :
    lines (⟨.send statement, reply⟩ :: later) = lines later := rfl

@[simp] theorem lines_say : lines (⟨.say line, ()⟩ :: later) = line :: lines later := rfl

end

/-! ## Courses of the routine -/

namespace UserTable

open UserGenerator

/-- The first line of the routine for some number of users. -/
def openingLine (total : Nat) : Log.Line := line ("Seeding " ++ toString total ++ " users...")

/-- The line about the progress after some users of a number of users. -/
def progressLine (total made : Nat) : Log.Line :=
  line ("  Seeded " ++ toString made ++ "/" ++ toString total ++ " users")

/-- The last line of the routine. -/
def closingLine (rows : Nat) : Log.Line := line ("Seeded " ++ toString rows ++ " users")

/-- What is told of the progress after some users. -/
def progress (total made : Nat) : List Errand.Done :=
  if made % progressInterval = 0 then [⟨.say (progressLine total made), ()⟩] else []

/-- All that can come of inserting the users that are left of a number of users, in step with the
generator: what is asked and answered, and how it ends. -/
inductive Inserts (total : Nat) : (left inserted : Nat) → UserGenerator → SeededStream →
    List Errand.Done → Outcome (Except Failure Nat) → Prop where
  | finished {inserted : Nat} {generator : UserGenerator} {source : SeededStream} :
      Inserts total 0 inserted generator source [⟨.say (closingLine inserted), ()⟩]
        (.done (.ok inserted))
  | unmade {left inserted : Nat} {before after : UserGenerator} {source later : SeededStream}
      {failure : Failure} (failed : generate.Ends before source (.error failure) after later) :
      Inserts total (left + 1) inserted before source [] (.done (.error failure))
  | stuck {left inserted : Nat} {before : UserGenerator} {source : SeededStream}
      (endless : ∀ result after later, ¬ generate.Ends before source result after later) :
      Inserts total (left + 1) inserted before source [] .halted
  | refused {left inserted : Nat} {before after : UserGenerator} {source later : SeededStream}
      {user : User} (made : generate.Ends before source (.ok user) after later) (fault : Fault) :
      Inserts total (left + 1) inserted before source [⟨.send user.insertStatement, .error fault⟩]
        (.done (.error (.database fault)))
  /-- The rows add up to no count. -/
  | overflown {left inserted rows : Nat} {before after : UserGenerator}
      {source later : SeededStream} {user : User}
      (made : generate.Ends before source (.ok user) after later)
      (tooMany : countLimit ≤ inserted + rows) :
      Inserts total (left + 1) inserted before source [⟨.send user.insertStatement, .ok rows⟩]
        .halted
  | inserted {left inserted rows : Nat} {before after : UserGenerator} {source later : SeededStream}
      {user : User} {history : List Errand.Done} {outcome : Outcome (Except Failure Nat)}
      (made : generate.Ends before source (.ok user) after later)
      (fits : inserted + rows < countLimit)
      (others : Inserts total left (inserted + rows) after later history outcome) :
      Inserts total (left + 1) inserted before source
        (⟨.send user.insertStatement, .ok rows⟩ :: (progress total (total - left) ++ history))
        outcome

section

variable {σ : Type} {answer : (errand : Errand) → σ → errand.Answer × σ}

/-- Surroundings that answer every errand. -/
def answering (answer : (errand : Errand) → σ → errand.Answer × σ) (errand : Errand) (state : σ) :
    Option (errand.Answer × σ) := some (answer errand state)

theorem meets_tellProgress {total made : Nat} {next : Unit → Work α} {state : σ}
    {condition : Outcome α → List Errand.Done → σ → Prop}
    (further : ∀ middle, Meets (answering answer) (next ()) middle fun outcome later =>
      condition outcome (progress total made ++ later)) :
    Meets (answering answer) (tellProgress made total >>= next) state condition := by
  unfold tellProgress
  unfold progress at further
  split
  · rename_i due
    simp only [if_pos due] at further
    exact meets_request.mpr (further _)
  · rename_i other
    simp only [if_neg other] at further
    exact further state

theorem meets_insertRest (total left inserted : Nat) (generator : UserGenerator)
    (source : SeededStream) (state : σ) :
    Meets (answering answer) (insertRest total left inserted generator source) state
      fun outcome history _ => Inserts total left inserted generator source history outcome := by
  induction left generalizing inserted generator source state with
  | zero => exact meets_request.mpr (meets_pure.mpr .finished)
  | succ left ih =>
    cases ran : (generate.run.run generator).run source with
    | error halt =>
      rw [insertRest, ran]
      refine .stuck fun result after later ends => ?_
      rw [Generation.Ends, ran] at ends
      cases ends
    | ok ended =>
      obtain ⟨⟨result, after⟩, later⟩ := ended
      cases result with
      | error failure =>
        rw [insertRest, ran]
        exact Inserts.unmade ran
      | ok user =>
        rw [insertRest_made ran, meets_ask]
        show Meets (answering answer) (goOn total left inserted after later _) _ _
        obtain ⟨reply, middle⟩ := answer (.send user.insertStatement) state
        cases reply with
        | error fault => exact Inserts.refused ran fault
        | ok rows =>
          rw [goOn]
          cases counted : addCounts? inserted rows with
          | none => exact Inserts.overflown ran (by grind [addCounts?])
          | some sum =>
            obtain ⟨rfl, fits⟩ := addCounts?_eq_some_iff.mp counted
            refine meets_tellProgress fun middle => ?_
            exact (ih (inserted + rows) after later middle).mono
              fun outcome history _ others => .inserted ran fits others

end

/-! ## Along a course -/

section

variable {total left inserted : Nat} {before : UserGenerator} {source : SeededStream}
  {history : List Errand.Done} {outcome : Outcome (Except Failure Nat)}

@[simp] theorem exchanges_progress (made : Nat) (later : List Errand.Done) :
    exchanges (progress total made ++ later) = exchanges later := by
  unfold progress
  split <;> rfl

@[simp] theorem statements_progress (made : Nat) (later : List Errand.Done) :
    statements (progress total made ++ later) = statements later := by
  rw [statements, exchanges_progress, statements]

@[simp] theorem affected_progress (made : Nat) (later : List Errand.Done) :
    affected (progress total made ++ later) = affected later := by
  rw [affected, exchanges_progress, affected]

theorem allDone_cons {exchange : Exchange} {later : List Exchange}
    (all : AllDone (exchange :: later)) : exchange.2.isOk ∧ AllDone later :=
  List.forall_mem_cons.mp all

/-- If the batch is made up and every statement is carried out, then every user of the batch is
inserted. -/
theorem Inserts.completed {users : List User} {after : UserGenerator} {later : SeededStream}
    (inserts : Inserts total left inserted before source history outcome)
    (made : (generateBatch left).Ends before source (.ok users) after later)
    (all : AllDone (exchanges history)) (fits : inserted + (affected history).sum < countLimit) :
    statements history = users.map User.insertStatement ∧
      outcome = .done (.ok (inserted + (affected history).sum)) := by
  induction inserts generalizing users after later with
  | finished =>
    obtain ⟨same, -, -⟩ := ends_generateBatch_zero.mp made
    cases same
    exact ⟨rfl, rfl⟩
  | unmade failed => cases eq_error_of_failed failed made
  | stuck endless =>
    rcases ends_generateBatch_succ.mp made with ⟨_, _, failed⟩ | ⟨_, _, _, _, first, _⟩
    · exact absurd failed (endless _ _ _)
    · exact absurd first (endless _ _ _)
  | refused _ fault => cases (allDone_cons all).1
  | overflown _ tooMany =>
    simp only [affected_ok, List.sum_cons] at fits
    omega
  | inserted first _ others ih =>
    obtain ⟨rest, ended, same⟩ := ends_generateBatch_of_made first made
    cases rest with
    | error failure => cases same
    | ok rest =>
      cases same
      simp only [affected_ok, affected_progress, List.sum_cons, ← Nat.add_assoc] at fits ⊢
      simp only [exchanges_send, exchanges_progress] at all
      obtain ⟨sent, ended⟩ := ih ended (allDone_cons all).2 fits
      refine ⟨?_, ended⟩
      rw [statements_send, statements_progress, sent, List.map_cons]

/-- If the batch fails and every statement is carried out, then the users that were made up before
are inserted, and the failure is the same. -/
theorem Inserts.failed {failure : Failure} {after : UserGenerator} {later : SeededStream}
    (inserts : Inserts total left inserted before source history outcome)
    (failed : (generateBatch left).Ends before source (.error failure) after later)
    (all : AllDone (exchanges history)) (fits : inserted + (affected history).sum < countLimit) :
    ∃ users middle between, users.length < left ∧
      (generateBatch users.length).Ends before source (.ok users) middle between ∧
      (∃ after later, generate.Ends middle between (.error failure) after later) ∧
      statements history = users.map User.insertStatement ∧ outcome = .done (.error failure) := by
  induction inserts with
  | finished =>
    obtain ⟨same, -, -⟩ := ends_generateBatch_zero.mp failed
    cases same
  | unmade failed' =>
    cases eq_error_of_failed failed' failed
    exact ⟨[], _, _, Nat.succ_pos _, ends_generateBatch_zero.mpr ⟨rfl, rfl, rfl⟩, ⟨_, _, failed'⟩,
      rfl, rfl⟩
  | stuck endless =>
    rcases ends_generateBatch_succ.mp failed with ⟨_, _, first⟩ | ⟨_, _, _, _, first, _⟩
    · exact absurd first (endless _ _ _)
    · exact absurd first (endless _ _ _)
  | refused _ fault => cases (allDone_cons all).1
  | overflown _ tooMany =>
    simp only [affected_ok, List.sum_cons] at fits
    omega
  | @inserted _ _ _ _ _ _ _ user _ _ first _ others ih =>
    obtain ⟨rest, ended, same⟩ := ends_generateBatch_of_made first failed
    cases rest with
    | ok rest => cases same
    | error failure' =>
      cases same
      simp only [affected_ok, affected_progress, List.sum_cons, ← Nat.add_assoc] at fits
      simp only [exchanges_send, exchanges_progress] at all
      obtain ⟨users, middle, between, fewer, made, failing, sent, ended⟩ :=
        ih ended (allDone_cons all).2 fits
      refine ⟨user :: users, middle, between, Nat.succ_lt_succ fewer, ?_, failing, ?_, ended⟩
      · exact ends_generateBatch_succ.mpr (.inr ⟨_, _, _, _, first, made, rfl⟩)
      · rw [statements_send, statements_progress, sent, List.map_cons]

/-- If a statement is refused, then it is the last one, and it inserts the user that is made up after
those before. -/
theorem Inserts.refused_last {statement : Statement} {fault : Fault}
    (inserts : Inserts total left inserted before source history outcome)
    (refused : (statement, .error fault) ∈ exchanges history) :
    ∃ users middle between, users.length ≤ left ∧
      (generateBatch users.length).Ends before source (.ok users) middle between ∧
      statements history = users.map User.insertStatement ∧
      (exchanges history).map (·.2) = (affected history).map .ok ++ [.error fault] ∧
      history.getLast? = some ⟨.send statement, .error fault⟩ ∧
      outcome = .done (.error (.database fault)) := by
  induction inserts with
  | finished => cases refused
  | unmade failed => cases refused
  | stuck endless => cases refused
  | @refused _ _ _ after _ later user made fault' =>
    cases List.mem_singleton.mp refused
    refine ⟨[user], after, later, Nat.succ_pos _, ?_, rfl, rfl, rfl, rfl⟩
    exact ends_generateBatch_succ.mpr (.inr ⟨_, _, _, _, made,
      ends_generateBatch_zero.mpr ⟨rfl, rfl, rfl⟩, rfl⟩)
  | overflown _ tooMany => cases List.mem_singleton.mp refused
  | @inserted _ _ rows _ _ _ _ user rest _ first _ others ih =>
    simp only [exchanges_send, exchanges_progress, List.mem_cons] at refused
    rcases refused with same | refused
    · cases same
    obtain ⟨users, middle, between, atMost, made, sent, replies, last, ended⟩ := ih refused
    refine ⟨user :: users, middle, between, Nat.succ_le_succ atMost, ?_, ?_, ?_, ?_, ended⟩
    · exact ends_generateBatch_succ.mpr (.inr ⟨_, _, _, _, first, made, rfl⟩)
    · rw [statements_send, statements_progress, sent, List.map_cons]
    · simp [replies]
    · simp [List.getLast?_cons, List.getLast?_append, last]

theorem Inserts.length_statements_le
    (inserts : Inserts total left inserted before source history outcome) :
    (statements history).length ≤ left := by
  induction inserts with
  | finished => exact Nat.le_refl 0
  | unmade failed => exact Nat.zero_le _
  | stuck endless => exact Nat.zero_le _
  | refused made fault => exact Nat.succ_le_succ (Nat.zero_le _)
  | overflown made tooMany => exact Nat.succ_le_succ (Nat.zero_le _)
  | inserted first _ others ih =>
    rw [statements_send, statements_progress, List.length_cons]
    exact Nat.succ_le_succ ih

/-- If the batch neither comes to an end nor fails, then neither does the routine. -/
theorem Inserts.stuck_too
    (inserts : Inserts total left inserted before source history outcome)
    (endless : ∀ result after later, ¬ (generateBatch left).Ends before source result after later)
    (all : AllDone (exchanges history)) : outcome = .halted := by
  induction inserts with
  | finished => exact absurd (ends_generateBatch_zero.mpr ⟨rfl, rfl, rfl⟩) (endless _ _ _)
  | unmade failed =>
    exact absurd (ends_generateBatch_succ.mpr (.inl ⟨_, rfl, failed⟩)) (endless _ _ _)
  | stuck endless => rfl
  | refused made fault => cases (allDone_cons all).1
  | overflown made tooMany => rfl
  | inserted first _ others ih =>
    simp only [exchanges_send, exchanges_progress] at all
    refine ih (fun result after later ends => ?_) (allDone_cons all).2
    exact endless _ _ _ (ends_generateBatch_succ.mpr (.inr ⟨_, _, _, _, first, ends, rfl⟩))

/-- Rows that add up to no count put an end to the routine. -/
theorem Inserts.overflown_halted
    (inserts : Inserts total left inserted before source history outcome)
    (fitted : inserted < countLimit) (tooMany : countLimit ≤ inserted + (affected history).sum) :
    outcome = .halted := by
  induction inserts with
  | finished => exact absurd tooMany (Nat.not_le.mpr fitted)
  | unmade failed => exact absurd tooMany (Nat.not_le.mpr fitted)
  | stuck endless => rfl
  | refused made fault => exact absurd tooMany (Nat.not_le.mpr fitted)
  | overflown made tooMany => rfl
  | inserted first fits others ih =>
    simp only [affected_ok, affected_progress, List.sum_cons, ← Nat.add_assoc] at tooMany
    exact ih fits tooMany

/-- The numbers of users after which the progress is told, out of some that follow one another. -/
def milestones (made count : Nat) : List Nat :=
  (List.range' (made + 1) count).filter (progressInterval ∣ ·)

theorem milestones_succ (made count : Nat) :
    milestones made (count + 1) =
      (if (made + 1) % progressInterval = 0 then [made + 1] else []) ++
        milestones (made + 1) count := by
  rw [milestones, List.range'_succ, List.filter_cons, milestones]
  simp only [Nat.dvd_iff_mod_eq_zero, decide_eq_true_eq]
  split <;> rfl

theorem lines_progress (made : Nat) (later : List Errand.Done) :
    lines (progress total made ++ later) =
      (if made % progressInterval = 0 then [made] else []).map (progressLine total) ++
        lines later := by
  unfold progress
  split <;> rfl

/-- What is told at the end. -/
def closingLines : Outcome (Except Failure Nat) → List Log.Line
  | .done (.ok rows) => [closingLine rows]
  | _ => []

theorem Inserts.lines_eq (inserts : Inserts total left inserted before source history outcome)
    (atMost : left ≤ total) (fits : inserted + (affected history).sum < countLimit) :
    lines history =
      (milestones (total - left) (affected history).length).map (progressLine total) ++
        closingLines outcome := by
  induction inserts with
  | finished => rfl
  | unmade failed => rfl
  | stuck endless => rfl
  | refused made fault => rfl
  | overflown made tooMany =>
    simp only [affected_ok, List.sum_cons] at fits
    omega
  | @inserted left before rows _ _ _ _ user rest _ first _ others ih =>
    have next : total - left = total - (left + 1) + 1 := by omega
    simp only [affected_ok, affected_progress, List.sum_cons, ← Nat.add_assoc] at fits
    rw [lines_send, lines_progress, ih (Nat.le_of_succ_le atMost) fits, affected_ok,
      affected_progress, List.length_cons, milestones_succ, next, List.map_append,
      List.append_assoc]

/-- Each line but the last one of a routine that succeeds tells how many users were inserted before
it. -/
theorem Inserts.line_eq (inserts : Inserts total left inserted before source history outcome)
    (atMost : left ≤ total) {earlier later : List Errand.Done} {line : Log.Line}
    (split : history = earlier ++ ⟨.say line, ()⟩ :: later) :
    line = progressLine total (total - left + (affected earlier).length) ∨
      later = [] ∧ closingLines outcome = [line] := by
  induction inserts generalizing earlier with
  | finished =>
    cases earlier with
    | nil =>
      cases split
      exact .inr ⟨rfl, rfl⟩
    | cons => simp at split
  | unmade failed => simp at split
  | stuck endless => simp at split
  | refused made fault =>
    cases earlier with
    | nil => cases split
    | cons => simp at split
  | overflown made tooMany =>
    cases earlier with
    | nil => cases split
    | cons => simp at split
  | @inserted left before rows _ _ _ _ user rest _ first _ others ih =>
    have next : total - left = total - (left + 1) + 1 := by omega
    cases earlier with
    | nil => cases split
    | cons head earlier =>
      obtain ⟨rfl, further⟩ := List.cons.inj split
      rw [affected_ok, List.length_cons]
      have go {earlier : List Errand.Done} (same : rest = earlier ++ ⟨.say line, ()⟩ :: later) :
          line = progressLine total (total - (left + 1) + ((affected earlier).length + 1)) ∨ _ :=
        (ih (Nat.le_of_succ_le atMost) same).imp_left fun told => by
          rw [told, next]
          congr 1
          omega
      unfold progress at further
      split at further
      · cases earlier with
        | nil =>
          cases further
          exact .inl (by rw [next]; rfl)
        | cons told earlier =>
          obtain ⟨rfl, same⟩ := List.cons.inj further
          rw [affected_say]
          exact go same
      · exact go further

end

/-! ## The routine and the batch -/

/-- How the routine keeps in step with a batch that a generator makes up from a source. -/
structure InStep (total : Nat) (generator : UserGenerator) (source : SeededStream)
    (outcome : Outcome (Except Failure Nat)) (history : List Errand.Done) : Prop where
  /-- If the batch is made up and no insertion is refused, then each of its users is inserted once,
  in order, and the routine tells the sum of the affected rows. -/
  completed : ∀ users after later,
    (generateBatch total).Ends generator source (.ok users) after later →
    AllDone (exchanges history) → (affected history).sum < countLimit →
      statements history = users.map User.insertStatement ∧
        outcome = .done (.ok (affected history).sum)
  /-- The sum is the number of users if each insertion affects one row. -/
  counted : ∀ users after later,
    (generateBatch total).Ends generator source (.ok users) after later →
    AllDone (exchanges history) → (∀ rows ∈ affected history, rows = 1) → total < countLimit →
      outcome = .done (.ok total)
  /-- If the batch fails and no insertion is refused, then the users that were made up before are
  inserted, and the failure is told as it is. -/
  failed : ∀ failure after later,
    (generateBatch total).Ends generator source (.error failure) after later →
    AllDone (exchanges history) → (affected history).sum < countLimit →
      ∃ users middle between, users.length < total ∧
        (generateBatch users.length).Ends generator source (.ok users) middle between ∧
        (∃ after later, generate.Ends middle between (.error failure) after later) ∧
        statements history = users.map User.insertStatement ∧ outcome = .done (.error failure)
  /-- If an insertion is refused, then it is the last thing that is asked, and the fault is told.
  What was sent are the first users of the batch, whatever comes of the batch after them. -/
  refused : ∀ statement fault, (statement, .error fault) ∈ exchanges history →
    ∃ users middle between, users.length ≤ total ∧ users.length = (affected history).length + 1 ∧
      (generateBatch users.length).Ends generator source (.ok users) middle between ∧
      statements history = users.map User.insertStatement ∧
      (exchanges history).map (·.2) = (affected history).map .ok ++ [.error fault] ∧
      history.getLast? = some ⟨.send statement, .error fault⟩ ∧
      outcome = .done (.error (.database fault))
  /-- The lines are the first one, one after every hundred of the inserted users, and the last one
  if the routine succeeds. -/
  told : (affected history).sum < countLimit →
    lines history = openingLine total ::
      ((milestones 0 (affected history).length).map (progressLine total) ++ closingLines outcome)
  /-- Each line in between tells how many users were inserted before it. -/
  timely : ∀ earlier line later, history = earlier ++ ⟨.say line, ()⟩ :: later → earlier ≠ [] →
    line = progressLine total (affected earlier).length ∨ later = [] ∧ closingLines outcome = [line]
  /-- Without an end of the batch or a count of all rows there is only a sudden end. -/
  sudden :
    (∀ result after later, ¬ (generateBatch total).Ends generator source result after later) ∧
        AllDone (exchanges history) ∨ countLimit ≤ (affected history).sum →
      outcome = .halted

theorem length_affected {history : List Errand.Done} (all : AllDone (exchanges history)) :
    (affected history).length = (statements history).length := by
  unfold affected statements
  generalize exchanges history = exchanges at all
  induction exchanges with
  | nil => rfl
  | cons exchange later ih =>
    obtain ⟨statement, reply⟩ := exchange
    cases reply with
    | error fault => cases (allDone_cons all).1
    | ok rows => exact congrArg Nat.succ (ih (allDone_cons all).2)

theorem inStep_of_inserts {total : Nat} {generator : UserGenerator} {source : SeededStream}
    {outcome : Outcome (Except Failure Nat)} {history : List Errand.Done}
    (inserts : Inserts total total 0 generator source history outcome) :
    InStep total generator source outcome (⟨.say (openingLine total), ()⟩ :: history) := by
  have completed (users : List User) (after : UserGenerator) (later : SeededStream)
      (made : (generateBatch total).Ends generator source (.ok users) after later)
      (all : AllDone (exchanges history)) (fits : (affected history).sum < countLimit) :
      statements history = users.map User.insertStatement ∧
        outcome = .done (.ok (affected history).sum) := by
    rw [← Nat.zero_add (affected history).sum] at fits ⊢
    exact inserts.completed made all fits
  refine ⟨completed, ?_, ?_, ?_, ?_, ?_, ?_⟩
  · intro users after later made all single few
    rw [exchanges_say] at all
    rw [affected_say] at single
    have ones : (affected history).sum = (statements history).length := by
      rw [← length_affected all, List.eq_replicate_of_mem single, List.sum_replicate_nat,
        List.length_replicate, Nat.mul_one]
    have fits := Nat.lt_of_le_of_lt (ones ▸ inserts.length_statements_le) few
    obtain ⟨sent, ended⟩ := completed users after later made all fits
    rw [ended, ones, sent, List.length_map, length_of_generateBatch made]
  · intro failure after later failed all fits
    exact inserts.failed failed all (by rwa [Nat.zero_add])
  · intro statement fault refused
    obtain ⟨users, middle, between, atMost, made, sent, replies, last, ended⟩ :=
      inserts.refused_last refused
    have length : users.length = (affected history).length + 1 := by
      have sizes := congrArg List.length sent
      have sizes' := congrArg List.length replies
      simp only [statements, List.length_map, List.length_append, List.length_singleton] at sizes sizes'
      omega
    refine ⟨users, middle, between, atMost, length, made, sent, replies, ?_, ended⟩
    rw [List.getLast?_cons, last]
    rfl
  · intro fits
    rw [lines_say, inserts.lines_eq (Nat.le_refl total) (by rwa [Nat.zero_add]), Nat.sub_self]
    rfl
  · intro earlier line later split inside
    cases earlier with
    | nil => exact absurd rfl inside
    | cons head earlier =>
      obtain ⟨rfl, same⟩ := List.cons.inj split
      have told := inserts.line_eq (Nat.le_refl total) same
      rwa [Nat.sub_self, Nat.zero_add] at told
  · rintro (⟨endless, all⟩ | tooMany)
    · exact inserts.stuck_too endless all
    · exact inserts.overflown_halted (by decide +kernel) (by rwa [Nat.zero_add])

section

variable {σ : Type}

/-- Whatever answers the insertions: the routine that starts from a seed keeps in step with the batch
of the same generator from the same seed. -/
theorem inStep_of_rngSeed {config : Config} {seed : Nat}
    (seeded : config.seed.rngSeed? = some seed) (supplies : UserSupplies)
    (answer : (errand : Errand) → σ → errand.Answer × σ) (state : σ) :
    InStep config.seed.users
      (.new (.ofSettings config.seed) supplies.hasher supplies.ids supplies.timestamp)
      (.ofSeed (UInt64.ofNat seed))
      ((UserTable.seed supplies config).run (answering answer) state).1
      ((UserTable.seed supplies config).events (answering answer) state) := by
  have follows : Meets (answering answer) (UserTable.seed supplies config) state
      fun outcome history _ => InStep config.seed.users (generator supplies config.seed)
        (source supplies config.seed) outcome history :=
    meets_request.mpr ((meets_insertRest _ _ _ _ _ _).mono fun _ _ _ => inStep_of_inserts)
  rw [source_of_rngSeed seeded] at follows
  exact follows

end

/-- A server that carries out two insertions and refuses the third. -/
def twoOnly : (errand : Errand) → (left : Nat) → errand.Answer × Nat
  | .send _, 0 => (.error (.refused "enough"), 0)
  | .send _, left + 1 => (.ok 1, left)
  | .say _, left => ((), left)

theorem inStep_of_rngSeed_twoOnly :
    trialConfig.seed.rngSeed? = some 42 ∧
      InStep 3 (.new (.ofSettings trialConfig.seed) trialSupplies.hasher trialSupplies.ids 0)
        (.ofSeed 42) ((UserTable.seed trialSupplies trialConfig).run (answering twoOnly) 2).1
        ((UserTable.seed trialSupplies trialConfig).events (answering twoOnly) 2) :=
  have seeded : trialConfig.seed.rngSeed? = some 42 := rfl
  ⟨seeded, inStep_of_rngSeed seeded trialSupplies twoOnly 2⟩

end UserTable
end Seedbed
