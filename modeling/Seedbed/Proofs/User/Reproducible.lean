import Seedbed.Proofs.Seeder.Work
import Seedbed.Proofs.User.Life

/-!
# Reproducible users

Two routines for users that start from the same seed, and may try as many candidates for a unique
value. Whatever else is different about them, and whatever the server answers: as far as both go,
the rows that they send are the same but for identifiers, password hashes and time stamps
(`reproduced_of_rngSeed`). The reason is that neither identifiers nor hashes are drawn from the
source that the seed starts (`Alike.step`).
-/

namespace Seedbed

open Program

/-! ## Lists that agree -/

/-- Whether two lists are the same as far as both go. -/
def Agree (first second : List α) : Prop := first <+: second ∨ second <+: first

theorem agree_nil_left (list : List α) : Agree [] list := .inl List.nil_prefix

theorem agree_nil_right (list : List α) : Agree list [] := .inr List.nil_prefix

theorem Agree.cons {first second : List α} (agree : Agree first second) (head : α) :
    Agree (head :: first) (head :: second) :=
  agree.imp (List.cons_prefix_cons.mpr ⟨rfl, ·⟩) (List.cons_prefix_cons.mpr ⟨rfl, ·⟩)

theorem Agree.symm {first second : List α} (agree : Agree first second) : Agree second first :=
  Or.symm agree

/-- What is cut short still agrees. -/
theorem Agree.cut {first second shorter : List α} (agree : Agree first second)
    (shortened : shorter <+: first) : Agree shorter second := by
  rcases agree with longer | longer
  · exact .inl (shortened.trans longer)
  · exact List.prefix_or_prefix_of_prefix shortened longer

/-- The shorter one of two lists that agree is the beginning of the longer one. -/
theorem Agree.eq_take {first second : List α} (agree : Agree first second)
    (shorter : first.length ≤ second.length) : first = second.take first.length := by
  rcases agree with longer | longer
  · exact List.prefix_iff_eq_take.mp longer
  · have same := longer.eq_of_length_le shorter
    rw [same, List.take_length]

/-! ## Rows -/

/-- The columns of users that are not to be the same again. -/
def User.unrepeatable : List String := ["id", "password_hash", "created_at", "updated_at"]

/-- The text of an insertion, and the other columns of its row with their values. -/
abbrev RepeatableRow := String × List (String × Database.Parameter)

/-- What is repeatable of the row that is sent on an errand, if one is inserted. -/
def Errand.row? : Errand → Option RepeatableRow
  | .send (.insert text parameters) =>
    some (text, (User.columns.zip parameters).filter (·.1 ∉ User.unrepeatable))
  | _ => none

/-- The rows that are sent on some errands. -/
def rowsSent (errands : List Errand) : List RepeatableRow := errands.filterMap Errand.row?

theorem rowsSent_append (earlier later : List Errand) :
    rowsSent (earlier ++ later) = rowsSent earlier ++ rowsSent later := List.filterMap_append

/-- What is repeatable of a user's row. -/
def User.row (user : User) : RepeatableRow :=
  (insertion.text, [("username", .text user.username), ("email", .text user.email),
    ("display_name", .text user.displayName), ("badges", .int4 user.badges),
    ("status_text", .text user.statusText), ("status_presence", .text user.statusPresence),
    ("profile_content", .text user.profileContent),
    ("profile_background_id", user.profileBackgroundId?.elim .null .text),
    ("privileged", .bool user.privileged),
    ("suspended_until", user.suspendedUntil?.elim .null .int8), ("verified", .bool user.verified)])

theorem rowsSent_insert (user : User) (later : List Errand) :
    rowsSent (.send user.insertStatement :: later) = user.row :: rowsSent later :=
  List.filterMap_cons_some rfl

section

variable {σ : Type} (perform : (errand : Errand) → σ → Option (errand.Answer × σ))

/-- Run from a state, work meets a condition on its end and on the rows that it sends. -/
def Sends (work : Work α) (state : σ) (condition : Outcome α → List RepeatableRow → Prop) : Prop :=
  condition (work.run perform state).1 (rowsSent (work.asked perform state))

variable {perform} {state : σ}

theorem sends_insert {user : User} {next : Except Database.Fault Nat → Work α}
    {condition : Outcome α → List RepeatableRow → Prop} :
    Sends perform (.ask (.send user.insertStatement) next) state condition ↔
      match perform (.send user.insertStatement) state with
      | some (reply, state) => Sends perform (next reply) state fun outcome rows =>
          condition outcome (user.row :: rows)
      | none => condition .blocked [user.row] := by
  simp only [Sends, run, asked, rowsSent_insert]
  cases perform (.send user.insertStatement) state <;> rfl

/-- Work that sends no rows does not matter, as long as it comes to an end. -/
theorem sends_after_silent {work : Work α} {next : α → Work β}
    {condition : Outcome β → List RepeatableRow → Prop}
    (silent : work.Asks fun errand => errand.row? = none)
    (further : ∀ value middle, Sends perform (next value) middle condition)
    (stopped : condition .halted [] ∧ condition .blocked []) :
    Sends perform (work >>= next) state condition := by
  show condition ((work.bind next).run perform state).1
    (rowsSent ((work.bind next).asked perform state))
  have nothing : rowsSent (work.asked perform state) = [] :=
    List.filterMap_eq_nil_iff.mpr (permitted_of_mem_asked silent state)
  rw [run_bind, asked_bind, rowsSent_append, nothing, List.nil_append]
  cases work.run perform state with
  | mk outcome middle =>
    cases outcome with
    | done value => exact further value middle
    | halted => exact stopped.1
    | blocked => exact stopped.2

end

/-! ## What the routine sends -/

namespace UserTable

open UserGenerator (generate batchSteps batchSteps_made users)

theorem silent_say (text : String) : (Work.say (line text)).Asks fun errand => errand.row? = none :=
  And.intro rfl fun _ => trivial

theorem silent_tellProgress (made total : Nat) :
    (tellProgress made total).Asks fun errand => errand.row? = none := by
  unfold tellProgress
  split
  · exact silent_say _
  · exact trivial

/-- How the routine goes on once the server has replied to the insertion of a user. -/
def goOn (total left inserted : Nat) (generator : UserGenerator) (source : SeededStream) :
    (reply : Except Database.Fault Nat) → Work (Except Failure Nat)
  | .error fault => return .error (.database fault)
  | .ok affected =>
    match addCounts? inserted affected with
    | none => .halt
    | some sum => do
      tellProgress (total - left) total
      insertRest total left sum generator source

section

variable {total left inserted : Nat} {before after : UserGenerator} {source later : SeededStream}

theorem insertRest_made {user : User} (made : generate.Ends before source (.ok user) after later) :
    insertRest total (left + 1) inserted before source =
      .ask (Errand.send user.insertStatement) (goOn total left inserted after later) := by
  rw [insertRest, made]
  refine congrArg (Program.ask (Errand.send user.insertStatement)) (funext fun reply => ?_)
  cases reply <;> rfl

/-- If no user is made up, nothing more is sent. -/
theorem insertRest_unmade
    (unmade : ∀ user after later, ¬ generate.Ends before source (.ok user) after later) :
    insertRest total (left + 1) inserted before source = .halt ∨
      ∃ failure, insertRest total (left + 1) inserted before source = return .error failure := by
  rw [insertRest]
  split
  · exact .inl rfl
  · exact .inr ⟨_, rfl⟩
  · rename_i user after later made
    exact absurd made (unmade user after later)

end

/-- The rows that are sent are the beginning of those of a batch; all of them are sent if the
routine succeeds. -/
def Filled (count : Nat) (batch : List User) (outcome : Outcome (Except Failure Nat))
    (rows : List RepeatableRow) : Prop :=
  rows <+: batch.map User.row ∧ ∀ inserted, outcome = .done (.ok inserted) → rows.length = count

theorem filled_nothing {count : Nat} {batch : List User} {outcome : Outcome (Except Failure Nat)}
    (failed : ∀ inserted, outcome ≠ .done (.ok inserted)) : Filled count batch outcome [] :=
  ⟨List.nil_prefix, fun inserted ended => absurd ended (failed inserted)⟩

theorem Filled.cons {count : Nat} {batch : List User} {outcome : Outcome (Except Failure Nat)}
    {rows : List RepeatableRow} (filled : Filled count batch outcome rows) (user : User) :
    Filled (count + 1) (user :: batch) outcome (user.row :: rows) :=
  ⟨List.cons_prefix_cons.mpr ⟨rfl, filled.1⟩, fun inserted ended =>
    congrArg (· + 1) (filled.2 inserted ended)⟩

section

variable {σ : Type} {perform : (errand : Errand) → σ → Option (errand.Answer × σ)}

theorem sends_insertRest (total left inserted : Nat) (generator : UserGenerator)
    (source : SeededStream) (state : σ) :
    Sends perform (insertRest total left inserted generator source) state
      (Filled left (users (batchSteps left generator source))) := by
  induction left generalizing inserted generator source state with
  | zero =>
    refine sends_after_silent (silent_say _) (fun _ _ => ⟨List.nil_prefix, fun _ _ => rfl⟩) ?_
    exact ⟨filled_nothing nofun, filled_nothing nofun⟩
  | succ left ih =>
    by_cases possible : ∃ user after later,
      generate.Ends generator source (.ok user) after later
    · obtain ⟨user, after, later, made⟩ := possible
      rw [insertRest_made made, batchSteps_made made]
      refine sends_insert.mpr ?_
      split
      · rename_i reply next answered
        suffices goes : Sends perform (goOn total left inserted after later reply) next
            (Filled left (users (batchSteps left after later))) from goes.cons user
        cases reply with
        | error fault => exact filled_nothing nofun
        | ok affected =>
          rw [goOn]
          cases addCounts? inserted affected with
          | none => exact filled_nothing nofun
          | some sum =>
            exact sends_after_silent (silent_tellProgress _ total)
              (fun _ middle => ih sum after later middle)
              ⟨filled_nothing nofun, filled_nothing nofun⟩
      · have waits : Filled left (users (batchSteps left after later)) .blocked [] :=
          filled_nothing nofun
        exact waits.cons user
    · have unmade (user after later)
          (made : generate.Ends generator source (.ok user) after later) :=
        possible ⟨user, after, later, made⟩
      obtain same | ⟨failure, same⟩ := insertRest_unmade unmade
      · rw [same]
        exact filled_nothing nofun
      · rw [same]
        exact filled_nothing nofun

theorem sends_seed (supplies : UserSupplies) (config : Config) (state : σ) :
    Sends perform (seed supplies config) state (Filled config.seed.users
      (users (batchSteps config.seed.users (generator supplies config.seed)
        (source supplies config.seed)))) :=
  sends_after_silent (silent_say _) (fun _ middle => sends_insertRest _ _ _ _ _ middle)
    ⟨filled_nothing nofun, filled_nothing nofun⟩

end

end UserTable

/-! ## Two generators -/

namespace UserGenerator

open Generation

/-- Whether two generators would make up users that differ in identifier, hash and time stamp
alone. -/
structure Alike (first second : UserGenerator) : Prop where
  config : ∃ password, second.config = { first.config with password }
  usernames : second.usernames = first.usernames
  emails : second.emails = first.emails

section

variable {first second after after' : UserGenerator}

/-- The traits of a user do not depend on the password. -/
theorem Alike.draws (alike : Alike first second) {ρ : Type} [RandomSource ρ] :
    (Traits.draw second.config : Draw ρ Traits) = Traits.draw first.config := by
  obtain ⟨password, same⟩ := alike.config
  rw [same]
  rfl

theorem Alike.statusPresence (alike : Alike first second) :
    second.config.statusPresence = first.config.statusPresence := by
  obtain ⟨password, same⟩ := alike.config
  rw [same]

/-- If two such generators are given the same source and both succeed, then they make up the same
user, but for these columns, and leave the same source. -/
theorem Alike.step {ρ : Type} [RandomSource ρ] {source later later' : ρ} {user user' : User}
    (alike : Alike first second) (generates : Generates first source (.ok user) after later)
    (generates' : Generates second source (.ok user') after' later') :
    user'.row = user.row ∧ Alike after after' ∧ later' = later := by
  cases generates with
  | made named mailed numbered hashed drawn =>
    cases generates' with
    | made named' mailed' numbered' hashed' drawn' =>
      rw [alike.usernames, named] at named'
      cases named'
      rw [alike.emails, mailed] at mailed'
      cases mailed'
      rw [alike.draws, drawn] at drawn'
      cases drawn'
      refine ⟨?_, ⟨alike.config, rfl, rfl⟩, rfl⟩
      simp only [User.row, alike.statusPresence]

/-- If no user is made up, then there is none in the batch. -/
theorem users_of_unmade {ρ : Type} [RandomSource ρ] {source : ρ} {count : Nat}
    (unmade : ∀ user after later, ¬ generate.Ends first source (.ok user) after later) :
    users (batchSteps (count + 1) first source) = [] := by
  rw [batchSteps]
  split
  · rfl
  · rfl
  · rename_i user after later made
    exact absurd made (unmade user after later)

/-- As far as two such generators go, the rows of their users are the same. -/
theorem Alike.batch {ρ : Type} [RandomSource ρ] (alike : Alike first second) (count count' : Nat)
    (source : ρ) :
    Agree ((users (batchSteps count first source)).map User.row)
      ((users (batchSteps count' second source)).map User.row) := by
  induction count generalizing count' first second source with
  | zero => exact agree_nil_left _
  | succ count ih =>
    cases count' with
    | zero => exact agree_nil_right _
    | succ count' =>
      by_cases made : ∃ user after later, generate.Ends first source (.ok user) after later
      · by_cases made' : ∃ user after later, generate.Ends second source (.ok user) after later
        · obtain ⟨user, after, later, made⟩ := made
          obtain ⟨user', after', later', made'⟩ := made'
          obtain ⟨same, alikeAfter, rfl⟩ :=
            alike.step (generates_of_ends made) (generates_of_ends made')
          rw [batchSteps_made made, batchSteps_made made']
          have rest := (ih alikeAfter count' later').cons user.row
          show Agree (user.row :: _) (user'.row :: _)
          rw [same]
          exact rest
        · have none := @users_of_unmade second _ _ source count' fun user after later made =>
            made' ⟨user, after, later, made⟩
          rw [none]
          exact agree_nil_right _
      · have none := @users_of_unmade first _ _ source count fun user after later made' =>
          made ⟨user, after, later, made'⟩
        rw [none]
        exact agree_nil_left _

end

end UserGenerator

/-! ## Two routines -/

namespace UserTable

theorem alike_generator {settings settings' : SeedSettings}
    (attempts : settings.maxUniqueAttempts = settings'.maxUniqueAttempts)
    (supplies supplies' : UserSupplies) :
    UserGenerator.Alike (generator supplies settings) (generator supplies' settings') where
  config := ⟨settings'.password, by
    simp only [generator, UserGenerator.new, UserConfig.ofSettings, attempts]⟩
  usernames := by simp only [generator, UserGenerator.new, UserConfig.ofSettings, attempts]
  emails := by simp only [generator, UserGenerator.new, UserConfig.ofSettings, attempts]

theorem source_of_rngSeed {settings : SeedSettings} {seed : Nat}
    (seeded : settings.rngSeed? = some seed) (supplies : UserSupplies) :
    source supplies settings = .ofSeed (UInt64.ofNat seed) := by
  rw [source, seeded]

section

variable {σ τ : Type} (perform : (errand : Errand) → σ → Option (errand.Answer × σ))
  (perform' : (errand : Errand) → τ → Option (errand.Answer × τ))

/-- How the rows of two routines for users compare. -/
structure Reproduced (supplies supplies' : UserSupplies) (config config' : Config) (state : σ)
    (state' : τ) : Prop where
  /-- As far as both go they are the same in all repeatable columns, whatever comes after them. -/
  agree : Agree (rowsSent ((seed supplies config).asked perform state))
    (rowsSent ((seed supplies' config').asked perform' state'))
  /-- If both routines succeed, then each has sent as many rows as its settings say, and the shorter
  list is the beginning of the longer one. -/
  beginning : ∀ inserted inserted',
    ((seed supplies config).run perform state).1 = .done (.ok inserted) →
    ((seed supplies' config').run perform' state').1 = .done (.ok inserted') →
    config.seed.users ≤ config'.seed.users →
      (rowsSent ((seed supplies config).asked perform state)).length = config.seed.users ∧
      (rowsSent ((seed supplies' config').asked perform' state')).length = config'.seed.users ∧
      rowsSent ((seed supplies config).asked perform state) =
        (rowsSent ((seed supplies' config').asked perform' state')).take config.seed.users

/-- The seed and the number of attempts alone decide about the rows, but for identifiers, hashes and
time stamps. -/
theorem reproduced_of_rngSeed {config config' : Config} {seed : Nat}
    (seeded : config.seed.rngSeed? = some seed) (seeded' : config'.seed.rngSeed? = some seed)
    (attempts : config.seed.maxUniqueAttempts = config'.seed.maxUniqueAttempts)
    (supplies supplies' : UserSupplies) (state : σ) (state' : τ) :
    Reproduced perform perform' supplies supplies' config config' state state' := by
  have alike := alike_generator attempts supplies supplies'
  obtain ⟨shorter, all⟩ := @sends_seed _ perform supplies config state
  obtain ⟨shorter', all'⟩ := @sends_seed _ perform' supplies' config' state'
  rw [source_of_rngSeed seeded] at shorter
  rw [source_of_rngSeed seeded'] at shorter'
  have agree := ((alike.batch config.seed.users config'.seed.users
    (SeededStream.ofSeed (UInt64.ofNat seed))).cut shorter).symm.cut shorter' |>.symm
  refine ⟨agree, fun inserted inserted' ended ended' fewer => ?_⟩
  have count := all inserted ended
  have count' := all' inserted' ended'
  refine ⟨count, count', ?_⟩
  rw [← count]
  exact agree.eq_take (by rw [count, count']; exact fewer)

end

/-- Surroundings that carry out some statements and refuse all further ones. -/
def carriesOut : (errand : Errand) → (left : Nat) → Option (errand.Answer × Nat)
  | .send _, 0 => some (.error (.refused "enough"), 0)
  | .send _, left + 1 => some (.ok 1, left)
  | .say _, left => some ((), left)

/-- The settings of a small trial. -/
def trialConfig : Config :=
  { postgres := "pg://here/d", seed := { users := 3, rngSeed? := some 42 } }

/-- The settings of a run elsewhere, with the same seed. -/
def liveConfig : Config where
  postgres := "pg://there/d"
  production := true
  seed := { users := 5, password := "secret", rngSeed? := some 42 }

def trialSupplies : UserSupplies where
  hasher := fun _ password => .ok password
  ids := { clock := fun calls => calls, random := fun _ => 0 }
  timestamp := 0
  chance := .ofSeed 0

/-- Supplies with a hasher that gives up in the end. -/
def liveSupplies : UserSupplies where
  hasher := fun calls _ => if calls < 4 then .ok "hash" else .error (.passwordHash "no more")
  ids := { clock := fun _ => 9, random := fun calls => calls }
  timestamp := 1
  chance := .ofSeed 1

/-- In the trial the third statement is refused. -/
theorem reproduced_of_rngSeed_trial :
    (trialConfig.seed.rngSeed? = some 42 ∧ liveConfig.seed.rngSeed? = some 42 ∧
        trialConfig.seed.maxUniqueAttempts = liveConfig.seed.maxUniqueAttempts) ∧
      Reproduced carriesOut carriesOut trialSupplies liveSupplies trialConfig liveConfig 2 9 := by
  have same : trialConfig.seed.maxUniqueAttempts = liveConfig.seed.maxUniqueAttempts := rfl
  exact ⟨⟨rfl, rfl, same⟩,
    reproduced_of_rngSeed carriesOut carriesOut rfl rfl same trialSupplies liveSupplies 2 9⟩

end UserTable
end Seedbed
