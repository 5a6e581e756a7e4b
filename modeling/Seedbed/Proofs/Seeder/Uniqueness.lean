import Mathlib.Data.List.Nodup
import Seedbed.Proofs.Fake.Sizes
import Seedbed.Proofs.Program.Trace
import Seedbed.Proofs.Seeder.AllOrNothing
import Seedbed.Proofs.User.InStep

/-!
# Uniqueness in a run

Which user names and mail addresses a run inserts. What is claimed is remembered by a generator, and
each call of the routine for users has a generator of its own. So one call inserts no value twice
(`Writes.nodup`), but two calls know nothing of each other; and if the settings say where made-up
values start, then both start with the same ones (`Writes.agree`). So two calls that insert a user
each insert the same name and the same address (`not_nodup_usersTwice`).
-/

namespace Seedbed

open Program Database
open UserGenerator (generate batchSteps batchSteps_made batchSteps_failed users users_append)

theorem Agree.map {first second : List α} (agree : Agree first second) (change : α → β) :
    Agree (first.map change) (second.map change) :=
  agree.imp (·.map change) (·.map change)

/-- Lists that agree have nothing in common only if one of them is empty. -/
theorem Agree.disjoint_iff {first second : List α} (agree : Agree first second) :
    List.Disjoint first second ↔ first = [] ∨ second = [] := by
  constructor
  · intro apart
    cases first with
    | nil => exact .inl rfl
    | cons head rest =>
      cases second with
      | nil => exact .inr rfl
      | cons head' rest' =>
        have same : head = head' := by
          rcases agree with shorter | shorter
          · exact (List.cons_prefix_cons.mp shorter).1
          · exact (List.cons_prefix_cons.mp shorter).1.symm
        exact (apart List.mem_cons_self (same ▸ List.mem_cons_self)).elim
  · rintro (rfl | rfl)
    · exact List.disjoint_nil_left second
    · exact List.disjoint_nil_right first

/-! ## Columns -/

/-- The columns of users that hold unique values. -/
inductive UniqueColumn where
  | username
  | email
  deriving DecidableEq, Repr

namespace UniqueColumn

def name : UniqueColumn → String
  | .username => "username"
  | .email => "email"

/-- The value of a user in a column. -/
def of : UniqueColumn → User → String
  | .username => User.username
  | .email => User.email

/-- The values that a generator has claimed for a column. -/
def claimed : UniqueColumn → UserGenerator → UniqueValues
  | .username => UserGenerator.usernames
  | .email => UserGenerator.emails

/-- What a statement writes into a column, if it inserts a user. -/
def written? (column : UniqueColumn) : Statement → Option String
  | .insert text parameters =>
    if text = User.insertion.text then
      ((User.columns.zip parameters).lookup column.name).bind User.textOf?
    else none
  | _ => none

/-- What some statements write into a column, in order. -/
def written (column : UniqueColumn) (statements : List Statement) : List String :=
  statements.filterMap column.written?

variable {column : UniqueColumn}

theorem written?_insertStatement (column : UniqueColumn) (user : User) :
    column.written? user.insertStatement = some (column.of user) := by
  rw [User.insertStatement, written?, if_pos rfl]
  cases column <;> rfl

theorem written_append (earlier later : List Statement) :
    column.written (earlier ++ later) = column.written earlier ++ column.written later :=
  List.filterMap_append

/-! ## One generator -/

variable {made : List User} {before after : UserGenerator}

/-- Whatever comes of making up a user: what was claimed for the users so far stays claimed, and
what is claimed for this one is none of it. -/
theorem covers_generate {ρ : Type} [RandomSource ρ] {source later : ρ}
    {result : Except Failure User}
    (covers : (column.claimed before).Covers (made.map column.of))
    (generates : UserGenerator.Generates before source result after later) :
    (column.claimed after).Covers ((made ++ users [result]).map column.of) := by
  obtain ⟨⟨_, named, givesName⟩, _, mailed, givesMail⟩ :=
    UserGenerator.claims_of_generates generates
  cases column with
  | username => exact UserGenerator.covers_step covers named givesName
  | email => exact UserGenerator.covers_step covers mailed givesMail

/-- In the users so far and those of a batch there is no value twice. -/
theorem nodup_batch {ρ : Type} [RandomSource ρ] {source : ρ}
    (covers : (column.claimed before).Covers (made.map column.of)) (count : Nat) :
    ((made ++ users (batchSteps count before source)).map column.of).Nodup := by
  induction count generalizing made before source with
  | zero =>
    rw [batchSteps, users, List.filterMap_nil, List.append_nil]
    exact covers.distinct
  | succ count ih =>
    rw [batchSteps]
    split
    · rw [users, List.filterMap_nil, List.append_nil]
      exact covers.distinct
    · rw [UserGenerator.users_error, List.append_nil]
      exact covers.distinct
    · rename_i user after later ends
      have split : users (.ok user :: batchSteps count after later) =
          users [.ok user] ++ users (batchSteps count after later) := rfl
      rw [split, ← List.append_assoc]
      exact ih (covers_generate covers (UserGenerator.generates_of_ends ends))

end UniqueColumn

/-! ## One call of the routine -/

namespace UserTable

/-- The users that the routine inserts under some configuration if nothing goes wrong. -/
def batch (supplies : UserSupplies) (config : Config) : List User :=
  users (batchSteps config.seed.users (generator supplies config.seed)
    (source supplies config.seed))

/-- A value in a column of a batch is not in it twice. -/
theorem nodup_batch (column : UniqueColumn) (supplies : UserSupplies) (config : Config) :
    ((batch supplies config).map column.of).Nodup := by
  have nothing : (column.claimed (generator supplies config.seed)).Covers
      (([] : List User).map column.of) := by
    cases column <;> exact ⟨List.nodup_nil, nofun⟩
  exact UniqueColumn.nodup_batch nothing config.seed.users

/-- From a seed on, all batches start with the same values. -/
theorem agree_batch {config : Config} {seed : Nat} (seeded : config.seed.rngSeed? = some seed)
    (column : UniqueColumn) (supplies supplies' : UserSupplies) :
    Agree ((batch supplies config).map column.of) ((batch supplies' config).map column.of) := by
  have alike := alike_generator (rfl : config.seed.maxUniqueAttempts = _) supplies supplies'
  have rows := alike.batch config.seed.users config.seed.users
    (SeededStream.ofSeed (UInt64.ofNat seed))
  have shown (user : User) :
      ((user.row.2.lookup column.name).bind User.textOf?).getD "" = column.of user := by
    cases column <;> rfl
  have values := rows.map fun row => ((row.2.lookup column.name).bind User.textOf?).getD ""
  simp only [List.map_map, Function.comp_def, shown] at values
  rw [batch, batch, source_of_rngSeed seeded, source_of_rngSeed seeded]
  exact values

end UserTable

/-! ## What is inserted -/

/-- Whether a user is inserted on an errand. -/
def Errand.InsertsUser : Errand → Prop
  | .send (.insert text _) => text = User.insertion.text
  | _ => False

/-- The statements that were sent, in order. -/
def sent (history : List Request.Done) : List Statement :=
  history.filterMap (·.request.statement?)

theorem sent_append (earlier later : List Request.Done) :
    sent (earlier ++ later) = sent earlier ++ sent later := List.filterMap_append

theorem statements_append (earlier later : List Errand.Done) :
    statements (earlier ++ later) = statements earlier ++ statements later := by
  rw [statements, exchanges_append, List.map_append, statements, statements]

theorem sent_via (connection : ConnectionId) (errands : List Errand.Done) :
    sent (errands.map (Errand.via connection)) = statements errands := by
  induction errands with
  | nil => rfl
  | cons errand errands ih =>
    obtain ⟨errand, answer⟩ := errand
    cases errand with
    | send statement => exact congrArg (statement :: ·) ih
    | say line => exact ih

namespace UniqueColumn

variable {column : UniqueColumn} {errands : List Errand.Done} {history : List Request.Done}

/-- On errands that insert no users, nothing is written. -/
theorem written_of_silent (silent : ∀ event ∈ errands, ¬ event.request.InsertsUser) :
    column.written (statements errands) = [] := by
  induction errands with
  | nil => rfl
  | cons errand errands ih =>
    obtain ⟨first, others⟩ := List.forall_mem_cons.mp silent
    obtain ⟨errand, answer⟩ := errand
    cases errand with
    | say line => exact ih others
    | send statement =>
      refine (List.filterMap_cons_none ?_).trans (ih others)
      cases statement with
      | insert text parameters => exact if_neg first
      | _ => rfl

/-- Requests that make the server keep nothing write nothing. -/
theorem written_of_quiet (quiet : ∀ event ∈ history, event.request.Quiet) :
    column.written (sent history) = [] := by
  induction history with
  | nil => rfl
  | cons event history ih =>
    obtain ⟨first, others⟩ := List.forall_mem_cons.mp quiet
    obtain ⟨request, answer⟩ := event
    cases request with
    | send connection statement =>
      refine (List.filterMap_cons_none ?_).trans (ih others)
      rcases first with rfl | rfl <;> rfl
    | _ => exact ih others

end UniqueColumn

namespace UserTable

variable {column : UniqueColumn} {errands : List Errand.Done}

theorem silent_of_row? {errand : Errand} (silent : errand.row? = none) : ¬ errand.InsertsUser := by
  cases errand with
  | say line => exact not_false
  | send statement =>
    cases statement with
    | insert text parameters => cases silent
    | _ => exact not_false

/-- What comes after the telling of something is all that is written. -/
theorem written_after_silent {work : Work α} {next : α → Work β} {values : List String}
    (silent : work.Asks fun errand => errand.row? = none)
    (traces : (work >>= next).Traces errands)
    (further : ∀ value later, (next value).Traces later →
      column.written (statements later) <+: values) :
    column.written (statements errands) <+: values := by
  obtain ⟨earlier, later, rfl, first, second⟩ := traces_bind traces
  have nothing := column.written_of_silent fun event member =>
    silent_of_row? (first.permitted silent event member)
  rw [statements_append, UniqueColumn.written_append, nothing, List.nil_append]
  rcases second with rfl | ⟨value, second⟩
  · exact List.nil_prefix
  · exact further value later second

/-- What the routine writes is the beginning of a batch. -/
theorem written_insertRest {total left inserted : Nat} {generator : UserGenerator}
    {source : SeededStream}
    (traces : (insertRest total left inserted generator source).Traces errands) :
    column.written (statements errands) <+:
      (users (batchSteps left generator source)).map column.of := by
  induction left generalizing inserted generator source errands with
  | zero =>
    refine written_after_silent (silent_say _) traces fun _ later ended => ?_
    rw [traces_done.mp ended]
    exact List.nil_prefix
  | succ left ih =>
    by_cases possible : ∃ user after later, generate.Ends generator source (.ok user) after later
    · obtain ⟨user, after, later, made⟩ := possible
      rw [insertRest_made made, traces_ask] at traces
      obtain rfl | ⟨reply, rest, rfl, traces⟩ := traces
      · exact List.nil_prefix
      rw [batchSteps_made made, statements_send, UniqueColumn.written,
        List.filterMap_cons_some (column.written?_insertStatement user)]
      refine List.cons_prefix_cons.mpr ⟨rfl, ?_⟩
      cases reply with
      | error fault =>
        rw [traces_done.mp traces]
        exact List.nil_prefix
      | ok rows =>
        rw [goOn] at traces
        cases counted : addCounts? inserted rows with
        | none =>
          rw [counted, traces_halt] at traces
          rw [traces]
          exact List.nil_prefix
        | some sum =>
          rw [counted] at traces
          exact written_after_silent (silent_tellProgress _ total) traces fun _ _ => ih
    · have unmade (user after later)
          (made : generate.Ends generator source (.ok user) after later) :=
        possible ⟨user, after, later, made⟩
      have nothing : errands = [] := by
        obtain same | ⟨failure, same⟩ := @insertRest_unmade total left inserted _ _ unmade
        · exact traces_halt.mp (same ▸ traces)
        · exact traces_done.mp (same ▸ traces)
      rw [nothing]
      exact List.nil_prefix

theorem written_seed {supplies : UserSupplies} {config : Config}
    (traces : (seed supplies config).Traces errands) :
    column.written (statements errands) <+: (batch supplies config).map column.of :=
  written_after_silent (silent_say _) traces fun _ _ => written_insertRest

end UserTable

/-! ## A run -/

namespace Seeder

/-- A routine of a run: that for users, or another one, which inserts no users. -/
inductive Member where
  | users (supplies : UserSupplies)
  | other (routine : Routine)
    (silent : ∀ config, (routine.seed config).Asks fun errand => ¬ errand.InsertsUser)

def Member.routine : Member → Routine
  | .users supplies => UserTable.routine supplies
  | .other routine _ => routine

def Member.isUsers : Member → Bool
  | .users _ => true
  | .other _ _ => false

/-- Someone who calls some routines. -/
def ofMembers (members : List Member) : Seeder := ⟨members.map Member.routine⟩

/-- What the routines for users write into a column, call by call. Each call writes the beginning of
its own batch, and there may be calls to come. -/
inductive Writes (column : UniqueColumn) (config : Config) :
    List Member → List (List String) → Prop where
  | stop (members : List Member) : Writes column config members []
  | users {supplies : UserSupplies} {members : List Member} {values : List String}
      {parts : List (List String)}
      (beginning : values <+: (UserTable.batch supplies config).map column.of)
      (others : Writes column config members parts) :
      Writes column config (.users supplies :: members) (values :: parts)
  | other {routine : Routine}
      {silent : ∀ config, (routine.seed config).Asks fun errand => ¬ errand.InsertsUser}
      {members : List Member} {parts : List (List String)}
      (others : Writes column config members parts) :
      Writes column config (.other routine silent :: members) parts

section

variable {column : UniqueColumn} {config : Config} {members : List Member}
  {parts : List (List String)}

theorem Writes.length_le (writes : Writes column config members parts) :
    parts.length ≤ members.countP Member.isUsers := by
  induction writes with
  | stop => exact Nat.zero_le _
  | users beginning others ih =>
    rw [List.countP_cons_of_pos rfl]
    exact Nat.succ_le_succ ih
  | other others ih =>
    rw [List.countP_cons_of_neg Bool.false_ne_true]
    exact ih

theorem Writes.beginning (writes : Writes column config members parts) :
    ∀ part ∈ parts, ∃ supplies, part <+: (UserTable.batch supplies config).map column.of := by
  induction writes with
  | stop => nofun
  | users beginning others ih => exact List.forall_mem_cons.mpr ⟨⟨_, beginning⟩, ih⟩
  | other others ih => exact ih

theorem Writes.nodup (writes : Writes column config members parts) :
    ∀ part ∈ parts, part.Nodup := by
  intro part member
  obtain ⟨supplies, beginning⟩ := writes.beginning part member
  exact (UserTable.nodup_batch column supplies config).sublist beginning.sublist

/-- From a seed on, all calls write the same values as far as they go. -/
theorem Writes.agree (writes : Writes column config members parts) {seed : Nat}
    (seeded : config.seed.rngSeed? = some seed) :
    ∀ part ∈ parts, ∀ other ∈ parts, Agree part other := by
  intro part member other member'
  obtain ⟨supplies, beginning⟩ := writes.beginning part member
  obtain ⟨supplies', beginning'⟩ := writes.beginning other member'
  have agree := UserTable.agree_batch seeded column supplies supplies'
  exact ((agree.cut beginning).symm.cut beginning').symm

/-! ### Its history -/

variable {history : List Request.Done}

theorem traces_through {connection : ConnectionId} {work : Work α}
    (traces : (through connection work).Traces history) :
    ∃ errands, history = errands.map (Errand.via connection) ∧ work.Traces errands := by
  induction work generalizing history with
  | done value => exact ⟨[], traces_done.mp traces, .stop _⟩
  | halt => exact ⟨[], traces_halt.mp traces, .stop _⟩
  | ask errand next ih =>
    cases errand with
    | send statement | say line =>
      obtain rfl | ⟨answer, rest, rfl, further⟩ := traces_ask.mp traces
      · exact ⟨[], rfl, .stop _⟩
      · obtain ⟨errands, rfl, others⟩ := ih answer further
        exact ⟨⟨_, answer⟩ :: errands, rfl, .ask others⟩

/-- What was written into a column comes from calls of the routines for users. -/
def Wrote (column : UniqueColumn) (config : Config) (members : List Member)
    (history : List Request.Done) : Prop :=
  ∃ parts, Writes column config members parts ∧ column.written (sent history) = parts.flatten

theorem wrote_quiet (quiet : ∀ event ∈ history, event.request.Quiet) :
    Wrote column config members history :=
  ⟨[], .stop members, UniqueColumn.written_of_quiet quiet⟩

theorem wrote_nothing : Wrote column config members [] := wrote_quiet (List.forall_mem_nil _)

/-- What makes the server keep nothing does not matter before calls of routines, -/
theorem wrote_after_quiet {program : PoolProgram α} {next : α → PoolProgram β}
    (quiet : program.Asks Request.Quiet) (traces : (program >>= next).Traces history)
    (further : ∀ value later, (next value).Traces later → Wrote column config members later) :
    Wrote column config members history := by
  obtain ⟨earlier, later, rfl, first, second⟩ := traces_bind traces
  rw [Wrote, sent_append, UniqueColumn.written_append,
    UniqueColumn.written_of_quiet (first.permitted quiet), List.nil_append]
  rcases second with rfl | ⟨value, second⟩
  · exact wrote_nothing
  · exact further value later second

/-- and neither does what inserts no users after them. -/
theorem wrote_before_silent {program : PoolProgram α} {next : α → PoolProgram β}
    (traces : (program >>= next).Traces history)
    (first : ∀ earlier, program.Traces earlier → Wrote column config members earlier)
    (silent : ∀ value later, (next value).Traces later → column.written (sent later) = []) :
    Wrote column config members history := by
  obtain ⟨earlier, later, rfl, traces, second⟩ := traces_bind traces
  have nothing : column.written (sent later) = [] := by
    rcases second with rfl | ⟨value, second⟩
    · rfl
    · exact silent value later second
  rw [Wrote, sent_append, UniqueColumn.written_append, nothing, List.append_nil]
  exact first earlier traces

theorem wrote_callAll {connection : ConnectionId}
    (traces : (callAll connection config (members.map Member.routine)).Traces history) :
    Wrote column config members history := by
  induction members generalizing history with
  | nil =>
    rw [traces_done.mp traces]
    exact wrote_nothing
  | cons member members ih =>
    obtain ⟨first, later, rfl, traces, further⟩ := traces_bind traces
    obtain ⟨errands, rfl, called⟩ := traces_through traces
    -- What is written later comes from the other routines, if they are called at all.
    have others : Wrote column config members later := by
      obtain rfl | ⟨result, further⟩ := further
      · exact wrote_nothing
      cases result with
      | error failure =>
        rw [traces_done.mp further]
        exact wrote_nothing
      | ok rows =>
        refine wrote_before_silent further (fun _ => ih) fun outcome last ended => ?_
        have nothing : last = [] := by
          cases outcome with
          | error failed => exact traces_done.mp ended
          | ok counts => exact traces_done.mp ended
        rw [nothing]
        rfl
    obtain ⟨parts, writes, same⟩ := others
    rw [Wrote, sent_append, sent_via, UniqueColumn.written_append, same]
    cases member with
    | users supplies =>
      exact ⟨_ :: parts, .users (UserTable.written_seed called) writes, rfl⟩
    | other routine silent =>
      rw [UniqueColumn.written_of_silent (called.permitted (silent config)), List.nil_append]
      exact ⟨parts, .other writes, rfl⟩

theorem wrote_inTransaction {connection : ConnectionId}
    (traces : ((ofMembers members).inTransaction connection config).Traces history) :
    Wrote column config members history := by
  have begins : (mark connection .begin).Asks Request.Quiet :=
    And.intro (.inl rfl) fun _ => trivial
  refine wrote_after_quiet begins traces fun reply later traces => ?_
  cases reply with
  | error fault =>
    rw [traces_done.mp traces]
    exact wrote_nothing
  | ok affected =>
    refine wrote_before_silent traces (fun _ => wrote_callAll) fun result later traces => ?_
    cases result with
    | error failed =>
      have quiet := asks_rollBack connection failed.1 failed.2
      exact UniqueColumn.written_of_quiet (traces.permitted (quiet.bind fun _ => trivial))
    | ok counts =>
      -- The commit is all that is not quiet, and inserts nothing.
      obtain rfl | ⟨reply, rest, rfl, further⟩ := traces_ask.mp traces
      · rfl
      show column.written (sent rest) = []
      cases reply with
      | error fault =>
        have quiet := asks_say .warn ("Commit failed, transaction rolled back: " ++ fault.message)
        exact UniqueColumn.written_of_quiet (further.permitted (quiet.bind fun _ => trivial))
      | ok kept =>
        rw [traces_done.mp further]
        rfl

theorem wrote_withConnection
    (traces : ((ofMembers members).withConnection config).Traces history) :
    Wrote column config members history := by
  refine wrote_after_quiet PoolManager.asks_acquire traces fun lent later traces => ?_
  cases lent with
  | error failure =>
    rw [traces_done.mp traces]
    exact wrote_nothing
  | ok connection =>
    refine wrote_before_silent traces (fun _ => wrote_inTransaction) fun outcome later traces => ?_
    exact UniqueColumn.written_of_quiet (traces.permitted (And.intro trivial fun _ => trivial))

theorem wrote_run (traces : ((ofMembers members).run config).Traces history) :
    Wrote column config members history := by
  unfold run at traces
  split at traces
  · rw [traces_done.mp traces]
    exact wrote_nothing
  · refine wrote_after_quiet (PoolManager.asks_make _ _ _ _) traces fun made later traces => ?_
    cases made with
    | error failure =>
      rw [traces_done.mp traces]
      exact wrote_nothing
    | ok =>
      refine wrote_after_quiet (asks_say _ _) traces fun _ later traces => ?_
      refine wrote_before_silent traces (fun _ => wrote_withConnection) fun outcome last traces => ?_
      refine UniqueColumn.written_of_quiet (traces.permitted ?_)
      refine PoolManager.asks_shutdown.bind fun _ => ?_
      cases outcome with
      | error failure => exact trivial
      | ok counts =>
        refine And.intro trivial fun elapsed => ?_
        exact ((tells_announce _).mono Request.Tells.quiet).bind fun _ => trivial

/-! ### Its values -/

/-- How the values that a run has written into a column are spread over its calls of the routine for
users. -/
structure Spread (column : UniqueColumn) (config : Config) (members : List Member)
    (values : List String) (parts : List (List String)) : Prop where
  /-- Each call has written the beginning of its own batch, -/
  writes : Writes column config members parts
  whole : values = parts.flatten
  /-- and no value twice. -/
  nodup : ∀ part ∈ parts, part.Nodup
  /-- So no value was written twice if the routine was listed only once. -/
  single : members.countP Member.isUsers ≤ 1 → values.Nodup
  /-- Otherwise, from a seed on, no value was written twice only if no two calls have written any. -/
  repeated : ∀ seed, config.seed.rngSeed? = some seed →
    (values.Nodup ↔ parts.Pairwise fun earlier later => earlier = [] ∨ later = [])

theorem Writes.spread (writes : Writes column config members parts) :
    Spread column config members parts.flatten parts where
  writes := writes
  whole := rfl
  nodup := writes.nodup
  single := by
    intro once
    refine List.nodup_flatten.mpr ⟨writes.nodup, ?_⟩
    have few := Nat.le_trans writes.length_le once
    match parts, few with
    | [], _ => exact .nil
    | [part], _ => exact List.pairwise_singleton _ _
  repeated := by
    intro seed seeded
    rw [List.nodup_flatten]
    refine (and_iff_right writes.nodup).trans (List.Pairwise.iff_of_mem ?_)
    intro part other member member'
    exact (writes.agree seeded part member other member').disjoint_iff

/-- User names and mail addresses are unique in a call of the routine for users, but not in a
run. -/
theorem spread_run (column : UniqueColumn) (members : List Member) (config : Config)
    (world : World) :
    ∃ parts, Spread column config members
      (column.written (sent ((ofMembers members).history config world))) parts := by
  have traces := traces_events World.perform ((ofMembers members).run config) world
  obtain ⟨parts, writes, same⟩ : Wrote column config members _ := wrote_run traces
  exact ⟨parts, same ▸ writes.spread⟩

end

/-- One user from a seed. -/
def oneUser (seed : Nat) : Config where
  postgres := "pg://h/d"
  seed := { users := 1, rngSeed? := some seed }

/-- Someone who calls the routine for users twice. -/
def usersTwice : Seeder := ofMembers [.users someSupplies, .users someSupplies]

section

variable {seed : Nat} {user : User} {after : UserGenerator} {later : SeededStream}

theorem seed_oneUser {supplies : UserSupplies}
    (made : generate.Ends (UserTable.generator supplies (oneUser seed).seed)
      (UserTable.source supplies (oneUser seed).seed) (.ok user) after later) :
    UserTable.seed supplies (oneUser seed) =
      .ask (.say (UserTable.line ("Seeding " ++ toString 1 ++ " users..."))) fun _ =>
        .ask (.send user.insertStatement) (UserTable.goOn 1 0 0 after later) := by
  show Program.ask (Errand.say _) (fun _ => UserTable.insertRest 1 1 0 _ _) = _
  rw [UserTable.insertRest_made made]
  rfl

/-- Both calls send the same user. -/
theorem sent_usersTwice
    (made : generate.Ends (UserTable.generator someSupplies (oneUser seed).seed)
      (UserTable.source someSupplies (oneUser seed).seed) (.ok user) after later) :
    sent (usersTwice.history (oneUser seed) .obliging) =
      [.begin, user.insertStatement, user.insertStatement, .commit] := by
  have address : (oneUser seed).postgres = "pg://h/d" := rfl
  unfold history run withConnection inTransaction usersTwice ofMembers
  simp only [List.map, callAll, Member.routine, UserTable.routine, seed_oneUser made, address]
  rfl

theorem not_nodup_written
    (made : generate.Ends (UserTable.generator someSupplies (oneUser seed).seed)
      (UserTable.source someSupplies (oneUser seed).seed) (.ok user) after later)
    (column : UniqueColumn) :
    ¬ (column.written (sent (usersTwice.history (oneUser seed) .obliging))).Nodup := by
  have twice : column.written (sent (usersTwice.history (oneUser seed) .obliging)) =
      [column.of user, column.of user] := by
    rw [sent_usersTwice made, UniqueColumn.written, List.filterMap_cons_none rfl,
      List.filterMap_cons_some (column.written?_insertStatement user),
      List.filterMap_cons_some (column.written?_insertStatement user), List.filterMap_cons_none rfl,
      List.filterMap_nil]
  rw [twice]
  exact fun nodup => (List.nodup_cons.mp nodup).1 List.mem_cons_self

end

/-- The words from this seed make a user, and are not drawn again for too long. What the user is
does not have to be known. -/
theorem exists_made : ∃ user after later,
    generate.Ends (UserTable.generator someSupplies (oneUser 42).seed)
      (UserTable.source someSupplies (oneUser 42).seed) (.ok user) after later := by
  refine Generation.exists_ends_of_succeeded ?_
  simp only [generate, UserGenerator.claimUsername, UserGenerator.claimEmail, Fake.userName,
    Fake.email, Fake.fullName, Fake.sentence, Fake.paragraph, Fake.smallName, Fake.WordList.pick,
    Fake.size_firstNames, Fake.size_lastNames, Fake.size_proseWords, Fake.size_providers]
  decide +kernel

/-- Two calls from one seed write the same name and the same address. -/
theorem not_nodup_usersTwice :
    ¬ (UniqueColumn.username.written
        (sent (usersTwice.history (oneUser 42) .obliging))).Nodup ∧
      ¬ (UniqueColumn.email.written
        (sent (usersTwice.history (oneUser 42) .obliging))).Nodup := by
  obtain ⟨user, after, later, made⟩ := exists_made
  exact ⟨not_nodup_written made .username, not_nodup_written made .email⟩

end Seeder
end Seedbed
