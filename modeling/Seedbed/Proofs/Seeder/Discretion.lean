import Seedbed.Proofs.Pool.Blind
import Seedbed.Proofs.User.Veiled

/-!
# Discretion

Two runs whose settings differ in passwords alone, and whose servers give the same replies, cannot
be told apart by what is logged and reported (`discreet_run`): they come to the same end but for the
time that they took, they write the same lines but for that time, and they send the same statements
but for the hashes of the password. The reason is that they go abreast, whatever they are answered
(`abreast_run`). Servers that are blind to passwords do give the same replies
(`discreet_of_blind`).
-/

namespace Seedbed

open Program

namespace PoolManager

variable {params params' : ConnectionParams}

theorem abreast_common {program : PoolProgram α} (asks : program.Asks Request.Common) :
    Abreast (Twin params params') Eq program program :=
  abreast_self (asks.mono .common)

theorem abreast_probe : Abreast (Twin params params') Eq (probe params) (probe params') := by
  refine (abreast_request .connect).bind ?_
  rintro reply _ rfl
  cases reply with
  | error fault => exact abreast_pure rfl
  | ok connection => exact abreast_common (And.intro trivial fun _ => trivial)

theorem abreast_connectMany (count : Nat) :
    Abreast (Twin params params') Eq (connectMany params count) (connectMany params' count) := by
  induction count with
  | zero => exact abreast_pure rfl
  | succ count ih =>
    refine (abreast_request .connect).bind ?_
    rintro reply _ rfl
    cases reply with
    | error fault => exact abreast_pure rfl
    | ok connection =>
      refine ih.bind ?_
      rintro rest _ rfl
      cases rest with
      | error fault => exact abreast_common (And.intro trivial fun _ => trivial)
      | ok connections => exact abreast_pure rfl

theorem abreast_firstConnections (eager : Bool) (count : Nat) :
    Abreast (Twin params params') Eq (firstConnections eager params count)
      (firstConnections eager params' count) := by
  cases eager with
  | false => exact abreast_pure rfl
  | true =>
    refine abreast_probe.bind ?_
    rintro reply _ rfl
    cases reply with
    | error fault => exact abreast_pure rfl
    | ok => exact abreast_connectMany count

theorem abreast_make (eager : Bool) (min max : Nat) :
    Abreast (Twin params params') Eq (make eager min max params) (make eager min max params') := by
  refine (abreast_request (.common (show Request.Common .lock from trivial))).bind ?_
  rintro found _ rfl
  suffices fills : Abreast (Twin params params') Eq (fill eager min max params found)
      (fill eager min max params' found) by
    refine fills.bind ?_
    rintro made _ rfl
    exact abreast_common (And.intro trivial fun _ => trivial)
  cases found with
  | some pool => exact abreast_pure rfl
  | none =>
    unfold fill
    cases boundsFailure? min max with
    | some failure => exact abreast_pure rfl
    | none =>
      refine (abreast_firstConnections eager min).bind ?_
      rintro reply _ rfl
      cases reply with
      | error fault => exact abreast_pure rfl
      | ok idle => exact (abreast_request (.install max idle)).bind fun _ _ _ => abreast_pure rfl

theorem abreast_acquire : Abreast (Twin params params') Eq acquire acquire := by
  refine abreast_common (And.intro trivial fun found => ?_)
  cases found with
  | none => exact trivial
  | some pool => exact And.intro trivial fun _ => trivial

theorem abreast_shutdown : Abreast (Twin params params') Eq shutdown shutdown := by
  refine abreast_common (And.intro trivial fun found => ?_)
  cases found with
  | none => exact trivial
  | some pool =>
    refine And.intro trivial fun outstanding => ?_
    show (retire pool outstanding).Asks _
    unfold retire
    split <;> exact And.intro trivial fun _ => trivial

end PoolManager

namespace Seeder

open PoolManager

variable {params params' : ConnectionParams} {config config' : Config}
  {routines routines' : List Routine}

theorem abreast_say (level : Log.Level) (text : String) :
    Abreast (Twin params params') Eq (say level text) (say level text) :=
  abreast_request (Twin.say (.same _))

theorem abreast_mark (connection : ConnectionId) (statement : Database.Statement) :
    Abreast (Twin params params') Eq (mark connection statement) (mark connection statement) :=
  abreast_request (Twin.send connection (.same statement))

/-- Work that goes abreast does so over one connection. -/
theorem abreast_through (connection : ConnectionId) {ends : α → β → Prop} {work : Work α}
    {work' : Work β} (abreast : Abreast TwinErrand ends work work') :
    Abreast (Twin params params') ends (through connection work) (through connection work') := by
  refine abreast.redirect fun errand errand' agrees twin => ?_
  cases twin with
  | say line => exact abreast_request (Twin.say (.same line))
  | @send statement statement' rehashed =>
    have sent : Twin params params' (.send connection statement) (.send connection statement') Eq :=
      .send connection rehashed
    exact @abreast_request _ _ (Twin params params') _ _ _ sent

/-- Whether two routines have one name and go abreast under some settings. -/
structure RoutinesAbreast (config config' : Config) (routine routine' : Routine) : Prop where
  name : routine'.name = routine.name
  seed : Abreast TwinErrand Eq (routine.seed config) (routine'.seed config')

theorem abreast_callAll (connection : ConnectionId)
    (abreast : List.Forall₂ (RoutinesAbreast config config') routines routines') :
    Abreast (Twin params params') Eq (callAll connection config routines)
      (callAll connection config' routines') := by
  induction abreast with
  | nil => exact abreast_pure rfl
  | cons first rest ih =>
    rw [callAll, callAll, first.name]
    refine (abreast_through connection first.seed).bind ?_
    rintro outcome _ rfl
    cases outcome with
    | error failure => exact abreast_pure rfl
    | ok rows =>
      refine ih.bind ?_
      rintro others _ rfl
      cases others <;> exact abreast_pure rfl

theorem abreast_rollBack (connection : ConnectionId) (routine : String) (failure : Failure) :
    Abreast (Twin params params') Eq (rollBack connection routine failure)
      (rollBack connection routine failure) := by
  refine (abreast_say _ _).bind fun _ _ _ => (abreast_mark connection .rollback).bind ?_
  rintro reply _ rfl
  cases reply with
  | error fault => exact (abreast_say _ _).bind fun _ _ _ => abreast_pure rfl
  | ok rows => exact abreast_pure rfl

theorem abreast_inTransaction (connection : ConnectionId)
    (abreast : List.Forall₂ (RoutinesAbreast config config') routines routines') :
    Abreast (Twin params params') Eq (inTransaction ⟨routines⟩ connection config)
      (inTransaction ⟨routines'⟩ connection config') := by
  refine (abreast_mark connection .begin).bind ?_
  rintro begun _ rfl
  cases begun with
  | error fault => exact abreast_pure rfl
  | ok rows =>
    refine (abreast_callAll connection abreast).bind ?_
    rintro called _ rfl
    cases called with
    | error failed =>
      refine (abreast_rollBack connection failed.1 failed.2).bind ?_
      rintro failure _ rfl
      exact abreast_pure rfl
    | ok counts =>
      refine (abreast_mark connection .commit).bind ?_
      rintro committed _ rfl
      cases committed with
      | error fault => exact (abreast_say _ _).bind fun _ _ _ => abreast_pure rfl
      | ok rows => exact abreast_pure rfl

theorem abreast_withConnection
    (abreast : List.Forall₂ (RoutinesAbreast config config') routines routines') :
    Abreast (Twin params params') Eq (withConnection ⟨routines⟩ config)
      (withConnection ⟨routines'⟩ config') := by
  refine abreast_acquire.bind ?_
  rintro lent _ rfl
  cases lent with
  | error failure => exact abreast_pure rfl
  | ok connection =>
    refine (abreast_inTransaction connection abreast).bind ?_
    rintro outcome _ rfl
    exact abreast_common (And.intro trivial fun _ => trivial)

/-- Results of a run that are the same but for the time that it took. -/
inductive SameResult : Except Failure Report → Except Failure Report → Prop where
  | failed (failure : Failure) : SameResult (.error failure) (.error failure)
  | done (routines : List (String × Nat)) (elapsed elapsed' : Nat) :
      SameResult (.ok { routines, elapsed }) (.ok { routines, elapsed := elapsed' })

theorem abreast_announce (routines : List (String × Nat)) (elapsed elapsed' : Nat) :
    Abreast (Twin params params') Eq (announce { routines, elapsed })
      (announce { routines, elapsed := elapsed' }) := by
  unfold announce
  generalize same : Report.totalRows? { routines, elapsed } = total?
  rw [show Report.totalRows? { routines, elapsed := elapsed' } = total? from same]
  refine (abreast_request (.common (show Request.Common (.listens .info .seeder) from trivial))).bind ?_
  rintro listens _ rfl
  cases listens with
  | false => exact abreast_pure rfl
  | true =>
    cases total? with
    | none => exact .halt
    | some total =>
      have told : Twin params params' (.say (completion total elapsed))
          (.say (completion total elapsed')) Eq := .say (.completed total elapsed elapsed')
      exact @abreast_request _ _ (Twin params params') _ _ _ told

/-- Two runs go abreast if their settings differ in passwords alone. -/
theorem abreast_run (parsed : ConnectionParams.parse config.postgres = .ok params)
    (parsed' : ConnectionParams.parse config'.postgres = .ok params')
    (same : params' = { params with password := params'.password })
    (abreast : List.Forall₂ (RoutinesAbreast config config') routines routines') :
    Abreast (Twin params params') SameResult (run ⟨routines⟩ config) (run ⟨routines'⟩ config') := by
  unfold run
  rw [parsed, parsed']
  refine (abreast_make true minConnections maxConnections).bind ?_
  rintro made _ rfl
  cases made with
  | error failure => exact abreast_pure (.failed failure)
  | ok =>
    have host : params'.host = params.host := by rw [same]
    have port : params'.port = params.port := by rw [same]
    have database : params'.database = params.database := by rw [same]
    rw [host, port, database]
    refine (abreast_say _ _).bind fun _ _ _ => (abreast_withConnection abreast).bind ?_
    rintro outcome _ rfl
    refine abreast_shutdown.bind fun _ _ _ => ?_
    cases outcome with
    | error failure => exact abreast_pure (.failed failure)
    | ok routines =>
      refine (abreast_request .elapsed).bind fun elapsed elapsed' _ => ?_
      exact (abreast_announce routines elapsed elapsed').bind fun _ _ _ =>
        abreast_pure (.done routines elapsed elapsed')

/-- How two runs with other passwords compare. -/
structure Discreet (params params' : ConnectionParams)
    (program program' : PoolProgram (Except Failure Report)) (world world' : World) : Prop where
  /-- What the parameters show is the same. -/
  shown : params'.redacted = params.redacted
  /-- The runs end with the same failure, causes and all, or report the same but for the time. -/
  outcome : SameEnd SameResult (world.run program).1 (world'.run program').1
  /-- The logs hold the same lines, whatever their level, but for the time. -/
  log : List.Forall₂ Retold (world.run program).2.log (world'.run program').2.log
  /-- The same statements were sent but for the hashes of the password. -/
  sent : List.Forall₂ Rehashed ((program.asked World.perform world).filterMap Request.statement?)
    ((program'.asked World.perform world').filterMap Request.statement?)

theorem redacted_password (params : ConnectionParams) (password : String) :
    { params with password }.redacted = params.redacted := rfl

/-- What twin requests send is the same but for the hash of a password. -/
theorem rehashed_of_twins {request request' : Request} (twins : Twins params params' request request') :
    Option.Rel Rehashed request.statement? request'.statement? := by
  obtain ⟨agrees, twin⟩ := twins
  cases twin with
  | send connection rehashed => exact .some rehashed
  | connect | install | say | elapsed => exact .none
  | common common =>
    cases request with
    | send => exact common.elim
    | _ => exact .none

theorem discreet_of_alongside {program program' : PoolProgram (Except Failure Report)}
    {world world' : World} (same : params' = { params with password := params'.password })
    (alongside : Alongside params params' SameResult program program' world world') :
    Discreet params params' program program' world world' := by
  refine ⟨?_, alongside.outcome, alongside.mirror.log, ?_⟩
  · rw [same]
    exact redacted_password params _
  · have each : Relator.LiftFun (Twins params params') (Option.Rel Rehashed) Request.statement?
        Request.statement? := fun _ _ => rehashed_of_twins
    exact List.rel_filterMap each alongside.asked

theorem abreast_run_users (alike : config.Alike config')
    (parsed : ConnectionParams.parse config.postgres = .ok params)
    (parsed' : ConnectionParams.parse config'.postgres = .ok params')
    (same : params' = { params with password := params'.password })
    {supplies supplies' : List UserSupplies}
    (supplied : List.Forall₂ (UserSupplies.Alike config.seed.password config'.seed.password)
      supplies supplies') :
    Abreast (Twin params params') SameResult (run ⟨supplies.map UserTable.routine⟩ config)
      (run ⟨supplies'.map UserTable.routine⟩ config') := by
  refine abreast_run parsed parsed' same ?_
  rw [List.forall₂_map_left_iff, List.forall₂_map_right_iff]
  exact supplied.imp fun _ _ supply => ⟨rfl, UserTable.abreast_seed alike supply⟩

/-- Neither what is logged nor what is reported tells a password: two runs for users whose settings
differ in passwords alone are the same but for times and hashes, if the servers give the same
replies. -/
theorem discreet_run {config config' : Config} (alike : config.Alike config')
    (parsed : ConnectionParams.parse config.postgres = .ok params)
    (parsed' : ConnectionParams.parse config'.postgres = .ok params')
    (same : params' = { params with password := params'.password })
    {supplies supplies' : List UserSupplies}
    (supplied : List.Forall₂ (UserSupplies.Alike config.seed.password config'.seed.password)
      supplies supplies')
    {world world' : World} (mirror : World.Mirror world world')
    (replies : Agree (PoolProgram.replies (run ⟨supplies.map UserTable.routine⟩ config) world)
      (PoolProgram.replies (run ⟨supplies'.map UserTable.routine⟩ config') world')) :
    Discreet params params' (run ⟨supplies.map UserTable.routine⟩ config)
      (run ⟨supplies'.map UserTable.routine⟩ config') world world' :=
  discreet_of_alongside same
    (alongside_run (abreast_run_users alike parsed parsed' same supplied) mirror replies)

/-- Settings with a password, and a connection string with one. -/
def guarded (password : String) : Config where
  postgres := "postgresql://alice:" ++ password ++ "@dbhost/appdb"
  seed := { users := 3, password }

/-- Supplies with a hasher that gives up after some passwords. -/
def forgetful : UserSupplies where
  hasher := fun calls password => if calls < 2 then .ok password else .error (.passwordHash "no more")
  ids := { clock := fun calls => calls, random := fun calls => calls }
  timestamp := 0
  chance := .ofSeed 0

theorem alike_forgetful (password password' : String) :
    UserSupplies.Alike password password' forgetful forgetful := by
  refine ⟨rfl, rfl, rfl, fun calls => ?_⟩
  show HashedAlike (if calls < 2 then _ else _) (if calls < 2 then _ else _)
  split
  · exact .ok password password'
  · exact .error _

/-- Someone who calls the routine for users twice. -/
def twice : Seeder := ⟨[forgetful, forgetful].map UserTable.routine⟩

/-- Two runs with other passwords, the second of which takes longer. -/
theorem discreet_run_slower :
    Discreet ⟨"dbhost", 5432, "alice", "first", "appdb"⟩ ⟨"dbhost", 5432, "alice", "other", "appdb"⟩
      (twice.run (guarded "first")) (twice.run (guarded "other")) .obliging
      { World.obliging with elapsed := 9 } := by
  have supply := alike_forgetful "first" "other"
  have supplied : List.Forall₂ (UserSupplies.Alike "first" "other") [forgetful, forgetful]
      [forgetful, forgetful] := .cons supply (.cons supply .nil)
  have alike : (guarded "first").Alike (guarded "other") := ⟨rfl, rfl⟩
  have mirror : World.Mirror .obliging { World.obliging with elapsed := 9 } :=
    ⟨rfl, rfl, rfl, rfl, .nil⟩
  have echo : World.Echo .obliging { World.obliging with elapsed := 9 } :=
    ⟨⟨rfl, Database.Behaviour.blind_obliging, rfl, .nil⟩, rfl⟩
  have replies := replies_eq_of_blind rfl (abreast_run_users alike rfl rfl rfl supplied) mirror echo
  exact discreet_run alike rfl rfl rfl supplied mirror (agree_of_eq replies)

/-- Two runs are discreet without any condition on the replies if the servers are blind. -/
theorem discreet_of_blind {config config' : Config} (alike : config.Alike config')
    (parsed : ConnectionParams.parse config.postgres = .ok params)
    (parsed' : ConnectionParams.parse config'.postgres = .ok params')
    (same : params' = { params with password := params'.password })
    {supplies supplies' : List UserSupplies}
    (supplied : List.Forall₂ (UserSupplies.Alike config.seed.password config'.seed.password)
      supplies supplies')
    {world world' : World} (mirror : World.Mirror world world') (echo : World.Echo world world') :
    Discreet params params' (run ⟨supplies.map UserTable.routine⟩ config)
      (run ⟨supplies'.map UserTable.routine⟩ config') world world' := by
  have abreast := abreast_run_users alike parsed parsed' same supplied
  have replies := replies_eq_of_blind same abreast mirror echo
  exact discreet_of_alongside same (alongside_run abreast mirror (agree_of_eq replies))

end Seeder
end Seedbed
