import Seedbed.Proofs.Pool.Twins

/-!
# Servers that are blind to passwords

A server that behaves alike whatever a password and its hashes are (`Behaviour.Blind`) replies the same
to two programs that go abreast (`replies_eq_of_blind`). The server and the pools of one program echo
those of the other: they are the same but for passwords, hashes and rows, and stay so with each pair
of requests (`World.Echo.perform`).
-/

namespace Seedbed

open Program

namespace Database

/-- Whether a behaviour has nothing to do with passwords and their hashes. -/
structure Behaviour.Blind (behaviour : Behaviour) : Prop where
  connect : ∀ params password opened,
    behaviour.connect { params with password } opened = behaviour.connect params opened
  verdict : ∀ {earlier earlier' statement statement'}, List.Forall₂ Rehashed earlier earlier' →
    Rehashed statement statement' →
      behaviour.verdict earlier' statement' = behaviour.verdict earlier statement
  keeps : ∀ {earlier earlier'}, List.Forall₂ Rehashed earlier earlier' → ∀ opened connection,
    behaviour.keeps earlier' opened connection = behaviour.keeps earlier opened connection

theorem Behaviour.blind_obliging : Behaviour.obliging.Blind where
  connect _ _ _ := rfl
  verdict _ _ := rfl
  keeps _ _ _ := rfl

/-! ## Sessions -/

namespace Session

/-- A session without the rows that are pending in it. -/
def emptied : Session → Session
  | .transaction _ => .transaction []
  | session => session

variable {session session' : Session} {statement statement' : Statement}

theorem eq_or_transaction (same : session'.emptied = session.emptied) :
    session' = session ∨
      ∃ pending pending', session = .transaction pending ∧ session' = .transaction pending' := by
  cases session <;> cases session' <;> simp [emptied] at same ⊢

theorem lost_iff (same : session'.emptied = session.emptied) : session' = .lost ↔ session = .lost := by
  obtain rfl | ⟨pending, pending', rfl, rfl⟩ := eq_or_transaction same
  · exact Iff.rfl
  · simp

theorem bars_eq (same : session'.emptied = session.emptied) (rehashed : Rehashed statement statement') :
    session'.bars statement' = session.bars statement := by
  have ends : statement'.endsTransaction = statement.endsTransaction := by cases rehashed <;> rfl
  rw [bars, bars, ends]
  obtain rfl | ⟨pending, pending', rfl, rfl⟩ := eq_or_transaction same
  · rfl
  · simp

theorem emptied_afterFailure (same : session'.emptied = session.emptied) :
    session'.afterFailure.emptied = session.afterFailure.emptied := by
  obtain rfl | ⟨pending, pending', rfl, rfl⟩ := eq_or_transaction same <;> rfl

/-- The session after a statement, and how many rows that affects, do not depend on pending rows. -/
theorem emptied_afterSuccess (same : session'.emptied = session.emptied)
    (rehashed : Rehashed statement statement') (rows : Nat) :
    (session'.afterSuccess statement' rows).1.emptied =
        (session.afterSuccess statement rows).1.emptied ∧
      (session'.afterSuccess statement' rows).2.2 = (session.afterSuccess statement rows).2.2 := by
  obtain rfl | ⟨pending, pending', rfl, rfl⟩ := eq_or_transaction same
  · cases rehashed with
    | same => exact ⟨rfl, rfl⟩
    | insert user passwordHash => cases session' <;> exact ⟨rfl, rfl⟩
  · cases rehashed with
    | same => cases statement <;> exact ⟨rfl, rfl⟩
    | insert user passwordHash => exact ⟨rfl, rfl⟩

end Session

/-! ## Servers -/

namespace Server

/-- Whether two servers are blind, and the same but for the rows that they have and for the hashes
that they were sent. -/
structure Echo (server server' : Server) : Prop where
  behaviour : server'.behaviour = server.behaviour
  blind : server.behaviour.Blind
  sessions : server'.sessions.map Session.emptied = server.sessions.map Session.emptied
  earlier : List.Forall₂ Rehashed (server.record.map Entry.statement)
    (server'.record.map Entry.statement)

/-- Whether two servers have replied the same, and echo each other since. -/
structure Replied (first first' : α × Server) : Prop where
  reply : first'.1 = first.1
  after : Echo first.2 first'.2

namespace Echo

variable {server server' : Server} {statement statement' : Statement}

theorem opened (echo : Echo server server') : server'.opened = server.opened := by
  have sizes := congrArg List.length echo.sessions
  rwa [List.length_map, List.length_map] at sizes

theorem session (echo : Echo server server') (connection : Nat) :
    (server'.session connection).emptied = (server.session connection).emptied := by
  have there := congrArg (·[connection]?) echo.sessions
  simp only [List.getElem?_map] at there
  rw [Server.session, List.getD_eq_getElem?_getD, ← Option.getD_map Session.emptied, there,
    Option.getD_map, ← List.getD_eq_getElem?_getD, Server.session]

theorem setSession (echo : Echo server server') (connection : Nat) {session session' : Session}
    (same : session'.emptied = session.emptied) :
    Echo (server.setSession connection session) (server'.setSession connection session') := by
  refine { echo with sessions := ?_ }
  show (server'.sessions.set connection session').map _ = (server.sessions.set connection session).map _
  rw [List.map_set, List.map_set, echo.sessions, same]

theorem disconnects (echo : Echo server server') (connections : List Nat) :
    Echo (connections.foldl disconnect server) (connections.foldl disconnect server') := by
  induction connections generalizing server server' with
  | nil => exact echo
  | cons connection rest ih => exact ih (echo.setSession connection rfl)

theorem note (echo : Echo server server') (connection : Nat) (rehashed : Rehashed statement statement')
    (failed : Bool) :
    Echo (server.note connection statement failed) (server'.note connection statement' failed) :=
  { echo with earlier := .cons rehashed echo.earlier }

theorem connect (echo : Echo server server') (params : ConnectionParams) (password : String) :
    Replied (server.connect params) (server'.connect { params with password }) := by
  unfold Server.connect
  rw [echo.behaviour, echo.opened, echo.blind.connect params password]
  cases server.behaviour.connect params server.opened with
  | some fault => exact ⟨rfl, echo⟩
  | none =>
    refine ⟨rfl, ⟨rfl, echo.blind, ?_, echo.earlier⟩⟩
    show (server'.sessions ++ [Session.idle]).map _ = (server.sessions ++ [Session.idle]).map _
    rw [List.map_append, List.map_append, echo.sessions]

theorem refuse (echo : Echo server server') (connection : Nat)
    (rehashed : Rehashed statement statement') (message : String) :
    Replied (server.refuse connection statement message)
      (server'.refuse connection statement' message) :=
  ⟨rfl, (echo.note connection rehashed true).setSession connection
    (Session.emptied_afterFailure (echo.session connection))⟩

theorem carryOut (echo : Echo server server') (connection : Nat)
    (rehashed : Rehashed statement statement') (rows : Nat) :
    Replied (server.carryOut connection statement rows)
      (server'.carryOut connection statement' rows) := by
  obtain ⟨session, affected⟩ :=
    Session.emptied_afterSuccess (echo.session connection) rehashed rows
  exact ⟨affected, { (echo.note connection rehashed false).setSession connection session with }⟩

theorem answer (echo : Echo server server') (connection : Nat)
    (rehashed : Rehashed statement statement') :
    Replied (server.answer connection statement) (server'.answer connection statement') := by
  have session := echo.session connection
  have verdict : server'.behaviour.verdict (server'.record.map Entry.statement) statement' =
      server.behaviour.verdict (server.record.map Entry.statement) statement := by
    rw [echo.behaviour]
    exact echo.blind.verdict echo.earlier rehashed
  -- The verdicts are the same, so one case analysis does for both servers.
  unfold Server.answer
  simp only [Session.lost_iff session, Session.bars_eq session rehashed, verdict]
  split
  · exact ⟨rfl, echo⟩
  · cases server.behaviour.verdict (server.record.map Entry.statement) statement with
    | hangUp => exact ⟨rfl, (echo.note connection rehashed true).setSession connection rfl⟩
    | refuse message => exact echo.refuse connection rehashed _
    | accept rows =>
      obtain ⟨affected, after⟩ := echo.carryOut connection rehashed rows
      dsimp only
      split
      · exact echo.refuse connection rehashed _
      · exact ⟨congrArg Except.ok affected, after⟩
    | fallSilent =>
      obtain ⟨-, after⟩ := echo.carryOut connection rehashed 0
      dsimp only
      split
      · exact ⟨rfl, (echo.note connection rehashed true).setSession connection rfl⟩
      · exact ⟨rfl, after.setSession connection rfl⟩

theorem ping (echo : Echo server server') (connection : Nat) :
    Replied (server.ping connection) (server'.ping connection) := by
  unfold Server.ping
  simp only [ne_eq, Session.lost_iff (echo.session connection), echo.behaviour, echo.opened,
    echo.blind.keeps echo.earlier]
  split
  · exact ⟨rfl, echo⟩
  · exact ⟨rfl, echo.setSession connection rfl⟩

end Echo
end Server
end Database

open Database

/-! ## Worlds -/

/-- A pool whose password is left out. -/
def Pool.masked (pool : Pool) : Pool := { pool with params := { pool.params with password := "" } }

namespace World

/-- Whether two worlds have servers that echo each other, and the same pools but for passwords. -/
structure Echo (world world' : World) : Prop where
  server : Server.Echo world.server world'.server
  pools : world'.pools.map Pool.masked = world.pools.map Pool.masked

/-- Whether two worlds echo each other once both have answered. -/
def Onward (answered : Option (α × World)) (answered' : Option (β × World)) : Prop :=
  ∀ first ∈ answered, ∀ second ∈ answered', Echo first.2 second.2

/-- Whether two worlds answer the same, if they answer, and echo each other since. -/
def AnswerAlike (answered answered' : Option (α × World)) : Prop :=
  Option.Rel (fun first second => second.1 = first.1 ∧ Echo first.2 second.2) answered answered'

namespace Echo

variable {world world' : World} {params params' : ConnectionParams}

theorem modifyPool (echo : Echo world world') (pool : PoolId) {change : Pool → Pool}
    (masked : ∀ state, (change state).masked = change state.masked) :
    Echo (world.modifyPool pool change) (world'.modifyPool pool change) := by
  refine ⟨echo.server, ?_⟩
  rw [map_modifyPool world pool Pool.masked masked, map_modifyPool world' pool Pool.masked masked,
    echo.pools]

theorem pool?_eq (echo : Echo world world') (pool : PoolId) :
    ∃ password, world'.pool? pool = (world.pool? pool).map fun state =>
      { state with params := { state.params with password } } := by
  have same : (world'.pool? pool).map Pool.masked = (world.pool? pool).map Pool.masked := by
    rw [World.pool?, World.pool?, ← List.getElem?_map, echo.pools, List.getElem?_map]
  cases found : world.pool? pool with
  | none =>
    rw [found] at same
    exact ⟨"", Option.map_eq_none_iff.mp same⟩
  | some state =>
    rw [found] at same
    obtain ⟨state', found', same⟩ := Option.map_eq_some_iff.mp same
    refine ⟨state'.params.password, found'.trans (congrArg some ?_)⟩
    obtain ⟨⟨host, port, user, password, database⟩, max, closed, idle, out⟩ := state'
    cases same
    rfl

theorem lendNew (echo : Echo world world') (pool : PoolId) (params : ConnectionParams)
    (password : String) :
    AnswerAlike (world.lendNew pool params) (world'.lendNew pool { params with password }) := by
  obtain ⟨same, after⟩ := echo.server.connect params password
  unfold World.lendNew
  generalize world.server.connect params = connected at same after
  generalize world'.server.connect { params with password } = connected' at same after
  obtain ⟨reply, server⟩ := connected
  obtain ⟨reply', server'⟩ := connected'
  cases same
  cases reply with
  | error fault =>
    dsimp only
    split
    · exact .none
    · exact .some ⟨rfl, after, echo.pools⟩
  | ok connection =>
    have next : Echo { world with server } { world' with server := server' } := ⟨after, echo.pools⟩
    exact .some ⟨rfl, next.modifyPool pool fun _ => rfl⟩

theorem checkOut (echo : Echo world world') (pool : PoolId) :
    AnswerAlike (world.checkOut pool) (world'.checkOut pool) := by
  obtain ⟨password, same⟩ := echo.pool?_eq pool
  unfold World.checkOut
  rw [same]
  cases world.pool? pool with
  | none => exact .some ⟨rfl, echo⟩
  | some state =>
    dsimp only [Option.map_some]
    split
    · exact .some ⟨rfl, echo⟩
    · cases state.idle with
      | nil =>
        dsimp only
        split
        · exact .none
        · exact echo.lendNew pool state.params password
      | cons connection idle =>
        obtain ⟨there, server⟩ := echo.server.ping connection
        have next : Echo { world with server := (world.server.ping connection).2 }
            { world' with server := (world'.server.ping connection).2 } := ⟨server, echo.pools⟩
        dsimp only
        rw [there]
        split
        · exact .some ⟨rfl, next.modifyPool pool fun _ => rfl⟩
        · have fewer := @Echo.modifyPool _ _ next pool (fun state => { state with idle }) fun _ => rfl
          exact fewer.lendNew pool state.params password

theorem recover {server server' : Server} (echo : Server.Echo server server')
    (connection : ConnectionId) :
    Server.Replied (recover server connection) (recover server' connection) := by
  obtain ⟨reply, after⟩ := echo.answer connection (.same .rollback)
  unfold World.recover
  obtain same | ⟨pending, pending', same, same'⟩ := Session.eq_or_transaction (echo.session connection)
  · rw [same]
    cases server.session connection with
    | idle | lost => exact ⟨rfl, echo⟩
    | transaction | spoilt => exact ⟨congrArg Except.isOk reply, after⟩
  · rw [same, same']
    exact ⟨congrArg Except.isOk reply, after⟩

theorem outs (echo : Echo world world') : world'.outs = world.outs := by
  have outs (world : World) : world.outs = (world.pools.map Pool.masked).map Pool.out := by
    rw [List.map_map]
    rfl
  rw [outs, outs, echo.pools]

theorem giveBack (echo : Echo world world') (connection : ConnectionId) :
    Echo (world.giveBack connection) (world'.giveBack connection) := by
  unfold World.giveBack
  rw [lender_eq world', echo.outs, ← lender_eq]
  cases world.lender? connection with
  | none => exact echo
  | some pool =>
    have taken : Echo
        (world.modifyPool pool fun state => { state with out := state.out.erase connection })
        (world'.modifyPool pool fun state => { state with out := state.out.erase connection }) :=
      echo.modifyPool pool fun _ => rfl
    dsimp only
    generalize world.modifyPool pool _ = world at taken
    generalize world'.modifyPool pool _ = world' at taken
    obtain ⟨password, same⟩ := taken.pool?_eq pool
    have closed : (world'.pool? pool).any Pool.closed = (world.pool? pool).any Pool.closed := by
      rw [same, Option.any_map]
    rw [closed]
    split
    · exact ⟨taken.server.disconnects [connection], taken.pools⟩
    · obtain ⟨useful, server⟩ := recover taken.server connection
      rw [useful]
      split
      · have next : Echo { world with server := (World.recover world.server connection).2 }
            { world' with server := (World.recover world'.server connection).2 } :=
          ⟨server, taken.pools⟩
        exact next.modifyPool pool fun _ => rfl
      · exact ⟨server.disconnects [connection], taken.pools⟩

theorem close (echo : Echo world world') (pool : PoolId) :
    Echo (world.close pool) (world'.close pool) := by
  obtain ⟨password, same⟩ := echo.pool?_eq pool
  have idle : (world'.pool? pool).map Pool.idle = (world.pool? pool).map Pool.idle := by
    rw [same, Option.map_map]
    rfl
  have shut : Echo (world.modifyPool pool fun state => { state with closed := true, idle := [] })
      (world'.modifyPool pool fun state => { state with closed := true, idle := [] }) :=
    echo.modifyPool pool fun _ => rfl
  unfold World.close
  rw [idle]
  exact ⟨shut.server.disconnects _, shut.pools⟩

theorem onward_some (echo : Echo world world') (answer : α) (answer' : β) :
    Onward (some (answer, world)) (some (answer', world')) := by
  rintro _ ⟨⟩ _ ⟨⟩
  exact echo

theorem onward_unlocked (echo : Echo world world') (locked locked' : Bool) (answer : α)
    (answer' : β) :
    Onward (if locked then none else some (answer, world))
      (if locked' then none else some (answer', world')) := by
  intro first inside second inside'
  split at inside <;> cases inside
  split at inside' <;> cases inside'
  exact echo

theorem onward_of_answerAlike {answered answered' : Option (α × World)}
    (alike : AnswerAlike answered answered') :
    answered'.map (·.1) = answered.map (·.1) ∧ Onward answered answered' := by
  cases alike with
  | none =>
    refine ⟨rfl, ?_⟩
    rintro _ ⟨⟩
  | some alike =>
    refine ⟨congrArg some alike.1, ?_⟩
    rintro _ ⟨⟩ _ ⟨⟩
    exact alike.2

/-- Worlds that echo each other reply the same to twin requests, and still echo each other if both
answer. -/
theorem perform (echo : Echo world world')
    (same : params' = { params with password := params'.password }) {request request' : Request}
    {agrees : request.Answer → request'.Answer → Prop}
    (twin : Twin params params' request request' agrees) :
    request'.replied ((World.perform request' world').map (·.1)) =
        request.replied ((World.perform request world).map (·.1)) ∧
      Onward (World.perform request world) (World.perform request' world') := by
  cases twin with
  | elapsed => exact ⟨rfl, onward_some echo _ _⟩
  | connect =>
    obtain ⟨reply, server⟩ := echo.server.connect params params'.password
    rw [← same] at reply server
    refine ⟨congrArg ([some ·]) reply, onward_some ?_ _ _⟩
    exact ⟨server, echo.pools⟩
  | send connection rehashed =>
    obtain ⟨reply, server⟩ := echo.server.answer connection rehashed
    refine ⟨congrArg ([some ·]) reply, onward_some ?_ _ _⟩
    exact ⟨server, echo.pools⟩
  | install max idle =>
    refine ⟨rfl, onward_some ?_ _ _⟩
    refine ⟨echo.server, ?_⟩
    simp only [World.install, List.map_append, echo.pools]
    rw [same]
    rfl
  | say retold =>
    refine ⟨rfl, onward_some ?_ _ _⟩
    split <;> split <;> exact ⟨echo.server, echo.pools⟩
  | common common =>
    cases request with
    | connect | install | send | say | elapsed => exact common.elim
    | lock | current | take =>
      refine ⟨rfl, onward_unlocked ?_ _ _ _ _⟩
      exact ⟨echo.server, echo.pools⟩
    | unlock | outstanding | closeLater | listens =>
      refine ⟨rfl, onward_some ?_ _ _⟩
      exact ⟨echo.server, echo.pools⟩
    | abandon connection =>
      refine ⟨rfl, onward_some ?_ _ _⟩
      exact ⟨echo.server.disconnects [connection], echo.pools⟩
    | giveBack connection => exact ⟨rfl, onward_some (echo.giveBack connection) _ _⟩
    | close pool => exact ⟨rfl, onward_some (echo.close pool) _ _⟩
    | checkOut pool =>
      obtain ⟨reply, onward⟩ := onward_of_answerAlike (echo.checkOut pool)
      exact ⟨congrArg ([·]) reply, onward⟩

end Echo
end World

/-! ## Two runs -/

/-- Programs that go abreast get the same replies if their servers are blind to what they differ in. -/
theorem replies_eq_of_blind {params params' : ConnectionParams}
    (same : params' = { params with password := params'.password }) {ends : α → β → Prop}
    {program : PoolProgram α} {program' : PoolProgram β} {world world' : World}
    (abreast : Abreast (Twin params params') ends program program')
    (mirror : World.Mirror world world') (echo : World.Echo world world') :
    PoolProgram.replies program' world' = PoolProgram.replies program world := by
  induction abreast generalizing world world' with
  | done ended => rfl
  | halt => rfl
  | @ask request request' agrees next next' twin further ih =>
    obtain ⟨replied, onward⟩ := echo.perform same twin
    rw [replies_ask, replies_ask, replied]
    refine congrArg _ ?_
    rcases mirror.perform twin replied with ⟨waits, waits'⟩ |
        ⟨answer, after, answer', after', answered, answered', agree, later⟩
    · rw [waits, waits']
    · rw [answered, answered'] at onward ⊢
      exact ih answer answer' agree later (onward _ rfl _ rfl)

end Seedbed
