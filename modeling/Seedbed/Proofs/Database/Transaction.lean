import Seedbed.Database.Server

/-!
# Transactions

What becomes of a connection's session and of the kept rows when a statement is answered. A server
reacts to a statement in one of five ways (`answer_reaction`). In a transaction the rows stay
pending as long as every statement is carried out, and the first one that fails leaves nothing that
a commit could keep (`stands_answer`); only a commit keeps rows, and it keeps all that are pending
or none (`settled_answer_commit`).
-/

namespace Seedbed.Database

/-- The rows that a statement inserts. -/
def Statement.rows : Statement → List Row
  | .insert text parameters => [⟨text, parameters⟩]
  | _ => []

/-- Whether a statement begins or ends a transaction. -/
def Statement.controls (statement : Statement) : Prop :=
  statement = .begin ∨ statement = .commit ∨ statement = .rollback

namespace Server

variable {server : Server} {connection : Nat} {statement : Statement}

theorem opened_of_session (there : server.session connection ≠ .lost) :
    connection < server.opened := by
  by_cases inside : connection < server.opened
  · exact inside
  · have beyond : server.sessions[connection]? = none := by simpa [opened] using inside
    exact absurd (by simp [session, List.getD, beyond]) there

@[simp] theorem committed_disconnect :
    (server.disconnect connection).committed = server.committed := rfl

/-- A connection that is closed stays closed, and has nothing pending. -/
@[simp] theorem session_disconnect : (server.disconnect connection).session connection = .lost := by
  by_cases there : connection < server.opened
  · exact session_setSession .lost there
  · have beyond : server.sessions.length ≤ connection := Nat.not_lt.mp there
    simp [disconnect, setSession, session, List.getD, beyond]

@[simp] theorem committed_note (failed : Bool) :
    (server.note connection statement failed).committed = server.committed := rfl

/-- How a server reacts to a statement. -/
inductive Reaction (server : Server) (connection : Nat) (statement : Statement) :
    Except Fault Nat × Server → Prop where
  /-- Nobody is there any more. -/
  | deaf (gone : server.session connection = .lost) :
      Reaction server connection statement (.error .hungUp, server)
  | refused (there : server.session connection ≠ .lost) (message : String) :
      Reaction server connection statement (server.refuse connection statement message)
  /-- The connection is closed, and the statement with it. -/
  | cut (there : server.session connection ≠ .lost) :
      Reaction server connection statement
        (.error .hungUp, (server.note connection statement true).disconnect connection)
  | done (there : server.session connection ≠ .lost)
      (heard : (server.session connection).bars statement = false) (rows : Nat) :
      Reaction server connection statement
        (.ok (server.carryOut connection statement rows).1,
          (server.carryOut connection statement rows).2)
  /-- The statement is carried out, but the connection is closed before the answer. -/
  | unheard (there : server.session connection ≠ .lost)
      (heard : (server.session connection).bars statement = false) :
      Reaction server connection statement
        (.error .hungUp, (server.carryOut connection statement 0).2.disconnect connection)

theorem answer_reaction (server : Server) (connection : Nat) (statement : Statement) :
    Reaction server connection statement (server.answer connection statement) := by
  unfold answer
  by_cases gone : server.session connection = .lost
  · simp only [gone, ↓reduceIte]
    exact .deaf gone
  · simp only [gone, ↓reduceIte]
    cases server.behaviour.verdict (server.record.map Entry.statement) statement with
    | hangUp => exact .cut gone
    | refuse message => exact .refused gone _
    | accept rows =>
      by_cases barred : (server.session connection).bars statement
      · simp only [barred, ↓reduceIte]
        exact .refused gone _
      · simp only [barred, Bool.false_eq_true, ↓reduceIte]
        exact .done gone (by simpa using barred) rows
    | fallSilent =>
      by_cases barred : (server.session connection).bars statement
      · simp only [barred, ↓reduceIte]
        exact .cut gone
      · simp only [barred, Bool.false_eq_true, ↓reduceIte]
        exact .unheard gone (by simpa using barred)

/-- What is accepted is carried out, unless the session has no ear for it. -/
theorem answer_of_accept {rows : Nat} (there : server.session connection ≠ .lost)
    (heard : (server.session connection).bars statement = false)
    (accepts : server.behaviour.verdict (server.record.map Entry.statement) statement =
      .accept rows) :
    server.answer connection statement =
      (.ok (server.carryOut connection statement rows).1,
        (server.carryOut connection statement rows).2) := by
  simp only [answer, there, ↓reduceIte, accepts, heard, Bool.false_eq_true]

/-- In a session that has an ear for it, the insertion of a row succeeds if it is accepted. -/
theorem answer_insert_of_accept {text : String} {values : List Parameter} {rows : Nat}
    (ready : server.session connection = .idle ∨
      ∃ earlier, server.session connection = .transaction earlier)
    (accepts : server.behaviour.verdict (server.record.map Entry.statement) (.insert text values) =
      .accept rows) :
    (server.answer connection (.insert text values)).1 = .ok rows := by
  rcases ready with idle | ⟨earlier, inside⟩
  · have there : server.session connection ≠ .lost := by rw [idle]; decide
    rw [answer_of_accept there (by rw [idle]; rfl) accepts, carryOut, idle]
    rfl
  · have there : server.session connection ≠ .lost := by rw [inside]; exact nofun
    rw [answer_of_accept there (by rw [inside]; rfl) accepts, carryOut, inside]
    rfl

/-! ## What a reaction leaves -/

@[simp] theorem committed_refuse (message : String) :
    (server.refuse connection statement message).2.committed = server.committed := rfl

@[simp] theorem session_refuse (there : server.session connection ≠ .lost) (message : String) :
    (server.refuse connection statement message).2.session connection =
      (server.session connection).afterFailure :=
  session_setSession _ (opened_of_session
    (show (server.note connection statement true).session connection ≠ .lost from there))

@[simp] theorem committed_carryOut (rows : Nat) :
    (server.carryOut connection statement rows).2.committed =
      server.committed ++ ((server.session connection).afterSuccess statement rows).2.1 := rfl

@[simp] theorem session_carryOut (there : server.session connection ≠ .lost) (rows : Nat) :
    (server.carryOut connection statement rows).2.session connection =
      ((server.session connection).afterSuccess statement rows).1 :=
  session_setSession _ (opened_of_session
    (show (server.note connection statement false).session connection ≠ .lost from there))

/-- A server forgets no statement. -/
theorem record_answer (server : Server) (connection : Nat) (statement : Statement) :
    server.record <:+ (server.answer connection statement).2.record := by
  have longer (failed : Bool) :
      server.record <:+ ⟨connection, statement, failed⟩ :: server.record := List.suffix_cons _ _
  have reaction := answer_reaction server connection statement
  generalize server.answer connection statement = answered at reaction
  cases reaction with
  | deaf gone => exact List.suffix_rfl
  | refused there message => exact longer true
  | cut there => exact longer true
  | done there heard rows => exact longer false
  | unheard there heard => exact longer false

/-! ## New connections -/

theorem session_of_isPrefix {before after : Server} (longer : before.sessions <+: after.sessions)
    (there : before.session connection ≠ .lost) :
    after.session connection = before.session connection := by
  obtain ⟨more, same⟩ := longer
  have inside : connection < before.sessions.length := opened_of_session there
  simp [session, List.getD, ← same, List.getElem?_append_left inside]

/-- A new connection is outside of a transaction, and those from before are as they were. -/
theorem session_connect {params : ConnectionParams} {after : Server}
    (connected : server.connect params = (.ok connection, after)) :
    after.session connection = .idle ∧ server.sessions <+: after.sessions := by
  unfold connect at connected
  cases behaves : server.behaviour.connect params server.opened with
  | some fault => simp [behaves] at connected
  | none =>
    simp only [behaves] at connected
    cases connected
    exact ⟨by simp [session, opened], List.prefix_append _ _⟩

/-- A connection that is still there was not touched. -/
theorem ping_eq_of_there (there : (server.ping connection).1 = true) :
    (server.ping connection).2 = server := by
  unfold ping at there ⊢
  split at there
  · rename_i kept
    rw [if_pos kept]
  · cases there

/-! ## In a transaction -/

/-- A transaction begins with nothing pending, if it begins. -/
theorem session_answer_begin (idle : server.session connection = .idle) {affected : Nat}
    {after : Server} (answered : server.answer connection .begin = (.ok affected, after)) :
    after.session connection = .transaction [] := by
  have reaction := answer_reaction server connection .begin
  rw [answered] at reaction
  cases reaction with
  | done there heard rows => rw [session_carryOut there, idle]; rfl

/-- Whether a server has kept no row from one moment to another, and has forgotten no statement. -/
structure Quiet (before after : Server) : Prop where
  committed : after.committed = before.committed
  record : before.record <:+ after.record

theorem Quiet.refl (server : Server) : Quiet server server := ⟨rfl, List.suffix_rfl⟩

theorem Quiet.trans {first second third : Server} (early : Quiet first second)
    (late : Quiet second third) : Quiet first third :=
  ⟨late.committed.trans early.committed, early.record.trans late.record⟩

/-- A statement that never makes pending rows kept keeps none. -/
theorem quiet_answer (server : Server) (connection : Nat)
    (nothing : ∀ (session : Session) rows, (session.afterSuccess statement rows).2.1 = []) :
    Quiet server (server.answer connection statement).2 := by
  refine ⟨?_, server.record_answer connection statement⟩
  have reaction := answer_reaction server connection statement
  generalize server.answer connection statement = answered at reaction
  cases reaction <;> simp [nothing]

theorem quiet_answer_begin (server : Server) (connection : Nat) :
    Quiet server (server.answer connection .begin).2 :=
  server.quiet_answer connection fun session _ => by cases session <;> rfl

theorem quiet_answer_rollback (server : Server) (connection : Nat) :
    Quiet server (server.answer connection .rollback).2 :=
  server.quiet_answer connection fun session _ => by cases session <;> rfl

theorem quiet_disconnect (server : Server) (connection : Nat) :
    Quiet server (server.disconnect connection) := ⟨rfl, List.suffix_rfl⟩

/-- A new connection changes nothing but the sessions. -/
theorem quiet_connect (server : Server) (params : ConnectionParams) :
    Quiet server (server.connect params).2 := by
  unfold connect
  cases server.behaviour.connect params server.opened <;> exact ⟨rfl, List.suffix_rfl⟩

theorem quiet_ping (server : Server) (connection : Nat) :
    Quiet server (server.ping connection).2 := by
  unfold ping
  split <;> exact ⟨rfl, List.suffix_rfl⟩

end Server

/-- A statement that was sent, with its answer. -/
abbrev Exchange := Statement × Except Fault Nat

/-- The rows that some statements insert, in order. -/
def rowsOf (exchanges : List Exchange) : List Row :=
  exchanges.flatMap fun exchange => exchange.1.rows

/-- Whether all of some statements were carried out. -/
def AllDone (exchanges : List Exchange) : Prop := ∀ exchange ∈ exchanges, exchange.2.isOk

theorem rowsOf_append (earlier later : List Exchange) :
    rowsOf (earlier ++ later) = rowsOf earlier ++ rowsOf later := List.flatMap_append

theorem rowsOf_singleton (exchange : Exchange) : rowsOf [exchange] = exchange.1.rows := by
  simp [rowsOf]

theorem allDone_append {earlier later : List Exchange} :
    AllDone (earlier ++ later) ↔ AllDone earlier ∧ AllDone later := List.forall_mem_append

theorem allDone_ok (statement : Statement) (affected : Nat) : AllDone [(statement, .ok affected)] :=
  fun _ member => by rw [List.mem_singleton.mp member]; rfl

theorem not_allDone_error (earlier : List Exchange) (statement : Statement) (fault : Fault) :
    ¬ AllDone (earlier ++ [(statement, .error fault)]) := by
  intro all
  have done := (allDone_append.mp all).2 _ (List.mem_singleton_self _)
  cases done

/-- Where a session stands when some statements were sent since its transaction began: their rows
are pending if all were carried out, and otherwise nothing is. -/
inductive Session.Stands (exchanges : List Exchange) : Session → Prop where
  | pending (all : AllDone exchanges) : Stands exchanges (.transaction (rowsOf exchanges))
  | spoilt (failed : ¬ AllDone exchanges) : Stands exchanges .spoilt
  | lost (failed : ¬ AllDone exchanges) : Stands exchanges .lost

namespace Server

variable {server : Server} {connection : Nat} {statement : Statement} {exchanges : List Exchange}

/-- A transaction keeps its pending rows, and those of one more statement, unless that fails. -/
theorem afterSuccess_transaction (plain : ¬ statement.controls) (pending : List Row) (rows : Nat) :
    Session.afterSuccess statement rows (.transaction pending) =
      (.transaction (pending ++ statement.rows), [], rows) := by
  cases statement with
  | begin | commit | rollback => simp [Statement.controls] at plain
  | insert text parameters => rfl
  | query text => simp [Session.afterSuccess, Statement.rows]

theorem bars_spoilt (plain : ¬ statement.controls) : Session.spoilt.bars statement = true := by
  cases statement with
  | begin | commit | rollback => simp [Statement.controls] at plain
  | insert text parameters => rfl
  | query text => rfl

/-- A session in a transaction is spoilt by a failure, or was so before. -/
theorem stands_afterFailure {session : Session} (stands : session.Stands exchanges)
    (there : session ≠ .lost) (fault : Fault) :
    session.afterFailure.Stands (exchanges ++ [(statement, .error fault)]) := by
  cases stands with
  | pending all => exact .spoilt (not_allDone_error exchanges statement fault)
  | spoilt failed => exact .spoilt (not_allDone_error exchanges statement fault)
  | lost failed => exact absurd rfl there

/-- A statement that is heard in a transaction finds all statements before it carried out. -/
theorem eq_transaction_of_heard {session : Session} (stands : session.Stands exchanges)
    (plain : ¬ statement.controls) (there : session ≠ .lost)
    (heard : session.bars statement = false) :
    session = .transaction (rowsOf exchanges) ∧ AllDone exchanges := by
  cases stands with
  | pending all => exact ⟨rfl, all⟩
  | spoilt failed => rw [bars_spoilt plain] at heard; cases heard
  | lost failed => exact absurd rfl there

/-- What one statement does in a transaction: no rows are kept yet, and the session stands where the
statements so far have brought it. -/
theorem stands_answer (plain : ¬ statement.controls)
    (stands : (server.session connection).Stands exchanges) :
    ((server.answer connection statement).2.session connection).Stands
        (exchanges ++ [(statement, (server.answer connection statement).1)]) ∧
      (server.answer connection statement).2.committed = server.committed := by
  have lost : Session.lost.Stands (exchanges ++ [(statement, .error .hungUp)]) :=
    .lost (not_allDone_error exchanges statement .hungUp)
  have reaction := answer_reaction server connection statement
  generalize server.answer connection statement = answered at reaction
  cases reaction with
  | deaf gone => exact ⟨by rw [gone]; exact lost, rfl⟩
  | refused there message =>
    refine ⟨?_, rfl⟩
    rw [session_refuse there]
    exact stands_afterFailure stands there _
  | cut there => exact ⟨by rw [session_disconnect]; exact lost, rfl⟩
  | done there heard rows =>
    obtain ⟨standing, all⟩ := eq_transaction_of_heard stands plain there heard
    rw [session_carryOut there, committed_carryOut, standing, afterSuccess_transaction plain]
    refine ⟨?_, List.append_nil _⟩
    rw [← rowsOf_singleton (statement, .ok _), ← rowsOf_append]
    exact .pending (allDone_append.mpr ⟨all, allDone_ok _ _⟩)
  | unheard there heard =>
    obtain ⟨standing, -⟩ := eq_transaction_of_heard stands plain there heard
    rw [session_disconnect, committed_disconnect, committed_carryOut, standing,
      afterSuccess_transaction plain]
    exact ⟨lost, List.append_nil _⟩

/-- How a transaction in which some statements were sent is settled by a commit with a reply:
nothing of it is kept, or all of it. -/
inductive Settled (connection : Nat) (exchanges : List Exchange) (reply : Except Fault Nat)
    (before after : Server) : Prop where
  | discarded (same : after.committed = before.committed)
      (excused : AllDone exchanges → ¬ reply.isOk)
  | kept (all : AllDone exchanges) (grown : after.committed = before.committed ++ rowsOf exchanges)
      (processed : ∃ recent, after.record = recent ++ before.record ∧
        ⟨connection, .commit, false⟩ ∈ recent)

/-- What keeps no rows, before and after, does not change how a transaction is settled. -/
theorem Settled.around {reply : Except Fault Nat} {first before after last : Server}
    (early : Quiet first before) (settled : Settled connection exchanges reply before after)
    (late : Quiet after last) : Settled connection exchanges reply first last := by
  cases settled with
  | discarded same excused =>
    exact .discarded (late.committed.trans (same.trans early.committed)) excused
  | kept all grown processed =>
    obtain ⟨oldest, older⟩ := early.record
    obtain ⟨newest, newer⟩ := late.record
    obtain ⟨recent, longer, member⟩ := processed
    refine .kept all (by rw [late.committed, grown, early.committed]) ?_
    refine ⟨newest ++ recent ++ oldest, ?_, ?_⟩
    · rw [← newer, longer, ← older]
      simp only [List.append_assoc]
    · exact List.mem_append_left _ (List.mem_append_right _ member)

/-- A commit that is carried out keeps all rows of its transaction, unless that was spoilt. -/
theorem settled_carryOut (stands : (server.session connection).Stands exchanges) (rows : Nat)
    (reply : Except Fault Nat) :
    Settled connection exchanges reply server (server.carryOut connection .commit rows).2 := by
  have grown : (server.carryOut connection .commit rows).2.committed = server.committed ++
      ((server.session connection).afterSuccess .commit rows).2.1 := committed_carryOut rows
  generalize server.session connection = session at stands grown
  cases stands with
  | pending all => exact .kept all grown ⟨[_], rfl, List.mem_singleton_self _⟩
  | spoilt failed => exact .discarded (grown.trans (List.append_nil _)) fun all => absurd all failed
  | lost failed => exact .discarded (grown.trans (List.append_nil _)) fun all => absurd all failed

/-- A commit keeps the rows of all statements of its transaction if each was carried out and the
commit is, and otherwise it keeps none; it can succeed in both cases. -/
theorem settled_answer_commit (stands : (server.session connection).Stands exchanges) :
    Settled connection exchanges (server.answer connection .commit).1 server
      (server.answer connection .commit).2 := by
  have failed (fault : Fault) : ¬ (Except.error fault : Except Fault Nat).isOk := Bool.false_ne_true
  have reaction := answer_reaction server connection .commit
  generalize server.answer connection .commit = answered at reaction
  cases reaction with
  | deaf gone => exact .discarded rfl fun _ => failed _
  | refused there message => exact .discarded rfl fun _ => failed _
  | cut there => exact .discarded rfl fun _ => failed _
  | done there heard rows => exact settled_carryOut stands rows _
  | unheard there heard =>
    exact .around (.refl server) (settled_carryOut stands 0 _) (quiet_disconnect _ connection)

end Server
end Seedbed.Database
