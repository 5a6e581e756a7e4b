import Seedbed.Config.Settings
import Seedbed.Database.Statement
import Seedbed.Failure
import Seedbed.Log
import Seedbed.Program

/-!
# Routines

A routine fills a part of the database. It sends statements over the connection that it is given,
may write lines to the log, and says at its end how many rows it has inserted, or why it failed.
Which connection that is, and in which transaction, is not up to the routine.
-/

namespace Seedbed

inductive Errand where
  | send (statement : Database.Statement)
  | say (line : Log.Line)

@[reducible] def Errand.Answer : Errand → Type
  | .send _ => Except Database.Fault Nat
  | .say _ => Unit

/-- A program that works over one connection. -/
abbrev Work := Program Errand.Answer

structure Routine where
  name : String
  /-- Inserts rows, and tells how many. -/
  seed : Config → Work (Except Failure Nat)

namespace Work

def send (statement : Database.Statement) : Work (Except Failure Nat) := do
  let reply : Except Database.Fault Nat ← Program.request (Errand.send statement)
  return reply.mapError .database

def say (line : Log.Line) : Work Unit := Program.request (Errand.say line)

end Work
end Seedbed
