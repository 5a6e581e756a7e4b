import Seedbed.Pool.Manager
import Seedbed.Proofs.Pool.Requests
import Seedbed.Proofs.Program.Protocol

/-!
# Making a pool

Making a pool goes through the same phases for everyone: the slot is locked, connections are opened
that belong to no pool yet, the pool is put into the slot unless that fails, and the slot is
unlocked. A protocol that admits these moves is followed (`follows_make`).
-/

namespace Seedbed

open Program

namespace PoolManager

theorem asks_probe (params : ConnectionParams) : (probe params).Asks Request.Opens := by
  refine And.intro trivial fun reply => ?_
  cases reply with
  | error fault => exact trivial
  | ok connection => exact And.intro trivial fun _ => trivial

theorem asks_connectMany (params : ConnectionParams) (count : Nat) :
    (connectMany params count).Asks Request.Opens := by
  induction count with
  | zero => exact trivial
  | succ count ih =>
    refine And.intro trivial fun reply => ?_
    cases reply with
    | error fault => exact trivial
    | ok connection =>
      refine ih.bind fun rest => ?_
      cases rest with
      | error fault => exact And.intro trivial fun _ => trivial
      | ok connections => exact trivial

theorem asks_connectFirst (params : ConnectionParams) (count : Nat) :
    (connectFirst params count).Asks Request.Opens := by
  refine (asks_probe params).bind fun reply => ?_
  cases reply with
  | error fault => exact trivial
  | ok => exact asks_connectMany params count

theorem asks_firstConnections (eager : Bool) (params : ConnectionParams) (count : Nat) :
    (firstConnections eager params count).Asks Request.Opens := by
  cases eager with
  | true => exact asks_connectFirst params count
  | false => exact trivial

/-- Why a pool is not made, depending on what was found in the slot. -/
inductive Fails (eager : Bool) (min max : Nat) : (found : Option PoolId) → Failure → Prop where
  | already (pool : PoolId) : Fails eager min max (some pool) .alreadyInitialized
  | bounds (bad : min = 0 ∨ max < min) : Fails eager min max none (.invalidPoolBounds min max)
  | fault (good : ¬ (min = 0 ∨ max < min)) (opening : eager) (fault : Database.Fault) :
      Fails eager min max none (.database fault)

section

variable (protocol : Protocol Request.Answer) (inside : Option PoolId → protocol.Phase)
  (filled : PoolId → protocol.Phase) {eager : Bool} {min max : Nat}

theorem follows_firstConnections
    (opens : ∀ found request, request.Opens → ∀ answer,
      protocol.Moves (inside found) request answer (inside found))
    (params : ConnectionParams) (found : Option PoolId) :
    Follows protocol
      (fun later reply => later = inside found ∧ ∀ fault, reply = .error fault → eager)
      (inside found) (firstConnections eager params min) := by
  cases eager with
  | true =>
    refine (follows_of_asks (asks_connectFirst params min) (opens found)).mono ?_
    exact fun later reply same => ⟨same, fun _ _ => rfl⟩
  | false => exact ⟨rfl, nofun⟩

/-- A pool is put into the slot, or there is a reason why not. -/
theorem follows_fill
    (opens : ∀ found request, request.Opens → ∀ answer,
      protocol.Moves (inside found) request answer (inside found))
    (installs : ¬ (min = 0 ∨ max < min) → ∀ params idle pool,
      protocol.Moves (inside none) (.install params max idle) pool (filled pool))
    (params : ConnectionParams) (found : Option PoolId) :
    Follows protocol
      (fun later made => (∃ pool, later = filled pool ∧ made = .ok ()) ∨
        later = inside found ∧ ∃ failure, made = .error failure ∧ Fails eager min max found failure)
      (inside found) (fill eager min max params found) := by
  cases found with
  | some pool => exact .inr ⟨rfl, _, rfl, .already pool⟩
  | none =>
    unfold fill
    by_cases bad : min = 0 ∨ max < min
    · rw [boundsFailure?, if_pos bad]
      exact .inr ⟨rfl, _, rfl, .bounds bad⟩
    · rw [boundsFailure?, if_neg bad]
      refine (follows_firstConnections protocol inside opens params none).bind ?_
      rintro _ reply ⟨rfl, opening⟩
      cases reply with
      | error fault => exact .inr ⟨rfl, _, rfl, .fault bad (opening fault rfl) fault⟩
      | ok idle =>
        exact fun pool _ => ⟨filled pool, installs bad params idle pool, .inl ⟨pool, rfl, rfl⟩⟩

/-- How a pool is made. -/
theorem follows_make {fresh : protocol.Phase} {ends : protocol.Phase → Except Failure Unit → Prop}
    (locks : ∀ found, protocol.Moves fresh .lock found (inside found))
    (opens : ∀ found request, request.Opens → ∀ answer,
      protocol.Moves (inside found) request answer (inside found))
    (installs : ¬ (min = 0 ∨ max < min) → ∀ params idle pool,
      protocol.Moves (inside none) (.install params max idle) pool (filled pool))
    (succeeds : ∀ pool, ∃ last, protocol.Moves (filled pool) .unlock () last ∧ ends last (.ok ()))
    (fails : ∀ found failure, Fails eager min max found failure →
      ∃ last, protocol.Moves (inside found) .unlock () last ∧ ends last (.error failure))
    (params : ConnectionParams) :
    Follows protocol ends fresh (make eager min max params) := by
  intro found _
  refine ⟨inside found, locks found, ?_⟩
  refine (follows_fill protocol inside filled opens installs params found).bind ?_
  rintro later made (⟨pool, rfl, rfl⟩ | ⟨rfl, failure, rfl, why⟩)
  · exact fun _ _ => succeeds pool
  · exact fun _ _ => fails found failure why

end

end PoolManager
end Seedbed
