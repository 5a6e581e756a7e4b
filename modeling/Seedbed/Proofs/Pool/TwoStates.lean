import Seedbed.Proofs.Pool.Making
import Seedbed.Proofs.Pool.Scene

/-!
# Two states

A manager that is used by any number of callers behaves like a machine with two states, which does
one thing at a time (`Stage.Does`). Every call takes effect on the machine at one moment between its
beginning and its end (`Serial`): an establishment that fails does when it unlocks the slot, one
that succeeds when its pool is put there, and every other call when it looks into the slot. A caller
who has read a pool there may get any answer later, so the machine has to be ready for each of them
(`Coherent`).
-/

namespace Seedbed.PoolManager

open Program Function

/-- A pool that is wished for. -/
structure Wish where
  /-- Whether its first connections are to be opened at once. -/
  eager : Bool
  min : Nat
  max : Nat
  params : ConnectionParams

/-- What callers can ask of a manager. -/
inductive Call where
  | establish (wish : Wish)
  | acquire
  | release (connection : ConnectionId)
  | shutdown
  | isEstablished

/-- What each call is answered with. -/
@[reducible] def Call.Answer : Call → Type
  | .establish _ => Except Failure Unit
  | .acquire => Except Failure ConnectionId
  | .release _ | .shutdown => Unit
  | .isEstablished => Bool

/-- How a manager carries out a call. -/
def Call.program : (call : Call) → PoolProgram call.Answer
  | .establish wish => make wish.eager wish.min wish.max wish.params
  | .acquire => PoolManager.acquire
  | .release connection => PoolManager.release connection
  | .shutdown => PoolManager.shutdown
  | .isEstablished => PoolManager.isEstablished

/-! ## The machine -/

/-- A state of the machine. -/
inductive Stage where
  | empty
  | live

namespace Stage

/-- The state that a slot shows. -/
def ofSlot : Option PoolId → Stage
  | none => .empty
  | some _ => .live

/-- How the machine answers a call in a state, and the state that it is in afterwards. -/
inductive Does : Stage → (call : Call) → call.Answer → Stage → Prop where
  /-- Whatever the bounds, and whether or not the server answers. -/
  | establishLive (wish : Wish) : Does .live (.establish wish) (.error .alreadyInitialized) .live
  | establishBounds {wish : Wish} (bad : wish.min = 0 ∨ wish.max < wish.min) :
      Does .empty (.establish wish) (.error (.invalidPoolBounds wish.min wish.max)) .empty
  | establishFault {wish : Wish} (good : ¬ (wish.min = 0 ∨ wish.max < wish.min))
      (eager : wish.eager) (fault : Database.Fault) :
      Does .empty (.establish wish) (.error (.database fault)) .empty
  | establish {wish : Wish} (good : ¬ (wish.min = 0 ∨ wish.max < wish.min)) :
      Does .empty (.establish wish) (.ok ()) .live
  | acquireEmpty : Does .empty .acquire (.error .notInitialized) .empty
  | acquireLive (lent : Except Database.Fault ConnectionId) :
      Does .live .acquire (lent.mapError .database) .live
  | release (stage : Stage) (connection : ConnectionId) : Does stage (.release connection) () stage
  | shutdown (stage : Stage) : Does stage .shutdown () .empty
  | isEstablishedEmpty : Does .empty .isEstablished false .empty
  | isEstablishedLive : Does .live .isEstablished true .live

end Stage

/-- Something that the machine did. -/
structure Deed where
  who : Nat
  call : Call
  answer : call.Answer
  before : Stage
  after : Stage

/-- Where a caller of the machine stands. -/
inductive Status where
  | free
  | called (call : Call)
  /-- The call has taken effect, and its answer is known to the machine. -/
  | effected (call : Call) (answer : call.Answer)

/-- What can be seen of callers of the machine: each call takes effect at one moment between its
beginning and its end, and the deeds of the machine are in the order of these moments. -/
inductive Serial (start : Stage) :
    List (Mark Call.Answer) → List Deed → (Nat → Status) → Stage → Prop where
  | start : Serial start [] [] (fun _ => .free) start
  | calls {history : List (Mark Call.Answer)} {order : List Deed} {statuses : Nat → Status}
      {stage : Stage} {who : Nat} (before : Serial start history order statuses stage) (call : Call)
      (idle : statuses who = .free) :
      Serial start (history ++ [.calls who call]) order (update statuses who (.called call)) stage
  | effect {history : List (Mark Call.Answer)} {order : List Deed} {statuses : Nat → Status}
      {stage after : Stage} {who : Nat} {call : Call} {answer : call.Answer}
      (before : Serial start history order statuses stage) (turn : statuses who = .called call)
      (does : stage.Does call answer after) :
      Serial start history (order ++ [⟨who, call, answer, stage, after⟩])
        (update statuses who (.effected call answer)) after
  | gets {history : List (Mark Call.Answer)} {order : List Deed} {statuses : Nat → Status}
      {stage : Stage} {who : Nat} {call : Call} {answer : call.Answer}
      (before : Serial start history order statuses stage)
      (turn : statuses who = .effected call answer) :
      Serial start (history ++ [.gets who call answer]) order (update statuses who .free) stage

/-- The machine goes from one state to another with some deeds. -/
def Runs : Stage → List Deed → Stage → Prop
  | stage, [], last => stage = last
  | stage, deed :: rest, last =>
    deed.before = stage ∧ stage.Does deed.call deed.answer deed.after ∧ Runs deed.after rest last

/-- The ways in which the machine changes its state. -/
inductive Change where
  /-- An establishment that succeeds. -/
  | established
  /-- A shutdown that finds a pool. -/
  | shutDown
  deriving DecidableEq

/-- The change that a deed makes. -/
def Deed.change? : Deed → Option Change
  | ⟨_, .establish _, .ok (), _, _⟩ => some .established
  | ⟨_, .shutdown, (), .live, _⟩ => some .shutDown
  | _ => none

/-- Changes that alternate, from some state on. -/
def Alternating : Stage → List Change → Prop
  | _, [] => True
  | .empty, change :: rest => change = .established ∧ Alternating .live rest
  | .live, change :: rest => change = .shutDown ∧ Alternating .empty rest

theorem runs_append {stage last : Stage} {order later : List Deed} {middle : Stage}
    (first : Runs stage order middle) (second : Runs middle later last) :
    Runs stage (order ++ later) last := by
  induction order generalizing stage with
  | nil =>
    cases first
    exact second
  | cons deed rest ih =>
    obtain ⟨before, does, further⟩ := first
    exact ⟨before, does, ih further⟩

/-- The deeds of the machine are a run of it. -/
theorem Serial.runs {start stage : Stage} {history : List (Mark Call.Answer)} {order : List Deed}
    {statuses : Nat → Status} (serial : Serial start history order statuses stage) :
    Runs start order stage := by
  induction serial with
  | start => rfl
  | calls before call idle ih => exact ih
  | effect before turn does ih => exact runs_append ih ⟨rfl, does, rfl⟩
  | gets before turn ih => exact ih

/-- In a run of the machine successful establishments and shutdowns of a pool alternate. -/
theorem alternating_of_runs {stage last : Stage} {order : List Deed}
    (runs : Runs stage order last) : Alternating stage (order.filterMap Deed.change?) := by
  induction order generalizing stage with
  | nil => exact trivial
  | cons deed rest ih =>
    obtain ⟨who, call, answer, before, after⟩ := deed
    obtain ⟨rfl, does, further⟩ := runs
    have others := ih further
    cases does with
    | establish good => exact ⟨rfl, others⟩
    | shutdown =>
      cases before with
      | empty => exact others
      | live => exact ⟨rfl, others⟩
    | _ => exact others

/-! ## The phases of a call -/

/-- Where a caller of a manager stands. -/
inductive Phase where
  | rest
  | called (call : Call)
  /-- The slot is locked for the caller, who has found something in it. -/
  | inside (wish : Wish) (found : Option PoolId)
  /-- The slot is locked for the caller, who has put a pool into it. -/
  | filled (wish : Wish)
  /-- The caller has read a pool, and wants a connection of it. -/
  | lending
  | settled (call : Call) (answer : call.Answer)

/-- Whether a caller has the slot locked. -/
def Phase.Inside : Phase → Prop
  | .inside _ _ | .filled _ => True
  | _ => False

/-- How requests lead from phase to phase. -/
inductive Moves : Phase → (request : Request) → request.Answer → Phase → Prop where
  | lock (wish : Wish) (found : Option PoolId) :
      Moves (.called (.establish wish)) .lock found (.inside wish found)
  | opens (wish : Wish) (found : Option PoolId) {request : Request} (opens : request.Opens)
      (answer : request.Answer) : Moves (.inside wish found) request answer (.inside wish found)
  | install {wish : Wish} (good : ¬ (wish.min = 0 ∨ wish.max < wish.min))
      (params : ConnectionParams) (max : Nat) (idle : List ConnectionId) (pool : PoolId) :
      Moves (.inside wish none) (.install params max idle) pool (.filled wish)
  | unlock (wish : Wish) : Moves (.filled wish) .unlock () (.settled (.establish wish) (.ok ()))
  | giveUp {wish : Wish} {found : Option PoolId} {failure : Failure}
      (fails : Fails wish.eager wish.min wish.max found failure) :
      Moves (.inside wish found) .unlock () (.settled (.establish wish) (.error failure))
  | missPool : Moves (.called .acquire) .current none (.settled .acquire (.error .notInitialized))
  | readPool (pool : PoolId) : Moves (.called .acquire) .current (some pool) .lending
  | checkOut (pool : PoolId) (reply : Except Database.Fault ConnectionId) :
      Moves .lending (.checkOut pool) reply (.settled .acquire (reply.mapError .database))
  | giveBack (connection : ConnectionId) :
      Moves (.called (.release connection)) (.giveBack connection) ()
        (.settled (.release connection) ())
  | take (found : Option PoolId) :
      Moves (.called .shutdown) .take found (.settled .shutdown ())
  | outstanding (pool : PoolId) (count : Nat) :
      Moves (.settled .shutdown ()) (.outstanding pool) count (.settled .shutdown ())
  | close (pool : PoolId) : Moves (.settled .shutdown ()) (.close pool) () (.settled .shutdown ())
  | closeLater (pool : PoolId) :
      Moves (.settled .shutdown ()) (.closeLater pool) () (.settled .shutdown ())
  | look (found : Option PoolId) :
      Moves (.called .isEstablished) .current found (.settled .isEstablished found.isSome)

/-- Any answer can be expected. -/
def protocol : Protocol Request.Answer where
  Phase := Phase
  Expects _ _ _ := True
  Moves := Moves

/-- Every call is carried out by the protocol. -/
def discipline : Discipline Call.program where
  toProtocol := protocol
  rest := .rest
  begins := .called
  Ends call phase answer := phase = .settled call answer
  follows call := by
    cases call with
    | establish wish =>
      exact follows_make protocol (Phase.inside wish) (fun _ => .filled wish) (.lock wish)
        (fun found _ opens answer => .opens wish found opens answer)
        (fun good params idle pool => .install good params wish.max idle pool)
        (fun _ => ⟨_, .unlock wish, rfl⟩) (fun _ _ fails => ⟨_, .giveUp fails, rfl⟩) wish.params
    | acquire =>
      intro found _
      cases found with
      | none => exact ⟨_, .missPool, rfl⟩
      | some pool => exact ⟨_, .readPool pool, fun reply _ => ⟨_, .checkOut pool reply, rfl⟩⟩
    | release connection => exact fun _ _ => ⟨_, .giveBack connection, rfl⟩
    | shutdown =>
      intro found _
      refine ⟨_, .take found, ?_⟩
      cases found with
      | none => rfl
      | some pool =>
        intro outstanding _
        refine ⟨_, .outstanding pool outstanding, ?_⟩
        show Follows protocol _ _ (retire pool outstanding)
        unfold retire
        split
        · exact fun _ _ => ⟨_, .close pool, rfl⟩
        · exact fun _ _ => ⟨_, .closeLater pool, rfl⟩
    | isEstablished => exact fun found _ => ⟨_, .look found, rfl⟩

/-! ## What the machine may have done -/

/-- Where a caller of the machine stands in a phase, if one who has read a pool is to be lent
something. -/
def Phase.status (lent : Except Database.Fault ConnectionId) : Phase → Status
  | .rest => .free
  | .called call => .called call
  | .inside wish _ => .called (.establish wish)
  | .filled wish => .effected (.establish wish) (.ok ())
  | .lending => .effected .acquire (lent.mapError .database)
  | .settled call answer => .effected call answer

/-- Where all callers stand, if some guess comes true about what they are lent. -/
def statuses (guess : Nat → Except Database.Fault ConnectionId) (phases : Nat → Phase) (who : Nat) :
    Status :=
  (phases who).status (guess who)

theorem statuses_update (guess : Nat → Except Database.Fault ConnectionId) (phases : Nat → Phase)
    (who : Nat) (phase : Phase) :
    statuses guess (update phases who phase) =
      update (statuses guess phases) who (phase.status (guess who)) := by
  funext other
  by_cases same : other = who
  · rw [same, statuses, update_self, update_self]
  · rw [statuses, update_of_ne same, update_of_ne same, statuses]

/-- A guess that comes true. -/
theorem statuses_guessed {guess : Nat → Except Database.Fault ConnectionId} {phases : Nat → Phase}
    {who : Nat} {lent : Except Database.Fault ConnectionId} (turn : phases who = .lending) :
    statuses (update guess who lent) phases =
      statuses guess (update phases who (.settled .acquire (lent.mapError .database))) := by
  funext other
  by_cases same : other = who
  · rw [same, statuses, statuses, update_self, update_self, turn]
    rfl
  · rw [statuses, statuses, update_of_ne same, update_of_ne same]

/-- What was seen of the callers can be seen of callers of the machine, in the state that the slot
shows, and whatever the callers who have read a pool will be lent. -/
structure Coherent (start : Stage) (history : List (Mark Call.Answer)) (world : World)
    (phases : Nat → Phase) : Prop where
  guarded : Guarded world.locked fun who => (phases who).Inside
  found : ∀ {who wish found}, phases who = .inside wish found → world.slot = found
  serial : ∀ guess, ∃ order,
    Serial start history order (statuses guess phases) (Stage.ofSlot world.slot)

section

variable {start : Stage} {history later : List (Mark Call.Answer)} {world after : World}
  {phases : Nat → Phase} {who : Nat} {phase : Phase}

theorem found_update {slot : Option PoolId}
    (others : ∀ {other wish found}, other ≠ who → phases other = .inside wish found → slot = found)
    (own : ∀ {wish found}, phase = .inside wish found → slot = found) {other : Nat} {wish : Wish}
    {found : Option PoolId} (inside : update phases who phase other = .inside wish found) :
    slot = found := by
  by_cases same : other = who
  · rw [same, update_self] at inside
    exact own inside
  · rw [update_of_ne same] at inside
    exact others same inside

/-- A call takes effect. -/
theorem Coherent.effect (coherent : Coherent start history world phases) {call : Call}
    (turn : ∀ lent, (phases who).status lent = .called call)
    (does : ∀ lent, ∃ answer, phase.status lent = .effected call answer ∧
      (Stage.ofSlot world.slot).Does call answer (Stage.ofSlot after.slot)) :
    ∀ guess, ∃ order, Serial start history order (statuses guess (update phases who phase))
      (Stage.ofSlot after.slot) := by
  intro guess
  obtain ⟨order, serial⟩ := coherent.serial guess
  obtain ⟨answer, status, does⟩ := does (guess who)
  rw [statuses_update, status]
  exact ⟨_, serial.effect (turn (guess who)) does⟩

/-- Nothing takes effect. -/
theorem Coherent.silent (coherent : Coherent start history world phases)
    (slot : after.slot = world.slot) (same : ∀ lent, phase.status lent = (phases who).status lent) :
    ∀ guess, ∃ order, Serial start history order (statuses guess (update phases who phase))
      (Stage.ofSlot after.slot) := by
  intro guess
  have unchanged : update (statuses guess phases) who ((phases who).status (guess who)) =
      statuses guess phases := update_eq_self who (statuses guess phases)
  rw [statuses_update, same, slot, unchanged]
  exact coherent.serial guess

/-- A caller who does not have the slot locked, before and after, does not change what it holds. -/
theorem Coherent.outside (coherent : Coherent start history world phases)
    (drift : World.Drift world after) (before : ¬ (phases who).Inside) (out : ¬ phase.Inside)
    (serial : ∀ guess, ∃ order, Serial start later order
      (statuses guess (update phases who phase)) (Stage.ofSlot after.slot)) :
    Coherent start later after (update phases who phase) := by
  refine ⟨?_, ?_, serial⟩
  · rw [drift.locked]
    exact coherent.guarded.stay (iff_of_false out before)
  · rw [drift.slot]
    refine found_update (fun _ other => coherent.found other) fun same => ?_
    rw [same] at out
    exact absurd trivial out

/-- A request that has nothing to do with the slot, and leads nowhere. -/
theorem Coherent.aside (coherent : Coherent start history world phases)
    (drift : World.Drift world after) : Coherent start history after phases where
  guarded := drift.locked ▸ coherent.guarded
  found inside := drift.slot.trans (coherent.found inside)
  serial := drift.slot ▸ coherent.serial

theorem Fails.does {wish : Wish} {found : Option PoolId} {failure : Failure}
    (fails : Fails wish.eager wish.min wish.max found failure) :
    (Stage.ofSlot found).Does (.establish wish) (.error failure) (Stage.ofSlot found) := by
  cases fails with
  | already pool => exact .establishLive wish
  | bounds bad => exact .establishBounds bad
  | fault good opening fault => exact .establishFault good opening fault

/-- A request that has nothing to do with the slot, and leads to where its caller is. -/
theorem Coherent.linger (coherent : Coherent start history world phases) (turn : phases who = phase)
    {request : Request} {answer : request.Answer}
    (answered : World.perform request world = some (answer, after)) (aside : request.Aside) :
    Coherent start history after (update phases who phase) := by
  rw [← turn, update_eq_self]
  exact coherent.aside (World.drift_perform answered aside)

/-- A call takes effect that changes nothing about the slot. -/
theorem Coherent.observe (coherent : Coherent start history world phases)
    (drift : World.Drift world after) {call : Call} (turn : phases who = .called call)
    (out : ¬ phase.Inside)
    (does : ∀ lent, ∃ answer, phase.status lent = .effected call answer ∧
      (Stage.ofSlot world.slot).Does call answer (Stage.ofSlot world.slot)) :
    Coherent start history after (update phases who phase) := by
  refine coherent.outside drift (by rw [turn]; exact id) out ?_
  refine coherent.effect (fun lent => by rw [turn]; rfl) ?_
  rw [drift.slot]
  exact does

theorem Coherent.enter (coherent : Coherent start history world phases) {wish : Wish}
    {found : Option PoolId} (turn : phases who = .called (.establish wish))
    (answered : World.perform .lock world = some (found, after)) :
    Coherent start history after (update phases who (.inside wish found)) := by
  obtain ⟨unlocked, rfl, rfl⟩ := World.perform_lock answered
  have guarded := coherent.guarded
  rw [unlocked] at guarded
  refine ⟨guarded.enter trivial, ?_, coherent.silent rfl fun lent => by rw [turn]; rfl⟩
  refine found_update (fun _ inside => coherent.found inside) fun same => ?_
  cases same
  rfl

theorem Coherent.install (coherent : Coherent start history world phases) {wish : Wish}
    (turn : phases who = .inside wish none) (good : ¬ (wish.min = 0 ∨ wish.max < wish.min))
    (params : ConnectionParams) (max : Nat) (idle : List ConnectionId) :
    Coherent start history (world.install params max idle) (update phases who (.filled wish)) := by
  have empty := coherent.found turn
  have inside : (phases who).Inside := by rw [turn]; exact trivial
  refine ⟨coherent.guarded.stay (iff_of_true trivial inside), ?_, ?_⟩
  · refine found_update (fun different other => ?_) (by nofun)
    exact absurd (coherent.guarded.alone (by rw [other]; exact trivial) inside) different
  · refine coherent.effect (fun lent => by rw [turn]; rfl) fun lent => ⟨_, rfl, ?_⟩
    rw [empty]
    exact .establish good

/-- The caller who has the slot locked unlocks it. -/
theorem Coherent.leave (coherent : Coherent start history world phases)
    (inside : (phases who).Inside) (out : ¬ phase.Inside)
    (serial : ∀ guess, ∃ order, Serial start history order
      (statuses guess (update phases who phase)) (Stage.ofSlot world.slot)) :
    Coherent start history { world with locked := false } (update phases who phase) := by
  refine ⟨coherent.guarded.leave inside out, ?_, serial⟩
  refine found_update (fun _ other => coherent.found other) fun same => ?_
  rw [same] at out
  exact absurd trivial out

theorem Coherent.unlock (coherent : Coherent start history world phases) {wish : Wish}
    (turn : phases who = .filled wish) :
    Coherent start history { world with locked := false }
      (update phases who (.settled (.establish wish) (.ok ()))) := by
  refine coherent.leave (by rw [turn]; exact trivial) id ?_
  exact coherent.silent rfl fun lent => by rw [turn]; rfl

theorem Coherent.giveUp (coherent : Coherent start history world phases) {wish : Wish}
    {found : Option PoolId} {failure : Failure} (turn : phases who = .inside wish found)
    (fails : Fails wish.eager wish.min wish.max found failure) :
    Coherent start history { world with locked := false }
      (update phases who (.settled (.establish wish) (.error failure))) := by
  refine coherent.leave (by rw [turn]; exact trivial) id ?_
  refine coherent.effect (fun lent => by rw [turn]; rfl) fun lent => ⟨_, rfl, ?_⟩
  rw [coherent.found turn]
  exact fails.does

/-- Whatever was guessed about a caller who has read a pool, what it is lent might have been
guessed. -/
theorem Coherent.lend (coherent : Coherent start history world phases)
    (drift : World.Drift world after) (turn : phases who = .lending)
    (reply : Except Database.Fault ConnectionId) :
    Coherent start history after
      (update phases who (.settled .acquire (reply.mapError .database))) := by
  refine coherent.outside drift (by rw [turn]; exact id) id fun guess => ?_
  obtain ⟨order, serial⟩ := coherent.serial (update guess who reply)
  rw [statuses_guessed turn] at serial
  rw [drift.slot]
  exact ⟨order, serial⟩

theorem Coherent.take (coherent : Coherent start history world phases) {found : Option PoolId}
    (turn : phases who = .called .shutdown)
    (answered : World.perform .take world = some (found, after)) :
    Coherent start history after (update phases who (.settled .shutdown ())) := by
  obtain ⟨unlocked, rfl, rfl⟩ := World.perform_take answered
  have guarded := coherent.guarded
  rw [unlocked] at guarded
  refine ⟨coherent.guarded.stay (iff_of_false id (guarded.outside who)), ?_, ?_⟩
  · refine found_update (fun {other _ _} _ inside => ?_) (by nofun)
    exact absurd (by rw [inside]; exact trivial) (guarded.outside other)
  · exact coherent.effect (fun lent => by rw [turn]; rfl) fun lent => ⟨_, rfl, .shutdown _⟩

/-- Every move keeps the machine up with the callers. -/
theorem Coherent.move (coherent : Coherent start history world phases) {request : Request}
    {answer : request.Answer} (answered : World.perform request world = some (answer, after))
    (moves : Moves (phases who) request answer phase) :
    Coherent start history after (update phases who phase) := by
  generalize turn : phases who = before at moves
  cases moves with
  | lock wish found => exact coherent.enter turn answered
  | opens wish found opens answer => exact coherent.linger turn answered opens.aside
  | install good params max idle pool =>
    cases answered
    exact coherent.install turn good params max idle
  | unlock wish =>
    cases answered
    exact coherent.unlock turn
  | giveUp fails =>
    cases answered
    exact coherent.giveUp turn fails
  | missPool =>
    obtain ⟨unlocked, empty, rfl⟩ := World.perform_current answered
    refine coherent.observe (.refl after) turn id fun lent => ⟨_, rfl, ?_⟩
    rw [← empty]
    exact .acquireEmpty
  | readPool pool =>
    obtain ⟨unlocked, live, rfl⟩ := World.perform_current answered
    refine coherent.observe (.refl after) turn id fun lent => ⟨_, rfl, ?_⟩
    rw [← live]
    exact .acquireLive lent
  | checkOut pool reply => exact coherent.lend (World.drift_perform answered trivial) turn reply
  | giveBack connection =>
    have drift := World.drift_perform answered trivial
    exact coherent.observe drift turn id fun lent => ⟨_, rfl, .release _ connection⟩
  | take found => exact coherent.take turn answered
  | outstanding pool count => exact coherent.linger turn answered trivial
  | close pool => exact coherent.linger turn answered trivial
  | closeLater pool => exact coherent.linger turn answered trivial
  | look found =>
    obtain ⟨unlocked, rfl, rfl⟩ := World.perform_current answered
    refine coherent.observe (.refl after) turn id fun lent => ⟨_, rfl, ?_⟩
    cases after.slot with
    | none => exact .isEstablishedEmpty
    | some pool => exact .isEstablishedLive

theorem Coherent.call (coherent : Coherent start history world phases) (free : phases who = .rest)
    (call : Call) :
    Coherent start (history ++ [.calls who call]) world (update phases who (.called call)) := by
  refine coherent.outside (.refl world) (by rw [free]; exact id) id fun guess => ?_
  obtain ⟨order, serial⟩ := coherent.serial guess
  rw [statuses_update]
  exact ⟨order, serial.calls call (by rw [statuses, free]; rfl)⟩

theorem Coherent.get (coherent : Coherent start history world phases) {call : Call}
    {answer : call.Answer} (ended : phases who = .settled call answer) :
    Coherent start (history ++ [.gets who call answer]) world (update phases who .rest) := by
  refine coherent.outside (.refl world) (by rw [ended]; exact id) id fun guess => ?_
  obtain ⟨order, serial⟩ := coherent.serial guess
  rw [statuses_update]
  exact ⟨order, serial.gets (by rw [statuses, ended]; rfl)⟩

end

theorem coherent_start {world : World} (unlocked : world.locked = false) :
    Coherent (Stage.ofSlot world.slot) [] world fun _ => .rest := by
  refine ⟨?_, nofun, fun guess => ⟨[], .start⟩⟩
  rw [unlocked]
  exact .unlocked fun _ => id

theorem upholds_coherent {world : World} (unlocked : world.locked = false) :
    Upholds discipline world (Coherent (Stage.ofSlot world.slot)) fun _ _ _ => True where
  start := coherent_start unlocked
  begins _ := trivial
  calls coherent free call := coherent.call free call
  expects _ _ := trivial
  moves coherent answered moves := coherent.move answered moves
  allows _ _ := trivial
  gets coherent ended := coherent.get ended
  drifts coherent drift := coherent.aside drift

/-- However the calls of any callers are interleaved, with whatever answers of the server: they are
answered as by the machine, which does one of them at a time, and ends in the state that the slot
shows; and on the machine successful establishments and shutdowns of a pool alternate. -/
theorem serial_of_unfolds {world : World} (unlocked : world.locked = false)
    {history : List (Mark Call.Answer)} {scene : Scene Call.Answer}
    (unfolds : Unfolds Call.program world history scene) :
    ∃ order statuses,
      Serial (Stage.ofSlot world.slot) history order statuses (Stage.ofSlot scene.world.slot) ∧
      Runs (Stage.ofSlot world.slot) order (Stage.ofSlot scene.world.slot) ∧
      Alternating (Stage.ofSlot world.slot) (order.filterMap Deed.change?) := by
  obtain ⟨phases, coherent, -⟩ := (upholds_coherent unlocked).invariant unfolds
  obtain ⟨order, serial⟩ := coherent.serial fun _ => .error .poolClosed
  exact ⟨order, _, serial, serial.runs, alternating_of_runs serial.runs⟩

/-- Two callers want a pool at once, and a third a connection. -/
def race : List (Turn Call) :=
  let wish : Wish := { eager := false, min := 1, max := 1, params := ⟨"h", 5432, "u", "", "d"⟩ }
  [.call 0 (.establish wish), .call 1 (.establish wish), .call 2 .acquire, .step 1, .step 1,
    .step 1, .step 0, .step 1, .step 0, .step 2, .step 2, .step 0, .step 2]

theorem serial_of_race :
    ∃ history scene,
      race.foldlM (Scene.play Call.program) ([], .opening .obliging) = some (history, scene) ∧
      ∃ order statuses,
        Serial .empty history order statuses (Stage.ofSlot scene.world.slot) ∧
        Runs .empty order (Stage.ofSlot scene.world.slot) ∧
        Alternating .empty (order.filterMap Deed.change?) := by
  have plays : (race.foldlM (Scene.play Call.program) ([], .opening .obliging)).isSome := by
    decide +kernel
  obtain ⟨⟨history, scene⟩, played⟩ := Option.isSome_iff_exists.mp plays
  have unfolds : Unfolds Call.program .obliging history scene := unfolds_plays race .start played
  exact ⟨history, scene, played, serial_of_unfolds rfl unfolds⟩

end Seedbed.PoolManager
