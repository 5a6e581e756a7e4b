import Seedbed.Proofs.Pool.Hall
import Seedbed.Proofs.Pool.Hands

/-!
# Generations of pools

Pools that were shut down may still have connections out while a new one is in the slot. Whatever
any callers do, in whatever order, connections stay with the pool that has lent them
(`kept_of_reaches`): nobody holds what another holds, no pool has more out than it may have, what is
given back to a pool that was shut down comes to no other pool, and whoever begins to acquire after
a shutdown gets nothing of the pool that was shut down. This rests on two conditions that every step
keeps, one on what is on record about the slot (`Recorded`), the other on the places of all
connections and on the hands that they are in (`Orderly`).
-/

namespace Seedbed.PoolManager

open Program Function

/-! ## What is on record -/

/-- Whether the slot and the pools are as what was asked tells: a pool that was taken out of the
slot is in it no more, and each pool was made for someone who wished for it. -/
structure Recorded (asked : List Asked) (world : World) : Prop where
  slot : ∀ {pool}, world.slot = some pool → pool < world.pools.length
  taken : ∀ {call pool}, ⟨call, .take, some pool⟩ ∈ asked →
    pool < world.pools.length ∧ world.slot ≠ some pool
  made : ∀ {pool state}, world.pool? pool = some state →
    ∃ wish idle, ⟨.establish wish, .install wish.params wish.max idle, pool⟩ ∈ asked ∧
      state.max = wish.max

namespace Recorded

variable {asked : List Asked} {world after : World} {call : Call} {request : Request}
  {answer : request.Answer}

/-- The slot and the pools stay as they are. -/
theorem still (recorded : Recorded asked world) (slot : after.slot = world.slot)
    (bounds : after.pools.map Pool.max = world.pools.map Pool.max) : Recorded asked after := by
  have made : after.pools.length = world.pools.length := by
    simpa using congrArg List.length bounds
  refine ⟨fun inside => ?_, fun taken => ?_, fun {pool state} there => ?_⟩
  · rw [made]
    exact recorded.slot (slot ▸ inside)
  · rw [made, slot]
    exact recorded.taken taken
  · have same : (after.pool? pool).map Pool.max = (world.pool? pool).map Pool.max := by
      rw [World.pool?, World.pool?, ← List.getElem?_map, bounds, List.getElem?_map]
    rw [there] at same
    obtain ⟨earlier, before, max⟩ := Option.map_eq_some_iff.mp same.symm
    obtain ⟨wish, idle, installed, most⟩ := recorded.made before
    exact ⟨wish, idle, installed, max.symm.trans most⟩

/-- Something is asked that takes no pool out of the slot. -/
theorem note (recorded : Recorded asked world) (other : request ≠ .take) :
    Recorded (asked ++ [⟨call, request, answer⟩]) world where
  slot := recorded.slot
  taken taken := by
    rcases List.mem_append.mp taken with before | new
    · exact recorded.taken before
    · exact absurd (congrArg (·.done.request) (List.mem_singleton.mp new)).symm other
  made there := by
    obtain ⟨wish, idle, installed, most⟩ := recorded.made there
    exact ⟨wish, idle, List.mem_append_left _ installed, most⟩

theorem take (recorded : Recorded asked world) {found : Option PoolId}
    (slot : found = world.slot) :
    Recorded (asked ++ [⟨call, .take, found⟩]) { world with slot := none } where
  slot := nofun
  taken taken := by
    refine ⟨?_, nofun⟩
    rcases List.mem_append.mp taken with before | new
    · exact (recorded.taken before).1
    · cases List.mem_singleton.mp new
      exact recorded.slot slot.symm
  made there := by
    obtain ⟨wish, idle, installed, most⟩ := recorded.made there
    exact ⟨wish, idle, List.mem_append_left _ installed, most⟩

/-- A pool that was wished for is put into the slot. -/
theorem install (recorded : Recorded asked world) (wish : Wish) (idle : List ConnectionId) :
    Recorded
      (asked ++ [⟨.establish wish, .install wish.params wish.max idle, world.pools.length⟩])
      (world.install wish.params wish.max idle) := by
  have longer : (world.install wish.params wish.max idle).pools.length =
      world.pools.length + 1 := List.length_append ..
  refine ⟨fun inside => ?_, fun taken => ?_, fun {pool state} there => ?_⟩
  · cases inside
    rw [longer]
    exact Nat.lt_succ_self _
  · rcases List.mem_append.mp taken with before | new
    · have earlier := (recorded.taken before).1
      rw [longer]
      exact ⟨Nat.lt_succ_of_lt earlier, fun same => Nat.ne_of_gt earlier (Option.some.inj same)⟩
    · cases List.mem_singleton.mp new
  · rw [World.pool?_install] at there
    split at there
    · rename_i same
      cases there
      rw [same]
      exact ⟨wish, idle, List.mem_append_right _ List.mem_cons_self, rfl⟩
    · obtain ⟨earlier, connections, installed, most⟩ := recorded.made there
      exact ⟨earlier, connections, List.mem_append_left _ installed, most⟩

/-- Whatever a caller asks. -/
theorem ask {stance later : Stance} {past : List Request.Done} (recorded : Recorded asked world)
    (answered : World.perform request world = some (answer, after))
    (moves : stance.Moves request answer later) (before : stance.Past call past) :
    Recorded (asked ++ [⟨call, request, answer⟩]) after := by
  have along (other : request ≠ .take) (slot : after.slot = world.slot)
      (bounds : after.pools.map Pool.max = world.pools.map Pool.max) :
      Recorded (asked ++ [⟨call, request, answer⟩]) after := (recorded.note other).still slot bounds
  have aside (aside : request.Aside) (other : request ≠ .take) :
      Recorded (asked ++ [⟨call, request, answer⟩]) after :=
    have steady := World.steady_perform answered aside
    along other steady.slot steady.bounds
  cases moves with
  | lock wish found =>
    obtain ⟨-, -, rfl⟩ := World.perform_lock answered
    exact along nofun rfl rfl
  | unlock | giveUp =>
    cases answered
    exact along nofun rfl rfl
  | miss | read | look =>
    obtain ⟨-, -, rfl⟩ := World.perform_current answered
    exact along nofun rfl rfl
  | take found =>
    obtain ⟨-, slot, rfl⟩ := World.perform_take answered
    exact recorded.take slot
  | @install wish opened idle own few pool =>
    cases answered
    cases before
    exact recorded.install wish idle
  | opens | fails | abandon | borrow | refuse | giveBack | outstanding | close | closeLater =>
    exact aside trivial nofun

end Recorded

/-! ## What is kept -/

/-- The connections in the hands of each caller, be it in the middle of a call or not. -/
def hands (stances : Nat → Stance) (held : Nat → List ConnectionId) (who : Nat) :
    List ConnectionId :=
  (stances who).hand ++ held who

theorem hands_update (stances : Nat → Stance) (held : Nat → List ConnectionId) (who : Nat)
    (stance : Stance) (connections : List ConnectionId) :
    hands (update stances who stance) (update held who connections) =
      update (hands stances held) who (stance.hand ++ connections) := by
  funext other
  by_cases same : other = who
  · rw [same, hands, update_self, update_self, update_self]
  · rw [hands, update_of_ne same, update_of_ne same, update_of_ne same, hands]

theorem hands_move (stances : Nat → Stance) (held : Nat → List ConnectionId) (who : Nat)
    (stance : Stance) :
    hands (update stances who stance) held =
      update (hands stances held) who (stance.hand ++ held who) := by
  have same := hands_update stances held who stance (held who)
  rwa [update_eq_self] at same

theorem hands_hold (stances : Nat → Stance) (held : Nat → List ConnectionId) (who : Nat)
    (connections : List ConnectionId) :
    hands stances (update held who connections) =
      update (hands stances held) who ((stances who).hand ++ connections) := by
  have same := hands_update stances held who (stances who) connections
  rwa [update_eq_self] at same

/-- The connections that each caller has opened for a pool. -/
def opened (stances : Nat → Stance) (who : Nat) : List ConnectionId := (stances who).opened

theorem opened_update (stances : Nat → Stance) (who : Nat) (stance : Stance) :
    opened (update stances who stance) = update (opened stances) who stance.opened :=
  funext fun other => apply_update (fun _ => Stance.opened) stances who stance other

/-- Whether everything is in order in a world, if callers take some stances and hold some
connections. -/
structure Orderly (world : World) (stances : Nat → Stance) (held : Nat → List ConnectionId) :
    Prop where
  sorted : world.Sorted (opened stances)
  held : world.Held (hands stances held)
  lent : ∀ {who pool connection}, stances who = .lent pool connection → world.Lent pool connection

namespace Orderly

variable {world after : World} {stances : Nat → Stance} {held : Nat → List ConnectionId}
  {who : Nat} {later : Stance}

theorem lent_update {pool : PoolId} {connection : ConnectionId}
    (others : ∀ {other pool connection}, other ≠ who → stances other = .lent pool connection →
      after.Lent pool connection)
    (own : ∀ {pool connection}, later = .lent pool connection → after.Lent pool connection)
    {other : Nat} (lent : update stances who later other = .lent pool connection) :
    after.Lent pool connection := by
  by_cases same : other = who
  · rw [same, update_self] at lent
    exact own lent
  · rw [update_of_ne same] at lent
    exact others same lent

/-- A caller goes on, and has no more in hand than before. -/
theorem still (orderly : Orderly world stances held) {connections : List ConnectionId}
    (sorted : after.Sorted (update (opened stances) who later.opened))
    (keeps : ∀ {pool connection}, world.Lent pool connection → after.Lent pool connection)
    (nodup : (later.hand ++ connections).Nodup)
    (own : ∀ connection ∈ later.hand ++ connections, connection ∈ hands stances held who)
    (waits : ∀ pool connection, later ≠ .lent pool connection) :
    Orderly after (update stances who later) (update held who connections) where
  sorted := opened_update stances who later ▸ sorted
  held := hands_update stances held who later connections ▸
    (orderly.held.keep keeps).regroup nodup own
  lent := lent_update (fun _ lent => keeps (orderly.lent lent)) fun same =>
    absurd same (waits _ _)

/-- A caller asks something that moves no connection to anyone. -/
theorem along (orderly : Orderly world stances held)
    (sorted : after.Sorted (update (opened stances) who later.opened))
    (keeps : ∀ {pool connection}, world.Lent pool connection → after.Lent pool connection)
    (fewer : later.hand.Sublist (stances who).hand)
    (waits : ∀ pool connection, later ≠ .lent pool connection) :
    Orderly after (update stances who later) held := by
  have within : (later.hand ++ held who).Sublist (hands stances held who) :=
    fewer.append_right (held who)
  have same := orderly.still sorted keeps ((orderly.held.parted.nodup who).sublist within)
    (fun _ inside => within.subset inside) waits
  rwa [update_eq_self] at same

/-- A caller asks something that moves no connection at all. -/
theorem idly (orderly : Orderly world stances held) (pools : after.pools = world.pools)
    (longer : world.server.opened ≤ after.server.opened)
    (none : later.opened.Sublist (stances who).opened)
    (fewer : later.hand.Sublist (stances who).hand)
    (waits : ∀ pool connection, later ≠ .lent pool connection) :
    Orderly after (update stances who later) held := by
  refine orderly.along ((orderly.sorted.congr pools longer).forget none) (fun lent => ?_) fewer waits
  obtain ⟨state, made, out⟩ := lent
  exact ⟨state, by rw [World.pool?, pools]; exact made, out⟩

/-- A caller asks something that moves no connection, and has to do with none afterwards. -/
theorem quits (orderly : Orderly world stances held) (pools : after.pools = world.pools)
    (longer : world.server.opened ≤ after.server.opened) (none : later.opened = [])
    (empty : later.hand = []) : Orderly after (update stances who later) held := by
  refine orderly.idly pools longer (none ▸ List.nil_sublist _) (empty ▸ List.nil_sublist _) ?_
  rintro pool connection rfl
  cases empty

section

variable {wish : Wish} {own : List ConnectionId} {pool : PoolId} {connection : ConnectionId}

theorem opens (orderly : Orderly world stances held) (turn : stances who = .opening wish own)
    {params : ConnectionParams}
    (answered : World.perform (.connect params) world = some (.ok connection, after)) :
    Orderly after (update stances who (.opening wish (own ++ [connection]))) held := by
  obtain ⟨connects, same⟩ := World.connects_of_perform answered
  obtain ⟨sorted, loose⟩ := orderly.sorted.connects connects
  have more := @World.Sorted.hold _ _ _ who sorted (loose connection rfl)
  rw [show opened stances who = own from congrArg Stance.opened turn] at more
  rw [same]
  exact orderly.along more id (List.nil_sublist _) nofun

theorem fails (orderly : Orderly world stances held) (turn : stances who = .opening wish own)
    {params : ConnectionParams} {fault : Database.Fault}
    (answered : World.perform (.connect params) world = some (.error fault, after)) :
    Orderly after (update stances who (.opening wish own)) held := by
  obtain ⟨connects, same⟩ := World.connects_of_perform answered
  have sorted := (orderly.sorted.connects connects).1
  rw [same]
  refine orderly.along ?_ id (List.nil_sublist _) nofun
  rwa [show (Stance.opening wish own).opened = opened stances who from
    (congrArg Stance.opened turn).symm, update_eq_self]

theorem abandon (orderly : Orderly world stances held) (turn : stances who = .opening wish own) :
    Orderly (world.disconnect [connection]) (update stances who (.opening wish own)) held := by
  refine orderly.idly rfl (Nat.le_of_eq (Database.Server.opened_disconnects _).symm) ?_
    (List.nil_sublist _) nofun
  rw [turn]

theorem install (orderly : Orderly world stances held) (turn : stances who = .opening wish own)
    {idle : List ConnectionId} (theirs : idle.Sublist own) (few : idle.length ≤ wish.max) :
    Orderly (world.install wish.params wish.max idle) (update stances who .filled) held := by
  rw [show own = opened stances who from (congrArg Stance.opened turn).symm] at theirs
  exact orderly.along (orderly.sorted.install theirs few) (World.lent_install world _ _ _)
    (List.nil_sublist _) nofun

theorem refuse (orderly : Orderly world stances held) {fault : Database.Fault}
    (answered : World.perform (.checkOut pool) world = some (.error fault, after)) :
    Orderly after (update stances who .over) held := by
  have loan := (World.lends_of_checkOut answered).loan orderly.sorted
  exact orderly.along (loan.sorted.forget (List.nil_sublist _)) loan.keeps (List.nil_sublist _) nofun

theorem borrow (orderly : Orderly world stances held) (turn : stances who = .lending pool)
    (answered : World.perform (.checkOut pool) world = some (.ok connection, after)) :
    Orderly after (update stances who (.lent pool connection)) held := by
  have loan := (World.lends_of_checkOut answered).loan orderly.sorted
  have before : hands stances held who = held who := congrArg (·.hand ++ held who) turn
  refine ⟨?_, ?_, lent_update (fun _ lent => loan.keeps (orderly.lent lent)) fun same => ?_⟩
  · rw [opened_update]
    exact loan.sorted.forget (List.nil_sublist _)
  · rw [hands_move]
    show after.Held (update (hands stances held) who (connection :: held who))
    rw [← before]
    exact orderly.held.loan loan
  · cases same
    exact (loan.gives rfl).1

theorem giveBack (orderly : Orderly world stances held)
    (turn : stances who = .called (.release connection)) :
    Orderly (world.giveBack connection) (update stances who .over) held := by
  have before : hands stances held who = connection :: held who :=
    congrArg (·.hand ++ held who) turn
  have inside : connection ∈ hands stances held who := before ▸ List.mem_cons_self
  obtain ⟨pool, lent⟩ := orderly.held.lent who connection inside
  have takes := World.takesBack_giveBack (orderly.sorted.lender lent)
  refine ⟨?_, ?_, lent_update (fun {other pool borrowed} different lent => ?_) (by nofun)⟩
  · rw [opened_update]
    exact (takes.sorted orderly.sorted lent).forget (List.nil_sublist _)
  · have fewer := orderly.held.giveBack inside takes
    rw [before, List.erase_cons_head] at fewer
    rw [hands_move]
    exact fewer
  · -- Another caller does not have the same connection in hand.
    have theirs : borrowed ∈ hands stances held other := by
      rw [hands, lent]
      exact List.mem_cons_self
    refine takes.keeps (fun same => different ?_) (orderly.lent lent)
    exact orderly.held.parted.alone theirs (same ▸ inside)

theorem close (orderly : Orderly world stances held) :
    Orderly (world.close pool) (update stances who .over) held := by
  refine orderly.along ((orderly.sorted.close pool).forget (List.nil_sublist _)) (fun lent => ?_)
    (List.nil_sublist _) nofun
  exact World.Lent.modifyPool_idle lent fun _ => rfl

end

/-- Every move keeps everything in order. -/
theorem ask (orderly : Orderly world stances held) {request : Request} {answer : request.Answer}
    (answered : World.perform request world = some (answer, after))
    (moves : (stances who).Moves request answer later) :
    Orderly after (update stances who later) held := by
  -- The stance before the move gets a name, so that the cases of the move can decide what it is.
  generalize turn : stances who = before at moves
  cases moves with
  | lock wish found =>
    obtain ⟨-, -, rfl⟩ := World.perform_lock answered
    exact orderly.quits rfl (Nat.le_refl _) rfl rfl
  | opens wish own params connection => exact orderly.opens turn answered
  | fails wish own params fault => exact orderly.fails turn answered
  | abandon wish own connection =>
    cases answered
    exact orderly.abandon turn
  | install own few pool =>
    cases answered
    exact orderly.install turn own few
  | unlock | giveUp | outstanding | closeLater =>
    cases answered
    exact orderly.quits rfl (Nat.le_refl _) rfl rfl
  | miss | read | look =>
    obtain ⟨-, -, rfl⟩ := World.perform_current answered
    exact orderly.quits rfl (Nat.le_refl _) rfl rfl
  | take found =>
    obtain ⟨-, -, rfl⟩ := World.perform_take answered
    exact orderly.quits rfl (Nat.le_refl _) rfl rfl
  | refuse pool fault => exact orderly.refuse answered
  | borrow pool connection => exact orderly.borrow turn answered
  | giveBack connection =>
    cases answered
    exact orderly.giveBack turn
  | close pool =>
    cases answered
    exact orderly.close

theorem call (orderly : Orderly world stances held) (free : stances who = .rest) (call : Call)
    (owns : ∀ connection ∈ call.takes, connection ∈ held who) :
    Orderly world (update stances who (.called call))
      (update held who ((held who).diff call.takes)) := by
  have same : hands stances held who = held who := congrArg (·.hand ++ held who) free
  have regrouped : ((Stance.called call).hand ++ (held who).diff call.takes).Perm (held who) := by
    cases call with
    | release connection =>
      show (connection :: (held who).diff [connection]).Perm (held who)
      rw [List.diff_cons, List.diff_nil]
      exact (List.perm_cons_erase (owns connection (List.mem_singleton.mpr rfl))).symm
    | establish | acquire | shutdown | isEstablished => exact .refl _
  have nodup := orderly.held.parted.nodup who
  rw [same] at nodup
  refine orderly.still (orderly.sorted.forget (List.nil_sublist _)) id
    (regrouped.nodup_iff.mpr nodup) (fun connection inside => ?_) nofun
  rw [same]
  exact regrouped.mem_iff.mp inside

theorem get (orderly : Orderly world stances held) {call : Call} {answer : call.Answer}
    (brings : ∀ connection ∈ call.brings answer, ∃ pool, stances who = .lent pool connection) :
    Orderly world (update stances who .rest)
      (update held who (call.brings answer ++ held who)) := by
  have brought : (call.brings answer).Sublist (stances who).hand := by
    unfold Call.brings at brings ⊢
    split
    · obtain ⟨pool, lent⟩ := brings _ (List.mem_singleton.mpr rfl)
      rw [lent]
      exact .refl _
    · exact List.nil_sublist _
  have within : (call.brings answer ++ held who).Sublist (hands stances held who) :=
    brought.append_right (held who)
  exact orderly.still (orderly.sorted.forget (List.nil_sublist _)) id
    ((orderly.held.parted.nodup who).sublist within) (fun _ inside => within.subset inside) nofun

theorem pass (orderly : Orderly world stances held) {giver taker : Nat}
    {connection : ConnectionId} (owns : connection ∈ held giver) (different : giver ≠ taker) :
    Orderly world stances (update (update held giver ((held giver).erase connection)) taker
      (connection :: held taker)) := by
  have inside : connection ∈ hands stances held giver := List.mem_append_right _ owns
  obtain ⟨pool, lent⟩ := orderly.held.lent giver connection inside
  have nodup := orderly.held.parted.nodup giver
  have once : connection ∉ (stances giver).hand ++ (held giver).erase connection := by
    have outside : connection ∉ (stances giver).hand :=
      fun there => List.disjoint_of_nodup_append nodup there owns
    rw [← List.erase_append_right _ outside]
    exact nodup.not_mem_erase
  have fewer : ((stances giver).hand ++ (held giver).erase connection).Sublist
      (hands stances held giver) := List.erase_sublist.append_left _
  have released := orderly.held.release fewer
  refine ⟨orderly.sorted, ?_, orderly.lent⟩
  rw [hands_hold, hands_hold]
  refine released.receive lent (orderly.held.parted.gone inside once) ?_
  rw [update_of_ne different.symm]
  exact List.perm_middle

theorem drift (orderly : Orderly world stances held) (sorted : after.Sorted (opened stances))
    (keeps : ∀ {pool connection}, world.Lent pool connection → after.Lent pool connection) :
    Orderly after stances held where
  sorted := sorted
  held := orderly.held.keep keeps
  lent lent := keeps (orderly.lent lent)

end Orderly

/-- Whether a caller is where a stance says. -/
def Stance.Fits (stance : Stance) : Caller Call.Answer → Prop
  | .free => stance = .rest
  | .busy call past left =>
    Follows Stance.protocol
      (fun later answer => ∀ connection ∈ call.brings answer, ∃ pool, later = .lent pool connection)
      stance left ∧ stance.Past call past

namespace Hall

variable {hall next : Hall}

/-- Whether everything is in order among callers who take some stances. -/
structure Sound (hall : Hall) (stances : Nat → Stance) : Prop where
  orderly : Orderly hall.world stances hall.held
  recorded : Recorded hall.asked hall.world
  fits : ∀ who, (stances who).Fits (hall.callers who)

theorem Sound.fits_update {stances : Nat → Stance} (sound : hall.Sound stances) {who : Nat}
    {stance : Stance} {caller : Caller Call.Answer} (own : stance.Fits caller) (other : Nat) :
    (update stances who stance other).Fits (update hall.callers who caller other) :=
  @forall_update _ _ (fun caller stance => Stance.Fits stance caller) _ _ sound.fits _ _ _ own other

/-- Whatever happens next, everything is in order again. -/
theorem Sound.step {stances : Nat → Stance} (sound : hall.Sound stances)
    (step : hall.Step next) : ∃ later, next.Sound later := by
  have ⟨orderly, recorded, fits⟩ := sound
  cases step with
  | @calls who call idle owns =>
    have free := fits who
    rw [idle] at free
    refine ⟨_, orderly.call free call owns, recorded, ?_⟩
    exact sound.fits_update ⟨Stance.follows_program call, rfl, rfl⟩
  | @asks who call past request following answer after turn answered =>
    have own := fits who
    rw [turn] at own
    obtain ⟨follows, before⟩ := own
    -- The protocol tells which move the request is.
    obtain ⟨later, moves, further⟩ := follows answer trivial
    refine ⟨_, orderly.ask answered moves, recorded.ask answered moves before, ?_⟩
    exact sound.fits_update ⟨further, moves.past before⟩
  | @gets who call past answer turn =>
    have own := fits who
    rw [turn] at own
    exact ⟨_, orderly.get own.1, recorded, sound.fits_update rfl⟩
  | passes owns different => exact ⟨_, orderly.pass owns different, recorded, fits⟩
  | @closes pool due =>
    have ready : { hall.world with closing := hall.world.closing.erase pool }.Sorted
        (opened stances) := orderly.sorted.congr rfl (Nat.le_refl _)
    refine ⟨_, orderly.drift (ready.close pool) fun lent => ?_, recorded.still rfl ?_, fits⟩
    · exact World.Lent.modifyPool_idle lent fun _ => rfl
    · exact World.bounds_modifyPool hall.world pool fun _ => rfl
  | stirs stirs =>
    refine ⟨_, orderly.drift (orderly.sorted.congr stirs.pools stirs.longer) fun lent => ?_,
      recorded.still stirs.slot (congrArg _ stirs.pools), fits⟩
    obtain ⟨state, made, out⟩ := lent
    exact ⟨state, by rw [World.pool?, stirs.pools]; exact made, out⟩

/-- Everything is in order before anything happens. -/
theorem sound_opening {world : World} (fresh : world.pools = []) (empty : world.slot = none) :
    (opening world).Sound fun _ => .rest := by
  have missing (pool : PoolId) : world.pool? pool = none := by
    rw [World.pool?, fresh]
    rfl
  have nowhere (spot : Spot) : world.places (fun _ => []) spot = [] := by
    cases spot with
    | opened who => rfl
    | idle pool => rw [World.places, missing]; rfl
    | out pool => rw [World.places, missing]; rfl
  have sorted : (opening world).world.Sorted (opened fun _ => .rest) := by
    refine ⟨⟨fun spot => ?_, fun {first _ _} inside _ => ?_⟩, fun spot _ inside => ?_,
      fun {pool _} made => ?_⟩
    · exact nowhere spot ▸ List.nodup_nil
    · exact absurd (nowhere first ▸ inside) List.not_mem_nil
    · exact absurd (nowhere spot ▸ inside) List.not_mem_nil
    · cases (missing pool).symm.trans made
  have held : (opening world).world.Held (hands (fun _ => .rest) (opening world).held) := by
    refine ⟨⟨fun _ => List.nodup_nil, fun inside => ?_⟩, fun _ => List.forall_mem_nil _⟩
    cases inside
  have recorded : Recorded (opening world).asked (opening world).world := by
    refine ⟨fun inside => ?_, fun inside => ?_, fun {pool _} made => ?_⟩
    · cases empty.symm.trans inside
    · cases inside
    · cases (missing pool).symm.trans made
  refine ⟨⟨sorted, held, fun lent => ?_⟩, recorded, fun _ => rfl⟩
  cases lent

/-- Everything is in order whatever has happened. -/
theorem Sound.reaches {stances : Nat → Stance} (sound : hall.Sound stances)
    (reaches : hall.Reaches next) : ∃ later, next.Sound later := by
  induction reaches with
  | refl => exact ⟨stances, sound⟩
  | tail _ step ih =>
    obtain ⟨middle, still⟩ := ih
    exact still.step step

/-! ## What callers can rely on -/

/-- Whether a connection can be given back without harm: that succeeds, and changes neither the slot
nor the pool in it, nor whether there is one. -/
def Harmless (world : World) (connection : ConnectionId) : Prop :=
  ∃ after, World.run (release connection) world = (.done (), after) ∧
    after.slot = world.slot ∧
    (∀ pool, world.slot = some pool → after.pool? pool = world.pool? pool) ∧
    (World.run isEstablished after).1 = (World.run isEstablished world).1

theorem run_isEstablished (world : World) :
    (World.run isEstablished world).1 =
      if world.locked then .blocked else .done world.slot.isSome := by
  show (Program.run World.perform (.ask .current fun found => .done found.isSome) world).1 = _
  rw [Program.run, World.perform]
  cases world.locked <;> rfl

/-- What callers can rely on, whatever has happened. -/
structure Kept (hall : Hall) : Prop where
  /-- A connection that is acquired is out of the pool that was in the slot when that was read. -/
  acquired : ∀ {who past connection},
    hall.callers who = .busy .acquire past (.done (.ok connection)) →
      ∃ pool, past = [⟨.current, some pool⟩, ⟨.checkOut pool, .ok connection⟩] ∧
        hall.world.Lent pool connection
  /-- No connection is held twice, be it by one caller or by two. -/
  held : Parted hall.held
  /-- Each connection that is held is out of a pool. -/
  lent : ∀ who, ∀ connection ∈ hall.held who, ∃ pool, hall.world.Lent pool connection
  /-- No connection is out of two pools. -/
  one : ∀ {pool other connection}, hall.world.Lent pool connection →
    hall.world.Lent other connection → pool = other
  /-- Each pool was made for a wish, and has no more out than was wished for. -/
  room : ∀ {pool state}, hall.world.pool? pool = some state →
    ∃ wish idle, ⟨.establish wish, .install wish.params wish.max idle, pool⟩ ∈ hall.asked ∧
      state.out.length ≤ wish.max
  /-- What a pool that was taken out of the slot has out can be given back without harm. -/
  harmless : ∀ {call pool connection}, ⟨call, .take, some pool⟩ ∈ hall.asked →
    hall.world.Lent pool connection → Harmless hall.world connection
  /-- Whoever is free after a pool was taken out of the slot never acquires a connection of it. -/
  never : ∀ {call pool who}, ⟨call, .take, some pool⟩ ∈ hall.asked → hall.callers who = .free →
    ∀ {later past connection}, hall.Reaches later →
      later.callers who = .busy .acquire past (.done (.ok connection)) →
        ¬ later.world.Lent pool connection

theorem Sound.acquired {stances : Nat → Stance} (sound : hall.Sound stances) {who : Nat}
    {past : List Request.Done} {connection : ConnectionId}
    (turn : hall.callers who = .busy .acquire past (.done (.ok connection))) :
    ∃ pool, past = [⟨.current, some pool⟩, ⟨.checkOut pool, .ok connection⟩] ∧
      hall.world.Lent pool connection := by
  have own := sound.fits who
  rw [turn] at own
  obtain ⟨ends, before⟩ := own
  obtain ⟨pool, lent⟩ := ends connection (List.mem_singleton.mpr rfl)
  have out := sound.orderly.lent lent
  rw [lent] at before
  exact ⟨pool, before.2, out⟩

/-- What comes back to a pool that is not in the slot does no harm. -/
theorem Sound.harmless {stances : Nat → Stance} (sound : hall.Sound stances) {pool : PoolId}
    {connection : ConnectionId} (lent : hall.world.Lent pool connection)
    (out : hall.world.slot ≠ some pool) : Harmless hall.world connection := by
  have lender := sound.orderly.sorted.lender lent
  obtain ⟨slot, locked, others⟩ := (World.takesBack_giveBack lender).others
  refine ⟨hall.world.giveBack connection, rfl, slot, fun other inside => ?_, ?_⟩
  · exact others other fun same => out (same ▸ inside)
  · rw [run_isEstablished, run_isEstablished, slot, locked]

/-- Whether a caller has not read a pool for the present call. -/
def Unread (pool : PoolId) : Caller Call.Answer → Prop
  | .free => True
  | .busy _ past _ => (⟨.current, some pool⟩ : Request.Done) ∉ past

theorem unread_update {pool : PoolId} {who other : Nat} {caller : Caller Call.Answer}
    {callers : Nat → Caller Call.Answer} (unread : Unread pool (callers who))
    (own : who = other → Unread pool caller) :
    Unread pool (update callers other caller who) := by
  by_cases same : who = other
  · rw [same, update_self]
    exact own same
  · rwa [update_of_ne same]

/-- A pool that is not in the slot is read by nobody. -/
theorem unread_step {pool : PoolId} {who : Nat} (unread : Unread pool (hall.callers who))
    (out : hall.world.slot ≠ some pool) (step : hall.Step next) :
    Unread pool (next.callers who) := by
  cases step with
  | calls call => exact unread_update unread fun _ => List.not_mem_nil
  | @asks caller call past request following answer after turn answered =>
    refine unread_update unread fun own read => ?_
    rw [own, turn] at unread
    rcases List.mem_append.mp read with before | new
    · exact unread before
    · cases List.mem_singleton.mp new
      exact out (World.perform_current answered).2.1.symm
  | gets => exact unread_update unread fun _ => trivial
  | passes | closes | stirs => exact unread

/-- What was asked stays on record. -/
theorem asked_of_reaches (reaches : hall.Reaches next) {entry : Asked}
    (before : entry ∈ hall.asked) : entry ∈ next.asked := by
  induction reaches with
  | refl => exact before
  | tail _ step ih =>
    cases step with
    | asks => exact List.mem_append_left _ ih
    | calls | gets | passes | closes | stirs => exact ih

/-- A pool that was taken out of the slot is read by nobody any more. -/
theorem Sound.unread {stances : Nat → Stance} (sound : hall.Sound stances) {call : Call}
    {pool : PoolId} {who : Nat} (taken : ⟨call, .take, some pool⟩ ∈ hall.asked)
    (free : hall.callers who = .free) (reaches : hall.Reaches next) :
    Unread pool (next.callers who) := by
  induction reaches with
  | refl =>
    rw [free]
    exact trivial
  | tail before step ih =>
    obtain ⟨_, still⟩ := sound.reaches before
    exact unread_step ih (still.recorded.taken (asked_of_reaches before taken)).2 step

/-- Connections stay with the pools that have lent them, whatever any callers do in whatever order
with one manager that has had no pool before. -/
theorem kept_of_reaches {world : World} (fresh : world.pools = []) (empty : world.slot = none)
    (reaches : (opening world).Reaches hall) : hall.Kept := by
  obtain ⟨stances, sound⟩ := (sound_opening fresh empty).reaches reaches
  refine ⟨sound.acquired, ?_, ?_, sound.orderly.sorted.lent_unique, ?_, ?_, ?_⟩
  · exact sound.orderly.held.parted.mono fun who => List.sublist_append_right ..
  · exact fun who connection inside =>
      sound.orderly.held.lent who connection (List.mem_append_right _ inside)
  · intro pool state made
    obtain ⟨wish, idle, installed, most⟩ := sound.recorded.made made
    exact ⟨wish, idle, installed,
      most ▸ Nat.le_trans (Nat.le_add_left ..) (sound.orderly.sorted.room made)⟩
  · exact fun taken lent => sound.harmless lent (sound.recorded.taken taken).2
  · intro call pool _ taken free later past connection further turn lent
    obtain ⟨_, still⟩ := sound.reaches further
    have unread := sound.unread taken free further
    rw [turn] at unread
    obtain ⟨other, rfl, out⟩ := still.acquired turn
    cases still.orderly.sorted.lent_unique lent out
    exact unread List.mem_cons_self

/-- A pool is shut down while a connection of it is held, and another one is made and used. -/
def succession : List (Turn Call) :=
  let wish : Wish := { eager := false, min := 1, max := 1, params := ⟨"h", 5432, "u", "", "d"⟩ }
  [.call 0 (.establish wish), .step 0, .step 0, .step 0, .step 0,
    .call 1 .acquire, .step 1, .step 1, .step 1,
    .call 0 .shutdown, .step 0, .step 0, .step 0, .step 0,
    .call 0 (.establish wish), .step 0, .step 0, .step 0, .step 0,
    .call 2 .acquire, .step 2, .step 2, .step 2]

/-- The connection of the pool that was shut down can be given back, and the other one stays. -/
theorem kept_of_succession :
    ∃ hall, succession.foldlM play (opening .obliging) = some hall ∧ hall.Kept ∧
      (hall.world.slot, hall.held 1, hall.held 2) = (some 1, [0], [1]) ∧
      Harmless hall.world 0 := by
  have plays : (succession.foldlM play (opening .obliging)).map
      (fun hall => ((hall.world.slot, hall.held 1, hall.held 2), hall.world.pools.map Pool.out)) =
        some ((some 1, [0], [1]), [[0], [1]]) := by
    decide +kernel
  obtain ⟨hall, played, same⟩ := Option.map_eq_some_iff.mp plays
  obtain ⟨seen, out⟩ := Prod.mk.inj same
  have kept := kept_of_reaches rfl rfl (reaches_plays succession played)
  have taken : (⟨.shutdown, .take, some 0⟩ : Asked) ∈ hall.asked := by
    have noted : (succession.foldlM play (opening .obliging)).bind (fun hall => hall.asked[5]?) =
        some ⟨.shutdown, .take, some 0⟩ := by rfl
    rw [played] at noted
    exact List.mem_of_getElem? noted
  have lent : hall.world.Lent 0 0 := by
    have first : (hall.world.pools.map Pool.out)[0]? = some [0] := by rw [out]; rfl
    rw [List.getElem?_map] at first
    obtain ⟨state, made, same⟩ := Option.map_eq_some_iff.mp first
    exact ⟨state, made, same ▸ List.mem_singleton.mpr rfl⟩
  exact ⟨hall, played, kept, seen, kept.harmless taken lent⟩

end Hall
end Seedbed.PoolManager
