import Seedbed.Unique

/-!
# Claiming values

Claims on one set of values, one after the other. The candidates of each claim are made in a way of
its own, which may depend on a state (`Maker`). A claim gives the first candidate that is new, if
that is among those that it may try, and no further candidate is made (`Settles`). So whatever the
candidates of some claims were, the claimed values are those that the claims gave, and no value was
given twice (`kept_of_claims`).
-/

namespace Seedbed

/-! ## Candidates -/

/-- Something that makes candidates, one after the other. What it makes depends on a state of its
own. -/
structure Maker where
  State : Type
  make : StateM State String
  state : State

namespace Maker

/-- The state of a maker after some candidates. -/
def stateAfter (maker : Maker) : (made : Nat) → maker.State
  | 0 => maker.state
  | made + 1 => (maker.make.run (maker.stateAfter made)).2

/-- The candidate that is made after some others. -/
def candidate (maker : Maker) (made : Nat) : String := (maker.make.run (maker.stateAfter made)).1

/-- Makes a candidate, and counts it. -/
def counted (maker : Maker) : StateM (maker.State × Nat) String := fun (state, made) =>
  let (value, state) := maker.make.run state
  (value, state, made + 1)

end Maker

/-- What has come of a claim. -/
structure Claimed where
  result : Except Failure String
  values : UniqueValues
  /-- How many candidates were made for it. -/
  made : Nat

namespace UniqueValues

/-- Claims the first new candidate of a maker. -/
def claimFrom (values : UniqueValues) (maker : Maker) : Claimed :=
  let ended := (values.claim maker.counted).run (maker.state, 0)
  { result := ended.1.1, values := ended.1.2, made := ended.2.2 }

/-- What some claims come to, one after the other, and the values after them. -/
def claimAll (values : UniqueValues) : List Maker → List (Except Failure String) × UniqueValues
  | [] => ([], values)
  | maker :: later =>
    let claimed := values.claimFrom maker
    let (results, values) := claimed.values.claimAll later
    (claimed.result :: results, values)

/-- The values that were given. -/
def given (results : List (Except Failure String)) : List String :=
  results.filterMap Except.toOption

theorem given_append (earlier later : List (Except Failure String)) :
    given (earlier ++ later) = given earlier ++ given later := List.filterMap_append

/-! ## One claim -/

section

variable {values : UniqueValues} {maker : Maker} {start tries : Nat}

theorem search_succ :
    (values.search maker.counted (tries + 1)).run (maker.stateAfter start, start) =
      if maker.candidate start ∈ values.taken then
        (values.search maker.counted tries).run (maker.stateAfter (start + 1), start + 1)
      else
        ((.ok (maker.candidate start), values.insert (maker.candidate start)),
          maker.stateAfter (start + 1), start + 1) := by
  rw [search, StateT.run_bind]
  show (if values.taken.contains (maker.candidate start) then values.search maker.counted tries
    else pure (.ok (maker.candidate start), values.insert (maker.candidate start))).run
      (maker.stateAfter (start + 1), start + 1) = _
  simp only [List.contains_iff_mem]
  split
  · rfl
  · rfl

/-- Counting changes nothing else, and the maker is left as it is after so many candidates. -/
theorem search_make :
    (values.search maker.make tries).run (maker.stateAfter start) =
      (((values.search maker.counted tries).run (maker.stateAfter start, start)).1,
        maker.stateAfter
          ((values.search maker.counted tries).run (maker.stateAfter start, start)).2.2) := by
  induction tries generalizing start with
  | zero => rfl
  | succ tries ih =>
    rw [search_succ, search, StateT.run_bind]
    show (if values.taken.contains (maker.candidate start) then values.search maker.make tries
      else pure (.ok (maker.candidate start), values.insert (maker.candidate start))).run
        (maker.stateAfter (start + 1)) = _
    simp only [List.contains_iff_mem]
    split
    · exact ih
    · rfl

/-- A search ends at the first new candidate. -/
theorem search_new {place : Nat} (reached : start ≤ place) (within : place < start + tries)
    (new : maker.candidate place ∉ values.taken)
    (before : ∀ earlier, start ≤ earlier → earlier < place →
      maker.candidate earlier ∈ values.taken) :
    (values.search maker.counted tries).run (maker.stateAfter start, start) =
      ((.ok (maker.candidate place), values.insert (maker.candidate place)),
        maker.stateAfter (place + 1), place + 1) := by
  induction tries generalizing start with
  | zero => omega
  | succ tries ih =>
    rw [search_succ]
    -- Before `place` all candidates are claimed, so the search goes on until it is there.
    by_cases here : start = place
    · rw [here, if_neg new]
    · have later : start < place := Nat.lt_of_le_of_ne reached here
      rw [if_pos (before start (Nat.le_refl start) later)]
      refine ih later (by omega) fun earlier reached => ?_
      exact before earlier (Nat.le_of_succ_le reached)

/-- A search without a new candidate makes as many as it may try. -/
theorem search_old (old : ∀ place, start ≤ place → place < start + tries →
      maker.candidate place ∈ values.taken) :
    (values.search maker.counted tries).run (maker.stateAfter start, start) =
      ((.error (.exhausted values.field values.attempts), values),
        maker.stateAfter (start + tries), start + tries) := by
  induction tries generalizing start with
  | zero => rfl
  | succ tries ih =>
    rw [search_succ, if_pos (old start (Nat.le_refl start) (by omega)), Nat.add_comm tries 1,
      ← Nat.add_assoc]
    refine ih fun place reached within => ?_
    exact old place (Nat.le_of_succ_le reached) (by omega)

/-- Whether a claim may try a candidate, which is none of some values, and none of those before it
is. -/
structure IsFirst (attempts : Nat) (claimed : List String) (maker : Maker) (place : Nat) :
    Prop where
  within : place < attempts
  new : maker.candidate place ∉ claimed
  before : ∀ earlier < place, maker.candidate earlier ∈ claimed

/-- Either one of the candidates that may be tried is the first new one, or all of them are
claimed. -/
theorem exists_isFirst_or (attempts : Nat) (claimed : List String) (maker : Maker) :
    (∃ place, IsFirst attempts claimed maker place) ∨
      ∀ place < attempts, maker.candidate place ∈ claimed := by
  induction attempts with
  | zero => exact .inr nofun
  | succ attempts ih =>
    -- A new candidate among the earlier ones stays the first; without one the last decides.
    rcases ih with ⟨place, first⟩ | old
    · exact .inl ⟨place, { first with within := Nat.lt_succ_of_lt first.within }⟩
    · by_cases last : maker.candidate attempts ∈ claimed
      · refine .inr fun place within => ?_
        rcases Nat.lt_succ_iff_lt_or_eq.mp within with earlier | rfl
        · exact old place earlier
        · exact last
      · exact .inl ⟨attempts, Nat.lt_succ_self attempts, last, old⟩

theorem claimFrom_first {place : Nat} (first : IsFirst values.attempts values.taken maker place) :
    values.claimFrom maker = {
      result := .ok (maker.candidate place)
      values := values.insert (maker.candidate place)
      made := place + 1 } := by
  have ran : (values.claim maker.counted).run (maker.state, 0) = _ :=
    search_new (Nat.zero_le place) (by rw [Nat.zero_add]; exact first.within) first.new
      fun earlier _ => first.before earlier
  rw [claimFrom, ran]

theorem claimFrom_old (old : ∀ place < values.attempts, maker.candidate place ∈ values.taken) :
    values.claimFrom maker = {
      result := .error (.exhausted values.field values.attempts)
      values
      made := values.attempts } := by
  have ran : (values.claim maker.counted).run (maker.state, 0) = _ :=
    @search_old values maker 0 values.attempts fun place _ within =>
      old place (by rwa [Nat.zero_add] at within)
  rw [claimFrom, ran, Nat.zero_add]

end

/-- How a claim comes out once some values are claimed. -/
structure Settles (claimed : List String) (values : UniqueValues) (maker : Maker)
    (outcome : Claimed) : Prop where
  /-- Nothing is made but the candidates that are counted. -/
  counts : (values.claim maker.make).run maker.state =
    ((outcome.result, outcome.values), maker.stateAfter outcome.made)
  /-- It succeeds exactly if one of the candidates that it may try is new. -/
  succeeds_iff : (∃ value, outcome.result = .ok value) ↔
    ∃ place < values.attempts, maker.candidate place ∉ claimed
  /-- It gives the first of them, -/
  gives_iff : ∀ value, outcome.result = .ok value ↔
    ∃ place, IsFirst values.attempts claimed maker place ∧ maker.candidate place = value
  /-- which is the last candidate that is made, and the one value that is claimed. -/
  ends : ∀ place, IsFirst values.attempts claimed maker place →
    outcome.made = place + 1 ∧ outcome.values = values.insert (maker.candidate place)
  /-- Otherwise all candidates that it may try are made, and no value is claimed. -/
  fails : (∀ value, outcome.result ≠ .ok value) →
    outcome.result = .error (.exhausted values.field values.attempts) ∧
      outcome.made = values.attempts ∧ outcome.values = values

theorem IsFirst.unique {attempts place other : Nat} {claimed : List String} {maker : Maker}
    (first : IsFirst attempts claimed maker place) (first' : IsFirst attempts claimed maker other) :
    other = place := by
  rcases Nat.lt_trichotomy other place with earlier | same | later
  · exact absurd (first.before other earlier) first'.new
  · exact same
  · exact absurd (first'.before place later) first.new

/-- Only which values are claimed matters. -/
theorem Settles.congr {claimed other : List String} {values : UniqueValues} {maker : Maker}
    {outcome : Claimed} (settles : Settles claimed values maker outcome)
    (same : ∀ value, value ∈ claimed ↔ value ∈ other) : Settles other values maker outcome := by
  have first (place : Nat) : IsFirst values.attempts other maker place ↔
      IsFirst values.attempts claimed maker place := by
    constructor
    · rintro ⟨within, new, before⟩
      exact ⟨within, mt (same _).mp new, fun earlier less => (same _).mpr (before earlier less)⟩
    · rintro ⟨within, new, before⟩
      exact ⟨within, mt (same _).mpr new, fun earlier less => (same _).mp (before earlier less)⟩
  obtain ⟨counts, succeeds, gives, ends, fails⟩ := settles
  simp only [same] at succeeds
  simp only [← first] at gives ends
  exact ⟨counts, succeeds, gives, ends, fails⟩

theorem settles_claimFrom (values : UniqueValues) (maker : Maker) :
    Settles values.taken values maker (values.claimFrom maker) := by
  have counts : (values.claim maker.make).run maker.state =
      (((values.claimFrom maker).result, (values.claimFrom maker).values),
        maker.stateAfter (values.claimFrom maker).made) :=
    @search_make values maker 0 values.attempts
  rcases exists_isFirst_or values.attempts values.taken maker with ⟨place, first⟩ | old
  · rw [claimFrom_first first] at counts ⊢
    refine ⟨counts, ⟨fun _ => ⟨place, first.within, first.new⟩, fun _ => ⟨_, rfl⟩⟩, ?_, ?_, ?_⟩
    · intro value
      constructor
      · intro same
        exact ⟨place, first, Except.ok.inj same⟩
      · rintro ⟨other, first', rfl⟩
        rw [first.unique first']
    · intro other first'
      rw [first.unique first']
      exact ⟨rfl, rfl⟩
    · intro failed
      exact absurd rfl (failed _)
  · have none (place : Nat) (first : IsFirst values.attempts values.taken maker place) : False :=
      first.new (old place first.within)
    rw [claimFrom_old old] at counts ⊢
    refine ⟨counts, ⟨nofun, fun ⟨place, within, new⟩ => absurd (old place within) new⟩, ?_,
      fun place first => (none place first).elim, fun _ => ⟨rfl, rfl, rfl⟩⟩
    exact fun value => ⟨nofun, fun ⟨place, first, _⟩ => (none place first).elim⟩

/-! ## Claims one after the other -/

/-- What some claims have changed. -/
structure Grown (values : UniqueValues) (results : List (Except Failure String))
    (after : UniqueValues) : Prop where
  field : after.field = values.field
  attempts : after.attempts = values.attempts
  taken : after.taken = (given results).reverse ++ values.taken
  distinct : values.taken.Nodup → after.taken.Nodup

theorem Grown.trans {values middle after : UniqueValues}
    {earlier later : List (Except Failure String)} (first : Grown values earlier middle)
    (second : Grown middle later after) : Grown values (earlier ++ later) after where
  field := second.field.trans first.field
  attempts := second.attempts.trans first.attempts
  taken := by
    rw [second.taken, first.taken, given_append, List.reverse_append, List.append_assoc]
  distinct := fun distinct => second.distinct (first.distinct distinct)

theorem grown_claimFrom (values : UniqueValues) (maker : Maker) :
    Grown values [(values.claimFrom maker).result] (values.claimFrom maker).values := by
  rcases exists_isFirst_or values.attempts values.taken maker with ⟨place, first⟩ | old
  · rw [claimFrom_first first]
    exact ⟨rfl, rfl, rfl, fun distinct => List.nodup_cons.mpr ⟨first.new, distinct⟩⟩
  · rw [claimFrom_old old]
    exact ⟨rfl, rfl, rfl, id⟩

theorem grown_claimAll (values : UniqueValues) (makers : List Maker) :
    Grown values (values.claimAll makers).1 (values.claimAll makers).2 := by
  induction makers generalizing values with
  | nil => exact ⟨rfl, rfl, rfl, id⟩
  | cons maker later ih => exact (grown_claimFrom values maker).trans (ih _)

/-- What holds after some claims on a set that was empty before them. -/
structure Kept (field : String) (attempts : Nat) (makers : List Maker)
    (results : List (Except Failure String)) (after : UniqueValues) : Prop where
  /-- The next claim, whatever its candidates, looks for one that no claim has given, -/
  next : ∀ maker, Settles (given results) after maker (after.claimFrom maker)
  /-- for the same field, and it may try as many candidates as the first one. -/
  unspent : after.field = field ∧ after.attempts = attempts
  /-- No value was given twice, -/
  distinct : (given results).Nodup
  /-- and those that were given are the claimed ones. -/
  claimed : ∀ value, value ∈ after.taken ↔ value ∈ given results
  size : after.size = (given results).length
  isEmpty_iff : after.isEmpty ↔ given results = []
  /-- The first claim gives its first candidate, unless it may try none. -/
  first : ∀ maker later, makers = maker :: later → 1 ≤ attempts →
    results.head? = some (.ok (maker.candidate 0))

/-- Whatever the candidates of some claims are, and whichever of the claims fail. -/
theorem kept_of_claims (field : String) (attempts : Nat) (makers : List Maker) :
    Kept field attempts makers (claimAll { field, attempts } makers).1
      (claimAll { field, attempts } makers).2 := by
  -- The claimed values are the given ones, the latest first: all else is read off that.
  have grown := grown_claimAll { field, attempts } makers
  have taken := grown.taken
  rw [List.append_nil] at taken
  have claimed (value : String) : value ∈ (claimAll { field, attempts } makers).2.taken ↔
      value ∈ given (claimAll { field, attempts } makers).1 := by
    rw [taken, List.mem_reverse]
  refine ⟨fun maker => ?_, ⟨grown.field, grown.attempts⟩, ?_, claimed, ?_, ?_, ?_⟩
  · exact (settles_claimFrom _ maker).congr claimed
  · have distinct := grown.distinct List.nodup_nil
    rw [taken] at distinct
    exact (List.reverse_perm _).nodup_iff.mp distinct
  · rw [size, taken, List.length_reverse]
  · rw [isEmpty, taken, List.isEmpty_iff, List.reverse_eq_nil_iff]
  · rintro maker later rfl positive
    have first : IsFirst attempts [] maker 0 := ⟨positive, List.not_mem_nil, nofun⟩
    have given := @claimFrom_first { field, attempts } maker 0 first
    rw [claimAll, given]
    rfl

end UniqueValues
end Seedbed
