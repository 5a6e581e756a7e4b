import Seedbed.Proofs.Yaml.Outline
import Seedbed.Yaml.Event

/-!
# Events of outlines

The events that the tokens of an outline give. Each step reads one event, so as much fuel is used
up as there are events.
-/

namespace Seedbed.Yaml

mutual

/-- The events that an outline stands for. -/
def Outline.events : Outline → List Event
  | .text glyphs => [.scalar {} (glyphs.map Glyph.char) .quoted]
  | .word word => [.scalar {} word.letters .plain]
  | .mapping key value others =>
    .mappingStart {} :: .scalar {} key.letters .plain ::
      (value.events ++ (eventsOf others ++ [.mappingEnd]))

def eventsOf : List (Key × Outline) → List Event
  | [] => []
  | (key, value) :: others => .scalar {} key.letters .plain :: (value.events ++ eventsOf others)

end

/-! ## Steps -/

variable {grammar next : Grammar} {expected : List Expected} {token : Token}
  {tokens more : List Token} {handles : List (List Char × List Char)} {start : Place}

/-- Reading goes on from one state to another over some events. -/
def Yields (grammar : Grammar) (events : List Event) (next : Grammar) : Prop :=
  ∃ placed : List (Event × Place), placed.map Prod.fst = events ∧
    ∀ fuel, EventStream.read (fuel + events.length) grammar =
      { EventStream.read fuel next with events := placed ++ (EventStream.read fuel next).events }

theorem Yields.refl (grammar : Grammar) : Yields grammar [] grammar := ⟨[], rfl, fun _ => rfl⟩

theorem Yields.trans {between : Grammar} {events later : List Event}
    (first : Yields grammar events between) (second : Yields between later next) :
    Yields grammar (events ++ later) next := by
  obtain ⟨placed, rfl, read⟩ := first
  obtain ⟨placed', rfl, read'⟩ := second
  refine ⟨placed ++ placed', List.map_append, fun fuel => ?_⟩
  rw [List.length_append, Nat.add_comm (List.length _), ← Nat.add_assoc, read, read']
  simp only [List.append_assoc]

/-- The first of some events is read, and the others after it. -/
def Opens (read : Except Fault ((Event × Place) × Grammar)) (events : List Event) (next : Grammar) :
    Prop :=
  ∃ event place between rest, read = .ok ((event, place), between) ∧ event ≠ .streamEnd ∧
    events = event :: rest ∧ Yields between rest next

theorem Opens.yields {events : List Event} (opens : Opens (Reading.step grammar) events next) :
    Yields grammar events next := by
  obtain ⟨event, place, between, rest, read, more, rfl, placed, rfl, run⟩ := opens
  refine ⟨(event, place) :: placed, rfl, fun fuel => ?_⟩
  rw [List.length_cons, ← Nat.add_assoc, EventStream.read, read]
  simp only [if_neg more]
  rw [run]
  rfl

theorem opens_of_eq {event : Event} {place : Place}
    {read : Except Fault ((Event × Place) × Grammar)} (one : read = .ok ((event, place), next))
    (more : event ≠ .streamEnd) : Opens read [event] next :=
  ⟨event, place, next, [], one, more, rfl, .refl next⟩

theorem step_eq (head : Expected) :
    Reading.step ⟨head :: expected, { tokens }, handles⟩ =
      Reading.readExpected head ⟨expected, { tokens }, handles⟩ := rfl

/-! ## Nodes -/

theorem readNode_scalar {text : List Char} {style : ScalarStyle} (inBlock indentless : Bool)
    (kind : token.kind = .scalar text style) :
    Reading.readNode inBlock indentless ⟨expected, { tokens := token :: tokens }, handles⟩ =
      .ok ((.scalar {} text style, token.start), ⟨expected, { tokens }, handles⟩) := by
  obtain ⟨kind', start, stop⟩ := token
  subst kind
  rfl

theorem readNode_mapping (indentless : Bool) (kind : token.kind = .blockMappingStart) :
    Reading.readNode true indentless ⟨expected, { tokens := token :: tokens }, handles⟩ =
      .ok ((.mappingStart {}, token.start),
        ⟨.blockKey token.start true :: expected, { tokens := token :: tokens }, handles⟩) := by
  obtain ⟨kind', start, stop⟩ := token
  subst kind
  rfl

theorem readBlockKey_first (start : Place) :
    Reading.readBlockKey start true ⟨expected, { tokens := token :: tokens }, handles⟩ =
      Reading.readBlockKey start false ⟨expected, { tokens }, handles⟩ := rfl

theorem readBlockKey_key {mark word : Token} {text : List Char} (start : Place)
    (isKey : mark.kind = .key) (isScalar : word.kind = .scalar text .plain) :
    Reading.readBlockKey start false ⟨expected, { tokens := mark :: word :: tokens }, handles⟩ =
      .ok ((.scalar {} text .plain, word.start),
        ⟨.blockValue start :: expected, { tokens := tokens }, handles⟩) := by
  obtain ⟨_, _, _⟩ := mark
  obtain ⟨_, _, _⟩ := word
  subst isKey isScalar
  rfl

theorem readBlockKey_end (start : Place) (kind : token.kind = .blockEnd) :
    Reading.readBlockKey start false ⟨expected, { tokens := token :: tokens }, handles⟩ =
      .ok ((.mappingEnd, token.start), ⟨expected, { tokens := tokens }, handles⟩) := by
  obtain ⟨_, _, _⟩ := token
  subst kind
  rfl

theorem readBlockValue_value {mark : Token} (start : Place) (isValue : mark.kind = .value)
    (some : Reading.endsBlockPart token.kind = false) :
    Reading.readBlockValue start ⟨expected, { tokens := mark :: token :: tokens }, handles⟩ =
      Reading.readNode true true
        ⟨.blockKey start false :: expected, { tokens := token :: tokens }, handles⟩ := by
  obtain ⟨_, _, _⟩ := mark
  subst isValue
  show (if Reading.endsBlockPart token.kind = true then Reading.missing _
    else Reading.readNode true true) _ = _
  rw [some]
  rfl

/-! ## Outlines -/

/-- The tokens of a value start with one that ends nothing. -/
theorem Outline.tokens_eq_cons (outline : Outline) :
    ∃ kind rest, outline.tokens = kind :: rest ∧ Reading.endsBlockPart kind = false := by
  cases outline <;> exact ⟨_, _, rfl, rfl⟩

/-- Reading a node gives the events of an outline, whatever is expected after it. -/
def ReadsNode (outline : Outline) : Prop :=
  ∀ (tokens more : List Token) (expected : List Expected) (handles : List (List Char × List Char))
    (indentless : Bool), tokens.map Token.kind = outline.tokens →
    Opens (Reading.readNode true indentless ⟨expected, { tokens := tokens ++ more }, handles⟩)
      outline.events ⟨expected, { tokens := more }, handles⟩

theorem yields_entry {key : Key} {value : Outline} (reads : ReadsNode value)
    (kinds : tokens.map Token.kind = entryTokens key value.tokens)
    (one : Reading.step grammar =
      Reading.readBlockKey start false ⟨expected, { tokens := tokens ++ more }, handles⟩) :
    Yields grammar (.scalar {} key.letters .plain :: value.events)
      ⟨.blockKey start false :: expected, { tokens := more }, handles⟩ := by
  obtain ⟨mark, _, rfl, isKey, kinds⟩ := List.map_eq_cons_iff.mp kinds
  obtain ⟨word, _, rfl, isScalar, kinds⟩ := List.map_eq_cons_iff.mp kinds
  obtain ⟨colon, tokens, rfl, isValue, kinds⟩ := List.map_eq_cons_iff.mp kinds
  obtain ⟨kind, others, same, some⟩ := value.tokens_eq_cons
  obtain ⟨first, rest, rfl, rfl, -⟩ := List.map_eq_cons_iff.mp (kinds.trans same)
  have key : Yields grammar [.scalar {} key.letters .plain] ⟨.blockValue start :: expected,
      { tokens := colon :: (first :: rest ++ more) }, handles⟩ :=
    (opens_of_eq (one.trans (readBlockKey_key start isKey isScalar)) nofun).yields
  have node : Opens (Reading.step ⟨.blockValue start :: expected,
      { tokens := colon :: (first :: rest ++ more) }, handles⟩) value.events
      ⟨.blockKey start false :: expected, { tokens := more }, handles⟩ := by
    rw [step_eq]
    refine (congrArg (Opens · _ _) (readBlockValue_value start isValue some)).mpr ?_
    exact reads (first :: rest) more (.blockKey start false :: expected) handles true kinds
  exact key.trans node.yields

mutual

/-- The tokens of an outline are read as its events. -/
theorem readsNode : (outline : Outline) → ReadsNode outline
  | .text glyphs => by
    intro tokens more expected handles indentless kinds
    obtain ⟨token, rfl, kind⟩ := List.map_eq_singleton_iff.mp kinds
    exact opens_of_eq (readNode_scalar true indentless kind) nofun
  | .word word => by
    intro tokens more expected handles indentless kinds
    obtain ⟨token, rfl, kind⟩ := List.map_eq_singleton_iff.mp kinds
    exact opens_of_eq (readNode_scalar true indentless kind) nofun
  | .mapping key value others => by
    intro tokens more expected handles indentless kinds
    obtain ⟨token, _, rfl, kind, kinds⟩ := List.map_eq_cons_iff.mp kinds
    obtain ⟨first, _, rfl, firstKinds, kinds⟩ := List.map_eq_append_iff.mp kinds
    obtain ⟨later, _, rfl, laterKinds, kinds⟩ := List.map_eq_append_iff.mp kinds
    obtain ⟨last, rfl, isEnd⟩ := List.map_eq_singleton_iff.mp kinds
    -- the token of the start is still there when the first key is expected, which passes over it
    have entry : Yields ⟨.blockKey token.start true :: expected,
        { tokens := token :: (first ++ (later ++ last :: more)) }, handles⟩
        (.scalar {} key.letters .plain :: value.events) ⟨.blockKey token.start false :: expected,
          { tokens := later ++ last :: more }, handles⟩ :=
      yields_entry (readsNode value) firstKinds (readBlockKey_first token.start)
    have entries :=
      yields_entries others later (last :: more) expected handles token.start laterKinds
    have ended : Yields ⟨.blockKey token.start false :: expected, { tokens := last :: more },
        handles⟩ [.mappingEnd] ⟨expected, { tokens := more }, handles⟩ :=
      Opens.yields (opens_of_eq (readBlockKey_end token.start isEnd) nofun)
    refine ⟨_, _, _, _, readNode_mapping indentless kind, nofun, rfl, ?_⟩
    simpa using entry.trans (entries.trans ended)

/-- Entries are read where the key of one is expected. -/
theorem yields_entries : (entries : List (Key × Outline)) → (tokens more : List Token) →
    (expected : List Expected) → (handles : List (List Char × List Char)) → (start : Place) →
    tokens.map Token.kind = tokensOf entries →
    Yields ⟨.blockKey start false :: expected, { tokens := tokens ++ more }, handles⟩
      (eventsOf entries) ⟨.blockKey start false :: expected, { tokens := more }, handles⟩
  | [], tokens, more, expected, handles, start, kinds => by
    rw [List.map_eq_nil_iff.mp kinds]
    exact .refl _
  | (key, value) :: others, tokens, more, expected, handles, start, kinds => by
    obtain ⟨first, later, rfl, firstKinds, laterKinds⟩ := List.map_eq_append_iff.mp kinds
    rw [List.append_assoc]
    exact (yields_entry (readsNode value) firstKinds (step_eq _)).trans
      (yields_entries others later more expected handles start laterKinds)

end

mutual

/-- There is no more than one event for each token. -/
theorem Outline.length_events_le : (outline : Outline) →
    outline.events.length ≤ outline.tokens.length
  | .text _ | .word _ => Nat.le_refl 1
  | .mapping _ value others => by
    have first := value.length_events_le
    have later := length_eventsOf_le others
    simp only [Outline.events, Outline.tokens, entryTokens, List.length_cons, List.length_append,
      List.length_nil]
    omega

theorem length_eventsOf_le : (entries : List (Key × Outline)) →
    (eventsOf entries).length ≤ (tokensOf entries).length
  | [] => Nat.le_refl 0
  | (_, value) :: others => by
    have first := value.length_events_le
    have later := length_eventsOf_le others
    simp only [eventsOf, tokensOf, entryTokens, List.length_cons, List.length_append]
    omega

end

/-! ## Documents -/

/-- The events of a document that holds a mapping. -/
theorem events_ofTokens {key : Key} {value : Outline} {others : List (Key × Outline)}
    (kinds : tokens.map Token.kind = (Outline.mapping key value others).tokens ++ [.streamEnd]) :
    ∃ placed, placed.map Prod.fst = .documentStart ::
        ((Outline.mapping key value others).events ++ [.documentEnd, .streamEnd]) ∧
      EventStream.ofTokens { tokens } = { events := placed } := by
  generalize outline : Outline.mapping key value others = root at kinds ⊢
  obtain ⟨inside, _, rfl, insideKinds, endKinds⟩ := List.map_eq_append_iff.mp kinds
  obtain ⟨last, rfl, isEnd⟩ := List.map_eq_singleton_iff.mp endKinds
  have opened : Yields { stream := { tokens := inside ++ [last] } } [.documentStart]
      ⟨[.blockNode, .documentEnd], { tokens := inside ++ [last] }, Reading.standardHandles⟩ := by
    subst outline
    obtain ⟨⟨kind, start, stop⟩, rest, rfl, rfl, -⟩ := List.map_eq_cons_iff.mp insideKinds
    exact Opens.yields (opens_of_eq rfl nofun)
  have node : Yields ⟨[.blockNode, .documentEnd], { tokens := inside ++ [last] },
      Reading.standardHandles⟩ root.events ⟨[.documentEnd], { tokens := [last] },
      Reading.standardHandles⟩ :=
    Opens.yields <|
      readsNode root inside [last] [.documentEnd] Reading.standardHandles false insideKinds
  have closed : Yields ⟨[.documentEnd], { tokens := [last] }, Reading.standardHandles⟩
      [.documentEnd] ⟨[.document false], { tokens := [last] }, Reading.standardHandles⟩ := by
    obtain ⟨_, _, _⟩ := last
    subst isEnd
    exact Opens.yields (opens_of_eq rfl nofun)
  have ended (fuel : Nat) : EventStream.read (fuel + 1)
      ⟨[.document false], { tokens := [last] }, Reading.standardHandles⟩ =
        { events := [(.streamEnd, last.start)] } := by
    obtain ⟨_, _, _⟩ := last
    subst isEnd
    rfl
  obtain ⟨placed, events, run⟩ := opened.trans (node.trans closed)
  refine ⟨placed ++ [(.streamEnd, last.start)], by simp [events], ?_⟩
  -- the fuel is counted in tokens, of which there are no fewer than events
  have few : root.events.length ≤ inside.length := by
    rw [← List.length_map (f := Token.kind), insideKinds]
    exact root.length_events_le
  have fuel : ((inside ++ [last]).length + 2) * eventsPerToken =
      3 * inside.length + 9 + (inside.length - root.events.length) + 1 +
        ([Event.documentStart] ++ (root.events ++ [Event.documentEnd])).length := by
    simp only [eventsPerToken, List.length_append, List.length_cons, List.length_nil]
    omega
  rw [EventStream.ofTokens, fuel, run, ended]

end Seedbed.Yaml
