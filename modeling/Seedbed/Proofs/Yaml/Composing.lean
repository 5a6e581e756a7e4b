import Seedbed.Proofs.Yaml.Parsing
import Seedbed.Proofs.Yaml.Scanning

/-!
# Documents of outlines

The events of an outline are collected as items, and these make up the node of the same shape. So a
written mapping is read as a document whose root is that mapping (`root_ofText`).
-/

namespace Seedbed.Yaml

/-! ## Nodes -/

/-- Whether a node is the scalar of a key. -/
def Key.IsNode (key : Key) (node : Node) : Prop :=
  ∃ place, node = .scalar place { text := key.letters }

mutual

/-- Whether a node has the shape of an outline. -/
def Outline.IsNode : Outline → Node → Prop
  | .text glyphs, node =>
    ∃ place, node = .scalar place { text := glyphs.map Glyph.char, style := .quoted }
  | .word word, node => ∃ place, node = .scalar place { text := word.letters }
  | .mapping key value others, node =>
    ∃ place name first rest, node = .mapping place ((name, first) :: rest) ∧ key.IsNode name ∧
      value.IsNode first ∧ AreEntries others rest

/-- Whether pairs of nodes have the shape of entries, one by one. -/
def AreEntries : List (Key × Outline) → List (Node × Node) → Prop
  | [], entries => entries = []
  | (key, value) :: others, entries =>
    ∃ name first rest, entries = (name, first) :: rest ∧ key.IsNode name ∧ value.IsNode first ∧
      AreEntries others rest

end

/-- The nodes of entries, each key before its value. -/
def unpaired (entries : List (Node × Node)) : List Node :=
  entries.flatMap fun entry => [entry.1, entry.2]

theorem pairs_unpaired (entries : List (Node × Node)) :
    Node.pairs (unpaired entries) = entries := by
  induction entries with
  | nil => rfl
  | cons entry entries ih => exact congrArg (entry :: ·) ih

/-! ## Items -/

/-- Events are collected as items that make up nodes. -/
def Composes (placed : List (Event × Place)) (nodes : List Node) : Prop :=
  ∃ items : List Item, (∀ item ∈ items, ∀ place label, item ≠ .alias place label) ∧
    (∀ draft rest, Document.collect none draft (placed ++ rest) =
      Document.collect none { draft with items := items.reverse ++ draft.items } rest) ∧
    ∀ around stack, items.foldr Node.absorb (around :: stack) = (nodes ++ around) :: stack

variable {placed later : List (Event × Place)} {nodes more : List Node} {place : Place}

theorem Composes.nil : Composes [] [] := ⟨[], nofun, fun _ _ => rfl, fun _ _ => rfl⟩

theorem Composes.append (first : Composes placed nodes) (second : Composes later more) :
    Composes (placed ++ later) (nodes ++ more) := by
  obtain ⟨items, plain, collected, absorbed⟩ := first
  obtain ⟨items', plain', collected', absorbed'⟩ := second
  refine ⟨items ++ items', ?_, fun draft rest => ?_, fun around stack => ?_⟩
  · intro item member
    exact (List.mem_append.mp member).elim (plain item) (plain' item)
  · rw [List.append_assoc, collected, collected']
    simp
  · rw [List.foldr_append, absorbed', absorbed, List.append_assoc]

theorem composes_scalar {text : List Char} {style : ScalarStyle} :
    Composes [(.scalar {} text style, place)] [.scalar place { text, style }] :=
  ⟨[.scalar place { text, style }], by simp, fun _ _ => rfl, fun _ _ => rfl⟩

theorem composes_mapping {stop : Place} (inside : Composes placed nodes) :
    Composes ((.mappingStart {}, place) :: (placed ++ [(.mappingEnd, stop)]))
      [.mapping place (Node.pairs nodes)] := by
  obtain ⟨items, plain, collected, absorbed⟩ := inside
  refine ⟨.mappingStart place :: (items ++ [.mappingEnd]), ?_, fun draft rest => ?_,
    fun around stack => ?_⟩
  · intro item member label
    rcases List.mem_cons.mp member with rfl | member
    · nofun
    · rcases List.mem_append.mp member with member | last
      · exact plain item member label
      · rw [List.mem_singleton.mp last]
        nofun
  · have opened : Document.collect none draft
        ((.mappingStart {}, place) :: (placed ++ ((.mappingEnd, stop) :: rest))) =
          Document.collect none (draft.add (.mappingStart place))
            (placed ++ ((.mappingEnd, stop) :: rest)) := rfl
    have closed (draft : Document.Draft) :
        Document.collect none draft ((.mappingEnd, stop) :: rest) =
          Document.collect none (draft.add .mappingEnd) rest := rfl
    rw [List.cons_append, List.append_assoc, List.singleton_append, opened, collected, closed]
    simp [Document.Draft.add]
  · -- from the last item on: the end opens a list of nodes, which the start takes for its own
    have ended :
        [Item.mappingEnd].foldr Node.absorb (around :: stack) = [] :: around :: stack := rfl
    rw [List.foldr_cons, List.foldr_append, ended, absorbed, List.append_nil]
    rfl

/-! ## Outlines -/

/-- The events of an outline make up a node of its shape. -/
def HasNode (outline : Outline) : Prop :=
  ∀ placed : List (Event × Place), placed.map Prod.fst = outline.events →
    ∃ node, Composes placed [node] ∧ outline.IsNode node

theorem composes_entry {key : Key} {value : Outline} (hasNode : HasNode value)
    (events : placed.map Prod.fst = .scalar {} key.letters .plain :: value.events) :
    ∃ name node, Composes placed [name, node] ∧ key.IsNode name ∧ value.IsNode node := by
  obtain ⟨⟨_, place⟩, inside, rfl, rfl, inner⟩ := List.map_eq_cons_iff.mp events
  obtain ⟨node, composes, isNode⟩ := hasNode inside inner
  exact ⟨_, node, composes_scalar.append composes, ⟨place, rfl⟩, isNode⟩

mutual

theorem hasNode : (outline : Outline) → HasNode outline
  | .text glyphs => fun placed events => by
    obtain ⟨⟨_, place⟩, rfl, rfl⟩ := List.map_eq_singleton_iff.mp events
    exact ⟨_, composes_scalar, place, rfl⟩
  | .word word => fun placed events => by
    obtain ⟨⟨_, place⟩, rfl, rfl⟩ := List.map_eq_singleton_iff.mp events
    exact ⟨_, composes_scalar, place, rfl⟩
  | .mapping key value others => fun placed events => by
    rw [Outline.events, ← List.cons_append] at events
    obtain ⟨⟨_, place⟩, _, rfl, rfl, inside⟩ := List.map_eq_cons_iff.mp events
    obtain ⟨first, _, rfl, firstEvents, after⟩ := List.map_eq_append_iff.mp inside
    obtain ⟨later, _, rfl, laterEvents, last⟩ := List.map_eq_append_iff.mp after
    obtain ⟨⟨_, stop⟩, rfl, rfl⟩ := List.map_eq_singleton_iff.mp last
    obtain ⟨name, node, composes, isKey, isNode⟩ := composes_entry (hasNode value) firstEvents
    obtain ⟨rest, composes', areEntries⟩ := composes_entries others later laterEvents
    have whole := @composes_mapping _ _ place stop (composes.append composes')
    rw [List.append_assoc] at whole
    refine ⟨_, whole, place, name, node, rest, ?_, isKey, isNode, areEntries⟩
    exact congrArg (Node.mapping place) (pairs_unpaired ((name, node) :: rest))

/-- The events of entries make up pairs of nodes of their shape. -/
theorem composes_entries : (entries : List (Key × Outline)) → (placed : List (Event × Place)) →
    placed.map Prod.fst = eventsOf entries →
    ∃ nodes, Composes placed (unpaired nodes) ∧ AreEntries entries nodes
  | [], placed, events => by
    rw [List.map_eq_nil_iff.mp events]
    exact ⟨[], .nil, rfl⟩
  | (key, value) :: others, placed, events => by
    rw [eventsOf, ← List.cons_append] at events
    obtain ⟨first, later, rfl, firstEvents, laterEvents⟩ := List.map_eq_append_iff.mp events
    obtain ⟨name, node, composes, isKey, isNode⟩ := composes_entry (hasNode value) firstEvents
    obtain ⟨rest, composes', areEntries⟩ := composes_entries others later laterEvents
    exact ⟨(name, node) :: rest, composes.append composes', name, node, rest, rfl, isKey, isNode,
      areEntries⟩

end

/-! ## Documents -/

/-- Without aliases the items of a document are those that were collected. -/
theorem items_finish {items : List Item}
    (plain : ∀ item ∈ items, ∀ place label, item ≠ .alias place label) :
    (Document.Draft.finish { items := items.reverse } none false).items = items := by
  rw [Document.Draft.finish]
  simp only [List.reverse_reverse]
  refine (List.map_congr_left fun item member => ?_).trans (List.map_id items)
  cases item with
  | «alias» place label => exact absurd rfl (plain _ member place label)
  | _ => rfl

/-- A written mapping is a document of its own, whose root has its shape. -/
theorem root_ofText (key : Key) (value : Outline) (others : List (Key × Outline)) :
    ∃ document, Document.ofText (linesOf 0 ((key, value) :: others)) = document ∧
      document.fault? = none ∧ document.goesOn = false ∧
      (Outline.mapping key value others).IsNode document.root := by
  obtain ⟨tokens, kinds, scanned⟩ := kinds_ofText key value others
  obtain ⟨placed, events, parsed⟩ := events_ofTokens kinds
  obtain ⟨⟨_, start⟩, _, rfl, rfl, content⟩ := List.map_eq_cons_iff.mp events
  obtain ⟨inside, _, rfl, inner, ends⟩ := List.map_eq_append_iff.mp content
  obtain ⟨⟨_, stop⟩, _, rfl, rfl, last⟩ := List.map_eq_cons_iff.mp ends
  obtain ⟨⟨_, final⟩, rfl, rfl⟩ := List.map_eq_singleton_iff.mp last
  obtain ⟨node, ⟨items, plain, collected, absorbed⟩, isNode⟩ := hasNode _ inside inner
  refine ⟨Document.Draft.finish { items := items.reverse } none false, ?_, rfl, rfl, ?_⟩
  · rw [Document.ofText, scanned, parsed]
    have opened : Document.collect none {} ((.documentStart, start) ::
        (inside ++ [(.documentEnd, stop), (.streamEnd, final)])) =
          Document.collect none {} (inside ++ [(.documentEnd, stop), (.streamEnd, final)]) := rfl
    simp only [opened, collected]
    rw [List.append_nil]
    rfl
  · rw [Document.root, Document.nodeAt, items_finish plain, List.drop_zero, Node.ofItems, absorbed]
    exact isNode

end Seedbed.Yaml
