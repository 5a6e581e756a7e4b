import Seedbed.Yaml.Decode

/-!
# What aliases lead to

An alias of a document that was read leads to an item that was given a name, and that is never an
alias itself (`follow_ne_alias`). While items are collected, a label that an alias leads to always
has an item (`Document.Draft.Sound`); the items of a document then stay in the nodes that are built
of them (`Node.Built`).
-/

namespace Seedbed.Yaml

/-! ## Items -/

/-- Whether an item starts a node that can be given a name. -/
def Item.isNamed : Item → Bool
  | .scalar _ _ | .sequenceStart _ | .mappingStart _ => true
  | _ => false

theorem mem_of_lookup {α β : Type} [BEq α] [LawfulBEq α] {key : α} {value : β}
    {entries : List (α × β)} (found : entries.lookup key = some value) :
    (key, value) ∈ entries := by
  obtain ⟨before, after, rfl, -⟩ := List.lookup_eq_some_iff.mp found
  exact List.mem_append_right before List.mem_cons_self

/-- Whether every alias among items leads to one that can be given a name. -/
def Targeted (items : List Item) : Prop :=
  ∀ place target, .alias place target ∈ items →
    ∃ item, items[target]? = some item ∧ item.isNamed

namespace Document.Draft

/-- What holds of a draft: its labels have items, which were given the labels' names, and its
aliases lead to labels that have items. -/
structure Sound (draft : Draft) : Prop where
  targets : ∀ entry ∈ draft.anchors.targets,
    ∃ item, draft.items.reverse[entry.2]? = some item ∧ item.isNamed
  labels : ∀ entry ∈ draft.anchors.labels, (draft.anchors.targets.lookup entry.2).isSome
  aliases : ∀ place label, .alias place label ∈ draft.items →
    (draft.anchors.targets.lookup label).isSome

variable {draft : Draft} {item : Item}

theorem sound_empty : Sound {} := ⟨nofun, nofun, nofun⟩

theorem getElem?_add {n : Nat} {old item : Item} (found : draft.items.reverse[n]? = some old) :
    (item :: draft.items).reverse[n]? = some old := by
  obtain ⟨inside, -⟩ := List.getElem?_eq_some_iff.mp found
  rw [List.reverse_cons, List.getElem?_append_left inside, found]

/-- An item without a name leaves a draft sound, if it is no alias or leads to a label. -/
theorem Sound.add (sound : draft.Sound)
    (leads : ∀ place label, item = .alias place label →
      (draft.anchors.targets.lookup label).isSome) : (draft.add item).Sound where
  targets entry member := by
    obtain ⟨old, found, named⟩ := sound.targets entry member
    exact ⟨old, getElem?_add found, named⟩
  labels := sound.labels
  aliases place label member := by
    rcases List.mem_cons.mp member with same | member
    · exact leads place label same.symm
    · exact sound.aliases place label member

theorem isSome_lookup_cons {label label' item : Nat} {targets : List (Nat × Nat)}
    (known : (targets.lookup label').isSome) :
    (((label, item) :: targets).lookup label').isSome := by
  rw [List.lookup_cons]
  split
  · rfl
  · exact known

theorem Sound.give (sound : draft.Sound) (named : item.isNamed) (name : List Char) :
    (draft.add item (some name)).Sound where
  targets := by
    refine List.forall_mem_cons.mpr ⟨⟨item, ?_, named⟩, fun entry member => ?_⟩
    · show (item :: draft.items).reverse[draft.items.length]? = some item
      simp
    · obtain ⟨old, found, isNamed⟩ := sound.targets entry member
      exact ⟨old, getElem?_add found, isNamed⟩
  labels := by
    refine List.forall_mem_cons.mpr ⟨?_, fun entry member => ?_⟩
    · show (List.lookup _ (_ :: _)).isSome
      simp
    · -- a label may be used again here, but it has an item then too
      exact isSome_lookup_cons (sound.labels entry (List.mem_filter.mp member).1)
  aliases place label member := by
    rcases List.mem_cons.mp member with same | member
    · rw [← same] at named
      cases named
    · exact isSome_lookup_cons (sound.aliases place label member)

theorem Sound.add_named (sound : draft.Sound) (named : item.isNamed) (name? : Option (List Char)) :
    (draft.add item name?).Sound := by
  cases name? with
  | none =>
    refine sound.add fun place label same => ?_
    rw [same] at named
    cases named
  | some name => exact sound.give named name

theorem Sound.finish (sound : draft.Sound) (fault? : Option DocumentFault) (goesOn : Bool) :
    Targeted (draft.finish fault? goesOn).items := by
  intro place target member
  obtain ⟨source, inside, same⟩ := List.mem_map.mp member
  have label : ∃ label, source = .alias place label ∧
      (draft.anchors.targets.lookup label).getD 0 = target := by
    cases source with
    | «alias» place' label =>
      obtain ⟨samePlace, sameTarget⟩ := Item.alias.inj same
      exact ⟨label, by rw [samePlace], sameTarget⟩
    | _ => cases same
  obtain ⟨label, rfl, rfl⟩ := label
  obtain ⟨item, found⟩ := Option.isSome_iff_exists.mp
    (sound.aliases place label (List.mem_reverse.mp inside))
  obtain ⟨named, present, isNamed⟩ := sound.targets (label, item) (mem_of_lookup found)
  refine ⟨named, ?_, isNamed⟩
  simp only [found, Option.getD_some, Draft.finish, List.getElem?_map, present, Option.map_some]
  cases named with
  | «alias» _ _ => cases isNamed
  | _ => rfl

end Document.Draft

theorem targeted_collect {fault? : Option Fault} {draft : Document.Draft}
    {events : List (Event × Place)} (sound : draft.Sound) :
    Targeted (Document.collect fault? draft events).items := by
  induction events generalizing draft with
  | nil => exact sound.finish _ _
  | cons event events ih =>
    obtain ⟨event, place⟩ := event
    cases event with
    | documentStart => exact ih sound
    | documentEnd => exact sound.finish _ _
    | streamEnd =>
      have added : (draft.add (.void place)).Sound := sound.add nofun
      rw [Document.collect]
      split
      · exact added.finish _ _
      · exact sound.finish _ _
    | «alias» name =>
      rw [Document.collect]
      split
      · -- a label that a name stands for has an item
        rename_i label found
        refine ih (sound.add fun _ _ same => ?_)
        obtain ⟨-, rfl⟩ := Item.alias.inj same
        exact sound.labels _ (mem_of_lookup found)
      · exact sound.finish _ _
    | scalar properties text style => exact ih (sound.add_named rfl _)
    | sequenceStart properties => exact ih (sound.add_named rfl _)
    | sequenceEnd => exact ih (sound.add nofun)
    | mappingStart properties => exact ih (sound.add_named rfl _)
    | mappingEnd => exact ih (sound.add nofun)

/-! ## Nodes -/

/-- Whether the aliases in a node are among some items. -/
inductive Node.Built (items : List Item) : Node → Prop where
  | cut : Built items .cut
  | void (place : Place) : Built items (.void place)
  | scalar (place : Place) (content : Scalar) : Built items (.scalar place content)
  | alias (place : Place) (target : Nat) (member : .alias place target ∈ items) :
    Built items (.alias place target)
  | sequence (place : Place) (nodes : List Node) (inside : ∀ node ∈ nodes, Built items node) :
    Built items (.sequence place nodes)
  | mapping (place : Place) (entries : List (Node × Node))
    (keys : ∀ entry ∈ entries, Built items entry.1)
    (values : ∀ entry ∈ entries, Built items entry.2) : Built items (.mapping place entries)

namespace Node

variable {items : List Item}

theorem built_pairs {nodes : List Node} (built : ∀ node ∈ nodes, Built items node) :
    ∀ entry ∈ pairs nodes, Built items entry.1 ∧ Built items entry.2 := by
  induction nodes using pairs.induct with
  | case1 => exact nofun
  | case2 key =>
    refine List.forall_mem_singleton.mpr ⟨built key List.mem_cons_self, .cut⟩
  | case3 key value rest ih =>
    obtain ⟨key, others⟩ := List.forall_mem_cons.mp built
    obtain ⟨value, rest⟩ := List.forall_mem_cons.mp others
    exact List.forall_mem_cons.mpr ⟨⟨key, value⟩, ih rest⟩

theorem built_mapping {place : Place} {nodes : List Node}
    (built : ∀ node ∈ nodes, Built items node) : Built items (.mapping place (pairs nodes)) :=
  .mapping place _ (fun entry member => (built_pairs built entry member).1)
    fun entry member => (built_pairs built entry member).2

/-- Whether all nodes of some lists are built of items. -/
def AllBuilt (items : List Item) (stack : List (List Node)) : Prop :=
  ∀ nodes ∈ stack, ∀ node ∈ nodes, Built items node

theorem AllBuilt.addTo {node : Node} {stack : List (List Node)} (built : AllBuilt items stack)
    (isBuilt : Built items node) : AllBuilt items (addTo node stack) := by
  cases stack with
  | nil => exact List.forall_mem_singleton.mpr (List.forall_mem_singleton.mpr isBuilt)
  | cons nodes stack =>
    obtain ⟨first, others⟩ := List.forall_mem_cons.mp built
    exact List.forall_mem_cons.mpr ⟨List.forall_mem_cons.mpr ⟨isBuilt, first⟩, others⟩

theorem AllBuilt.enclose {collect : List Node → Node} {stack : List (List Node)}
    (built : AllBuilt items stack)
    (isBuilt : ∀ nodes, (∀ node ∈ nodes, Built items node) → Built items (collect nodes)) :
    AllBuilt items (enclose collect stack) := by
  match stack with
  | [] => exact List.forall_mem_singleton.mpr (List.forall_mem_singleton.mpr (isBuilt [] nofun))
  | [nodes] =>
    have inside := isBuilt nodes (built nodes List.mem_cons_self)
    exact List.forall_mem_singleton.mpr (List.forall_mem_singleton.mpr inside)
  | nodes :: around :: rest =>
    obtain ⟨inside, others⟩ := List.forall_mem_cons.mp built
    obtain ⟨outside, rest⟩ := List.forall_mem_cons.mp others
    exact List.forall_mem_cons.mpr
      ⟨List.forall_mem_cons.mpr ⟨isBuilt nodes inside, outside⟩, rest⟩

theorem AllBuilt.absorb {item : Item} {stack : List (List Node)} (built : AllBuilt items stack)
    (member : item ∈ items) : AllBuilt items (absorb item stack) := by
  cases item with
  | void place => exact built.addTo (.void place)
  | «alias» place target => exact built.addTo (.alias place target member)
  | scalar place content => exact built.addTo (.scalar place content)
  | sequenceStart place => exact built.enclose fun nodes inside => .sequence place nodes inside
  | mappingStart place => exact built.enclose fun nodes inside => built_mapping inside
  | sequenceEnd | mappingEnd => exact List.forall_mem_cons.mpr ⟨nofun, built⟩

theorem built_ofItems {part : List Item} (inside : part ⊆ items) :
    Built items (ofItems part) := by
  have all : AllBuilt items (part.foldr Node.absorb [[.cut]]) := by
    induction part with
    | nil => exact List.forall_mem_singleton.mpr (List.forall_mem_singleton.mpr .cut)
    | cons item part ih =>
      have others := ih fun other member => inside (List.mem_cons_of_mem item member)
      exact others.absorb (inside List.mem_cons_self)
  unfold ofItems
  cases stack : part.foldr Node.absorb [[.cut]] with
  | nil => exact .cut
  | cons nodes stack' =>
    rw [stack] at all
    cases nodes with
    | nil => exact .cut
    | cons node nodes => exact all _ List.mem_cons_self node List.mem_cons_self

theorem ofItems_ne_alias {item : Item} {rest : List Item} (named : item.isNamed) (place : Place)
    (target : Nat) : ofItems (item :: rest) ≠ .alias place target := by
  rw [ofItems, List.foldr_cons]
  generalize rest.foldr Node.absorb [[.cut]] = stack
  cases item with
  | scalar _ _ => cases stack <;> nofun
  | sequenceStart _ | mappingStart _ =>
    match stack with
    | [] => nofun
    | [nodes] => nofun
    | nodes :: around :: others => nofun
  | _ => cases named

end Node

/-! ## Documents -/

theorem targeted_ofText (text : List Char) : Targeted (Document.ofText text).items :=
  targeted_collect Document.Draft.sound_empty

theorem built_nodeAt (document : Document) (item : Nat) :
    (document.nodeAt item).Built document.items :=
  Node.built_ofItems (List.drop_subset item document.items)

variable {document : Document} {node : Node}

theorem Node.Built.follow (built : node.Built document.items) :
    (document.follow node).Built document.items := by
  cases node with
  | «alias» place target => exact built_nodeAt document target
  | _ => exact built

/-- No alias leads to another one. -/
theorem follow_ne_alias (targeted : Targeted document.items) (built : node.Built document.items)
    (place : Place) (target : Nat) : document.follow node ≠ .alias place target := by
  cases built with
  | «alias» place' target' member =>
    obtain ⟨item, found, named⟩ := targeted place' target' member
    obtain ⟨inside, same⟩ := List.getElem?_eq_some_iff.mp found
    show document.nodeAt target' ≠ _
    rw [Document.nodeAt, List.drop_eq_getElem_cons inside, same]
    exact Node.ofItems_ne_alias named place target
  | _ => nofun

end Seedbed.Yaml
