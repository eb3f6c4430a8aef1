import ApiStore.Proofs.Build.Limit
/-
`Reach.lean` -- what a node can reach, and that nothing else matters.

A definition map is consulted by name, whenever a pointer is followed to another
definition. The names that can come up this way are the targets of the pointers in the
node, the targets of the pointers in the definitions of those names, and so on: the names
that the node *reaches*. Pointers are counted wherever they stand in a node, also where the
compiler does not follow them, so that what is reached can be read off the nodes alone.

**Two maps that agree on what is reached compile the node alike**, to the same value or to
the same error (`buildNode_depends_on_reachable`). A name that is reached may be missing,
and then has to be missing in both maps: a failed look-up is a look-up. The walk over a
single node was made in `BuildRules.build_congr`. What is left is that a copy with `n`
levels left asks only for copies of names that are reached, which is an induction on the
levels.
-/
set_option autoImplicit false

namespace ApiStore

/-! ## 1. Pointers in a node -/

namespace Node

mutual

/-- The pointers anywhere in a node. -/
def pointers : Node → List String
  | .reference _ pointer => [pointer]
  | .array _ items => pointers items
  | .object _ properties _ => propertiesPointers properties
  | .primitive _ _ _ | .any _ => []

/-- The pointers anywhere in properties. -/
def propertiesPointers : List (String × Node) → List String
  | [] => []
  | (_, node) :: rest => pointers node ++ propertiesPointers rest

end

/-- The names that the pointers in a node lead to. A pointer that cannot be read leads nowhere. -/
def targets (node : Node) : List String := node.pointers.filterMap Pointer.parse?

variable {o : Scalar} {p : String}

/-- The items of an array that are a reference are all its pointers. -/
theorem pointers_of_ownPointer? {node : Node} (h : node.ownPointer? = some p) :
    p ∈ node.pointers := by
  cases node with
  | reference facts pointer =>
    have hp : pointer = p := Option.some.inj h
    rw [pointers, hp]
    exact List.mem_singleton_self p
  | _ => cases h

mutual

/-- Compiling a node comes only to pointers in the node, whatever owner sees them. -/
theorem mem_pointers_of_needs (name : Scalar) : (node : Node) → .pointer o p ∈ node.needs name →
    p ∈ node.pointers
  | .object _ properties _, h => by
    rw [needs] at h
    rw [pointers]
    exact mem_pointers_of_propertiesNeeds name properties h
  | .array facts items, h => by
    rw [needs] at h
    rw [pointers]
    cases hp : items.ownPointer? with
    | some pointer =>
      simp only [hp, List.mem_singleton, Need.pointer.injEq] at h
      rw [h.2]
      exact pointers_of_ownPointer? hp
    | none =>
      simp only [hp] at h
      by_cases hs : isSimpleType (entry facts.raw "type") = true
      · rw [if_pos hs] at h
        exact mem_pointers_of_itemNeeds name items h
      · rw [if_neg hs] at h
        cases h
  | .primitive facts type format, h => by
    rw [needs] at h
    by_cases hs : isSimpleType (entry facts.raw "type") = true
    · simp [if_pos hs] at h
    · simp [if_neg hs] at h
  | .reference _ pointer, h => by
    simp only [needs, List.mem_singleton, Need.pointer.injEq] at h
    rw [pointers, h.2]
    exact List.mem_singleton_self pointer
  | .any _, h => by simp [needs] at h

/-- So does finding the type of the items of an array. -/
theorem mem_pointers_of_itemNeeds (owner : Scalar) :
    (node : Node) → .pointer o p ∈ node.itemNeeds owner → p ∈ node.pointers
  | .array _ items, h => by
    rw [itemNeeds] at h
    rw [pointers]
    exact mem_pointers_of_itemNeeds owner items h
  | .object _ properties _, h => by
    rw [itemNeeds] at h
    rw [pointers]
    exact mem_pointers_of_propertiesNeeds owner properties h
  | .primitive _ _ _, h => by simp [itemNeeds] at h
  | .reference _ _, h => by simp [itemNeeds] at h
  | .any _, h => by simp [itemNeeds] at h

/-- So does compiling a property. -/
theorem mem_pointers_of_plainNeeds (owner : Scalar) (key : String) :
    (node : Node) → .pointer o p ∈ node.plainNeeds owner key → p ∈ node.pointers
  | .object _ properties _, h => by
    rw [plainNeeds] at h
    rw [pointers]
    exact mem_pointers_of_propertiesNeeds (.str key) properties h
  | .array _ items, h => by
    rw [plainNeeds] at h
    rw [pointers]
    cases hp : items.ownPointer? with
    | some pointer =>
      simp only [hp, List.mem_singleton, Need.pointer.injEq] at h
      rw [h.2]
      exact pointers_of_ownPointer? hp
    | none =>
      simp only [hp] at h
      exact mem_pointers_of_itemNeeds (.str key) items h
  | .primitive _ _ _, h => by simp [plainNeeds] at h
  | .reference _ pointer, h => by
    simp only [plainNeeds, List.mem_singleton, Need.pointer.injEq] at h
    rw [pointers, h.2]
    exact List.mem_singleton_self pointer
  | .any _, h => by simp [plainNeeds] at h

/-- So does compiling the properties of an object. -/
theorem mem_pointers_of_propertiesNeeds (owner : Scalar) :
    (properties : List (String × Node)) → .pointer o p ∈ propertiesNeeds owner properties →
      p ∈ propertiesPointers properties
  | [], h => by simp [propertiesNeeds] at h
  | (key, node) :: rest, h => by
    rw [propertiesPointers, List.mem_append]
    cases hk : reservedNames.contains key with
    | true =>
      rw [propertiesNeeds_cons_reserved owner node rest hk] at h
      exact .inr (mem_pointers_of_propertiesNeeds owner rest h)
    | false =>
      rw [propertiesNeeds_cons owner node rest hk, List.mem_append] at h
      rcases h with hnode | hrest
      · -- An override is no pointer, so what the property needs of pointers are those of its own
        -- shape.
        have hplain : .pointer o p ∈ node.plainNeeds owner key := by
          rw [propertyNeeds] at hnode
          by_cases hi : node.hasItemOverride = true
          · simp [if_pos hi] at hnode
          · rw [if_neg hi, List.mem_append] at hnode
            rcases hnode with hnode | hoverride
            · exact hnode
            · split at hoverride <;> simp at hoverride
        exact .inl (mem_pointers_of_plainNeeds owner key node hplain)
      · exact .inr (mem_pointers_of_propertiesNeeds owner rest hrest)

end

/-- The copies that a node asks for are copies of targets of its pointers. -/
theorem mem_targets_of_mem_copies {node : Node} {name : Scalar} {t : String}
    (h : (o, t) ∈ node.copies name) :
    t ∈ node.targets := by
  obtain ⟨need, hmem, hneed⟩ := List.mem_filterMap.mp h
  cases need with
  | leaf _ => cases hneed
  | payload _ => cases hneed
  | pointer owner pointer =>
    rw [Need.copy?] at hneed
    cases hp : Pointer.parse? pointer with
    | none => simp [hp] at hneed
    | some target =>
      have ht : target = t := by
        simp only [hp] at hneed
        split at hneed
        · cases hneed
        · exact congrArg Prod.snd (Option.some.inj hneed)
      exact List.mem_filterMap.mpr ⟨pointer, mem_pointers_of_needs name node hmem, ht ▸ hp⟩

/-- A copy has the pointers of its definition. -/
@[simp] theorem targets_forCopy (node : Node) : node.forCopy.targets = node.targets := by
  cases node <;> rfl

end Node

/-! ## 2. Names that a node reaches -/

/-- The least set of names that holds the targets of a node and, with a name, the targets of the
definition of that name. -/
inductive Definitions.Reaches (definitions : Definitions) (node : Node) : String → Prop
  | pointer {t : String} (h : t ∈ node.targets) : Reaches definitions node t
  | through {t u : String} {definition : Node} (h : Reaches definitions node t)
    (hd : Entries.get? definitions (.str t) = some definition) (hu : u ∈ definition.targets) :
        Reaches definitions node u

section Reaches

variable {definitions others : Definitions} {node : Node}

/-- Any set that holds the targets of a node, and is closed under those of definitions, holds all
that the node reaches. -/
theorem Definitions.Reaches.mem_of_closed {p : String → Prop} (hnode : ∀ t ∈ node.targets, p t)
    (hstep : ∀ t definition, p t → Entries.get? definitions (.str t) = some definition →
      ∀ u ∈ definition.targets, p u)
    {t : String} (h : definitions.Reaches node t) : p t := by
  induction h with
  | pointer ht => exact hnode _ ht
  | through _ hd hu ih => exact hstep _ _ ih hd _ hu

/-! ## 3. Nothing else matters -/

variable (overrides : OverrideRules)

/-- Copies of what is reached are the same from two maps that agree on what is reached. The
induction is on the levels left, since a copy asks for copies with one level less. -/
theorem expansion_congr_of_reaches
    (h : ∀ t, definitions.Reaches node t → Entries.get? definitions (.str t) = Entries.get? others
      (.str t))
    (limit : Int) (n : Nat) (owner : Scalar) {t : String} (ht : definitions.Reaches node t) :
    expansion overrides definitions limit n owner t =
      expansion overrides others limit n owner t := by
  induction n generalizing owner t with
  | zero => rw [expansion, expansion, h t ht]
  | succ n ih =>
    have hget := h t ht
    cases hd : Entries.get? definitions (.str t) with
    | none =>
      rw [expansion_undefined overrides definitions limit _ owner hd,
        expansion_undefined overrides others limit _ owner (hget ▸ hd)]
    | some definition =>
      rw [expansion_succ overrides definitions limit n owner hd,
        expansion_succ overrides others limit n owner (hget ▸ hd)]
      refine BuildRules.build_congr overrides fun o u hcopy => ih o ?_
      have hu : u ∈ definition.targets := by
        rw [← Node.targets_forCopy]
        exact Node.mem_targets_of_mem_copies hcopy
      exact ht.through hd hu

theorem buildNode_congr_of_reaches
    (h : ∀ t, definitions.Reaches node t → Entries.get? definitions (.str t) = Entries.get? others
      (.str t))
    (start : BuildStart) :
    buildNode overrides definitions start node = buildNode overrides others start node := by
  refine BuildRules.build_congr overrides fun o t hcopy => ?_
  have ht : definitions.Reaches node t := .pointer (Node.mem_targets_of_mem_copies hcopy)
  exact expansion_congr_of_reaches overrides h start.limit _ o ht

end Reaches

/-- **A node compiles alike against two definition maps that agree on the names it reaches**: to the
same value, or to the same error. So it makes no difference to a node if a definition that it does
not reach is added, replaced by any other or removed, or if the definitions are put into another
order. -/
theorem buildNode_depends_on_reachable (overrides : OverrideRules) (definitions : Definitions)
    (start : BuildStart) (node : Node) :
    (∀ others : Definitions,
      (∀ t, definitions.Reaches node t →
        Entries.get? definitions (.str t) = Entries.get? others (.str t)) →
      buildNode overrides others start node = buildNode overrides definitions start node) ∧
    (∀ name definition, (∀ t, definitions.Reaches node t → name ≠ .str t) →
      buildNode overrides (Entries.insert definitions name definition) start node =
          buildNode overrides definitions start node ∧
        buildNode overrides (Entries.erase definitions name) start node =
          buildNode overrides definitions start node) ∧
    ∀ others : Definitions, others.Perm definitions → (definitions.keys).Nodup →
      buildNode overrides others start node = buildNode overrides definitions start node := by
  refine ⟨fun others h => ?_, fun name definition hname => ⟨?_, ?_⟩, fun others hperm hnodup => ?_⟩
  · exact (buildNode_congr_of_reaches overrides h start).symm
  · refine (buildNode_congr_of_reaches overrides (fun t ht => ?_) start).symm
    rw [Entries.get?_insert_str, if_neg (hname t ht)]
  · refine (buildNode_congr_of_reaches overrides (fun t ht => ?_) start).symm
    rw [Entries.get?_erase_str, if_neg (hname t ht)]
  · refine (buildNode_congr_of_reaches overrides (fun t _ => ?_) start).symm
    exact (Entries.get?_str_of_perm hperm hnodup).symm

namespace Sample

/-- The order and its customer in the other order, after a label that does not compile. -/
def labelled : Definitions := (.str "Label", leaf "text") :: misspelled.reverse

/-- An order reaches its customer, and nothing else. -/
theorem eq_customer_of_reaches {t : String} (h : misspelled.Reaches order t) : t = "Customer" := by
  refine h.mem_of_closed (p := (· = "Customer")) ?_ ?_
  · decide
  · rintro _ definition rfl hd u hu
    obtain rfl : record [("name", leaf "text")] [] = definition := Option.some.inj hd
    have hnone : (record [("name", leaf "text")] []).targets = [] := rfl
    rw [hnone] at hu
    cases hu

end Sample

/-- The order fails for the type of its customer's name, whether or not there is a label and in
whatever order. -/
theorem buildNode_depends_on_reachable_labelled :
    (∀ t, Sample.misspelled.Reaches Sample.order t →
      Entries.get? Sample.misspelled (.str t) = Entries.get? Sample.labelled (.str t) ∧
        Scalar.str "Label" ≠ .str t) ∧
    Sample.misspelled.reverse.Perm Sample.misspelled ∧ (Entries.keys Sample.misspelled).Nodup ∧
    ∀ others ∈ [Sample.labelled,
        Entries.insert Sample.misspelled (.str "Label") (Sample.leaf "text"),
        Sample.misspelled.reverse],
      buildNode Sample.settings others ⟨.str "Order", 0, 5⟩ Sample.order =
        buildNode Sample.settings Sample.misspelled ⟨.str "Order", 0, 5⟩ Sample.order := by
  have hreach : ∀ t, Sample.misspelled.Reaches Sample.order t →
      Entries.get? Sample.misspelled (.str t) = Entries.get? Sample.labelled (.str t) ∧
        Scalar.str "Label" ≠ .str t := by
    intro t ht
    rw [Sample.eq_customer_of_reaches ht]
    exact ⟨rfl, by decide⟩
  have hperm : Sample.misspelled.reverse.Perm Sample.misspelled := List.reverse_perm _
  have hnodup : (Entries.keys Sample.misspelled).Nodup := by decide
  obtain ⟨hagree, hother, hpermuted⟩ :=
    buildNode_depends_on_reachable Sample.settings Sample.misspelled
      ⟨.str "Order", 0, 5⟩ Sample.order
  refine ⟨hreach, hperm, hnodup, fun others hothers => ?_⟩
  simp only [List.mem_cons, List.not_mem_nil, or_false] at hothers
  rcases hothers with rfl | rfl | rfl
  · exact hagree _ fun t ht => (hreach t ht).1
  · exact (hother _ _ fun t ht => (hreach t ht).2).1
  · exact hpermuted _ hperm hnodup

end ApiStore
