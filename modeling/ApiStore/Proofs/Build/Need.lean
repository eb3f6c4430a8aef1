import ApiStore.Proofs.Build.Property
/-
`Need.lean` -- what compiling a node depends on.

Compiling a node is one long recursion, but whether it succeeds hangs on few things: the
storage types of its leaves, the payloads of its overrides, and what its external pointers
lead to. These are the node's *needs*. They are listed in the order in which the compiler
comes to them, and the listing follows the node alone. What a pointer leads to is known
only to the copying of definitions, and is no part of the list.

**The first need that is not met decides.** `build_offence?` says so: the innermost error
of a compilation is that of the first need which is not met, and if all are met there is
none. Questions about success are then questions about lists.
-/
set_option autoImplicit false

namespace ApiStore

/-! ## 1. Offences

A failure is reported under every property that it is passed through. What remains the
same all the way is its innermost error. -/

/-- The innermost error of an outcome, if it is a failure. -/
def offence? {α : Type} : Except CompileError α → Option CompileError
  | .ok _ => none
  | .error e => some e.innermost

section Offences

variable {α β : Type}

@[simp] theorem offence?_ok (a : α) : offence? (.ok a) = none := rfl

@[simp] theorem offence?_error (e : CompileError) :
    offence? (.error e : Except CompileError α) = some e.innermost := rfl

/-- To map a value makes no offence and takes none away. -/
@[simp] theorem offence?_map (f : α → β) (x : Except CompileError α) :
    offence? (x.map f) = offence? x := by
  cases x <;> rfl

/-- Reporting a failure under a property leaves the innermost error alone. -/
@[simp] theorem offence?_property (key : Scalar) (node : Value) (x : Except CompileError α) :
    offence? (x.mapError (.property key node)) = offence? x := by
  cases x <;> rfl

/-- Going on after a first step: where the offence of what follows is the same for every
result, the first offence of the two counts. -/
theorem offence?_bind {x : Except CompileError α} {f : α → Except CompileError β}
    {o : Option CompileError} (h : ∀ a, offence? (f a) = o) :
    offence? (x >>= f) = (offence? x).or o := by
  cases x with
  | ok a => exact h a
  | error e => rfl

/-- Two steps have the offence of two others with the same first one, if the second ones agree. -/
theorem offence?_bind_congr {γ : Type} {x : Except CompileError α} {f : α → Except CompileError β}
    {g : α → Except CompileError γ} (h : ∀ a, offence? (f a) = offence? (g a)) :
    offence? (x >>= f) = offence? (x >>= g) := by
  cases x with
  | ok a => exact h a
  | error e => rfl

/-- Without an offence there is a value. -/
theorem offence?_eq_none_iff {x : Except CompileError α} : offence? x = none ↔ ∃ a, x = .ok a := by
  cases x <;> simp

/-- With an offence there is an error. -/
theorem offence?_ne_none_iff {x : Except CompileError α} :
    offence? x ≠ none ↔ ∃ e, x = .error e := by
  cases x <;> simp

end Offences

/-! ## 2. Needs -/

/-- One thing that compiling a node depends on. -/
inductive Need where
  /-- The storage type of a leaf. -/
  | leaf (node : Node)
  /-- The payload of the override of a node. -/
  | payload (node : Node)
  /-- What a pointer leads to, as seen by its owner. -/
  | pointer (owner : Scalar) (pointer : String)

/-- What is wrong with a need, if it is not met. -/
def Need.offence? (rules : BuildRules) : Need → Option CompileError
  | .leaf node => ApiStore.offence? (leafType node)
  | .payload node => ApiStore.offence? (rules.overrides.resolve node)
  | .pointer owner p =>
    match Pointer.parse? p with
    | none => some (.unknownPointer (.str p))
    | some target =>
      if owner == .str target then none else ApiStore.offence? (rules.expand owner target)

/-- The copy that a need asks for: the owner that asks, and the target. A circular pointer asks for
none, and nor does one that cannot be read. -/
def Need.copy? : Need → Option (Scalar × String)
  | .pointer owner p =>
    match Pointer.parse? p with
    | none => none
    | some target => if owner == .str target then none else some (owner, target)
  | _ => none

/-- A need that asks for a copy fails as the copying does. -/
theorem Need.offence?_of_copy? (rules : BuildRules) {need : Need} {owner : Scalar} {target : String}
    (h : need.copy? = some (owner, target)) :
      need.offence? rules = ApiStore.offence? (rules.expand owner target) := by
  cases need with
  | leaf _ => cases h
  | payload _ => cases h
  | pointer o p =>
    unfold Need.copy? at h
    unfold Need.offence?
    cases hp : Pointer.parse? p with
    | none => simp [hp] at h
    | some t =>
      simp only [hp] at h ⊢
      split at h
      · cases h
      · cases h
        rw [if_neg ‹_›]

namespace Node

mutual

/-- What compiling a node as a whole definition depends on. -/
def needs (owner : Scalar) : Node → List Need
  | .object _ properties _ => propertiesNeeds owner properties
  | .array facts items =>
    match items.ownPointer? with
    | some pointer => [.pointer owner pointer]
    | none => if isSimpleType (entry facts.raw "type") then itemNeeds owner items else []
  | .primitive facts type format =>
    if isSimpleType (entry facts.raw "type") then [.leaf (.primitive facts type format)] else []
  | .reference _ pointer => [.pointer owner pointer]
  | .any _ => []

/-- What the storage type of the items of an array depends on. -/
def itemNeeds (owner : Scalar) : Node → List Need
  | .array _ items => itemNeeds owner items
  | .object _ properties _ => propertiesNeeds owner properties
  | .primitive facts type format => [.leaf (.primitive facts type format)]
  | .reference facts pointer => [.leaf (.reference facts pointer)]
  | .any facts => [.leaf (.any facts)]

/-- What a property depends on before its override is laid over it. -/
def plainNeeds (owner : Scalar) (key : String) : Node → List Need
  | .object _ properties _ => propertiesNeeds (.str key) properties
  | .array _ items =>
    match items.ownPointer? with
    | some pointer => [.pointer owner pointer]
    | none => itemNeeds (.str key) items
  | .primitive facts type format => [.leaf (.primitive facts type format)]
  | .reference _ pointer => [.pointer owner pointer]
  | .any _ => []

/-- What the properties of an object depend on, one after another. -/
def propertiesNeeds (owner : Scalar) : List (String × Node) → List Need
  | [] => []
  | (key, node) :: rest =>
    if reservedNames.contains key then propertiesNeeds owner rest
    else
      (if node.hasItemOverride then [.payload node]
        else plainNeeds owner key node ++ if node.extension.isSome then [.payload node] else []) ++
      propertiesNeeds owner rest

end

/-- What one property depends on. -/
def propertyNeeds (owner : Scalar) (key : String) (node : Node) : List Need :=
  if node.hasItemOverride then [.payload node]
  else plainNeeds owner key node ++ if node.extension.isSome then [.payload node] else []

/-- A property with a reserved name needs nothing. -/
theorem propertiesNeeds_cons_reserved (owner : Scalar) {key : String} (node : Node)
    (rest : List (String × Node)) (h : reservedNames.contains key = true) :
    propertiesNeeds owner ((key, node) :: rest) = propertiesNeeds owner rest := by
  rw [propertiesNeeds, if_pos h]

/-- Any other needs what it needs by itself, before what the rest does. -/
theorem propertiesNeeds_cons (owner : Scalar) {key : String} (node : Node)
    (rest : List (String × Node)) (h : reservedNames.contains key = false) :
    propertiesNeeds owner ((key, node) :: rest) = propertyNeeds owner key node ++
      propertiesNeeds owner rest := by
  rw [propertiesNeeds, if_neg (by rw [h]; exact Bool.false_ne_true), propertyNeeds]

/-- What a property needs is needed by its object. -/
theorem propertyNeeds_subset {key : String} {node : Node} {properties : List (String × Node)}
    (hmem : (key, node) ∈ properties) (hk : reservedNames.contains key = false) (owner : Scalar) :
    node.propertyNeeds owner key ⊆ propertiesNeeds owner properties := by
  induction properties with
  | nil => cases hmem
  | cons property rest ih =>
    obtain ⟨first, other⟩ := property
    rcases List.mem_cons.mp hmem with heq | hrest
    · cases heq
      rw [propertiesNeeds_cons owner node rest hk]
      exact List.subset_append_left _ _
    · cases hfirst : reservedNames.contains first with
      | true =>
        rw [propertiesNeeds_cons_reserved owner other rest hfirst]
        exact ih hrest
      | false =>
        rw [propertiesNeeds_cons owner other rest hfirst]
        exact List.subset_append_of_subset_right _ (ih hrest)

/-- The copies that compiling a node as a whole definition asks for: who asks, and for which
target. -/
def copies (owner : Scalar) (node : Node) : List (Scalar × String) :=
  (node.needs owner).filterMap Need.copy?

/-- What an object requires of its properties is none of its needs. -/
@[simp] theorem needs_forCopy (owner : Scalar) (node : Node) :
    node.forCopy.needs owner = node.needs owner := by
  cases node <;> rfl

end Node

/-! ## 3. The first offence -/

namespace BuildRules

variable (rules : BuildRules)

/-- A reference that is followed fails only if it is external and its target cannot be copied. -/
theorem follow_offence? (owner : Scalar) (r : Reference) :
    offence? (rules.follow owner r) = if r.circular then none else offence?
      (rules.expand owner r.target) := by
  unfold follow
  split <;> rfl

/-- A pointer that is described and followed fails as the need for it does. -/
theorem describe_follow_offence? (owner : Scalar) {node : Node} {pointer : String} (inArray : Bool)
    (h : node.pointer? = some pointer) :
    offence? (Reference.describe node owner inArray >>= rules.follow owner) =
      Need.offence? rules (.pointer owner pointer) := by
  simp only [Reference.describe, Need.offence?, h]
  cases Pointer.parse? pointer with
  | none => rfl
  | some target => exact rules.follow_offence? owner _

/-- So does a node that carries a pointer. -/
theorem resolve_offence? (owner : Scalar) {node : Node} {pointer : String} (inArray : Bool)
    (h : node.pointer? = some pointer) :
    offence? (rules.resolve owner node inArray) = Need.offence? rules (.pointer owner pointer) := by
  rw [← rules.describe_follow_offence? owner inArray h]
  refine offence?_bind_congr fun r => ?_
  exact offence?_map (Compiled.ofTable r.many) (rules.follow owner r)

/-- Laying an override over a property fails as its payload does. -/
theorem withOverride_offence? (node : Node) (compiled : Compiled) :
    offence? (rules.withOverride node compiled) =
      if node.extension.isSome then Need.offence? rules (.payload node) else none := by
  unfold withOverride OverrideRules.merge
  split
  · rw [offence?_map, Need.offence?]
  · rfl

/-- A property fails as the first of its needs that is not met, if its own shape does. -/
theorem buildProperty_offence? (owner : Scalar) (required : Bool) (key : String) (node : Node)
    (h : offence? (rules.buildPlain owner key node) =
      (node.plainNeeds owner key).findSome? (Need.offence? rules)) :
    offence? (rules.buildProperty owner required key node) =
      (node.propertyNeeds owner key).findSome? (Need.offence? rules) := by
  rw [buildProperty, Node.propertyNeeds, offence?_property]
  split
  · rw [OverrideRules.arrayOf, offence?_map, List.findSome?_singleton, Need.offence?]
  · rw [offence?_bind fun _ => rules.withOverride_offence? node _, List.findSome?_append, h]
    split
    · rw [List.findSome?_singleton]
    · rfl

mutual

/-- **The first need that is not met decides.** The innermost error of a compiled node is
that of the first of its needs which is not met. -/
theorem build_offence? (owner : Scalar) :
    (node : Node) → offence? (rules.build owner node) = (node.needs owner).findSome?
    (Need.offence? rules)
  | .object _ properties required => by
    rw [build, Node.needs]
    exact buildProperties_offence? owner required properties
  | .array facts items => by
    rw [build, Node.needs]
    cases hp : items.ownPointer? with
    | some pointer =>
      simp only [Option.isSome_some, if_true, offence?_map, List.findSome?_singleton]
      exact rules.resolve_offence? owner true hp
    | none =>
      simp only [Option.isSome_none, Bool.false_eq_true, if_false]
      split
      · rw [offence?_map]
        exact itemType_offence? owner items
      · rfl
  | .primitive facts type format => by
    rw [build, Node.needs]
    split
    · simp [Need.offence?]
    · rfl
  | .reference facts pointer => by
    rw [build, Node.needs, List.findSome?_singleton]
    exact rules.describe_follow_offence? owner false rfl
  | .any _ => rfl

/-- The type of items fails at the first need that is not met. -/
theorem itemType_offence? (owner : Scalar) :
    (node : Node) → offence? (rules.itemType owner node) = (node.itemNeeds owner).findSome?
    (Need.offence? rules)
  | .array _ items => by
    rw [itemType, Node.itemNeeds, offence?_map]
    exact itemType_offence? owner items
  | .object _ properties required => by
    rw [itemType, Node.itemNeeds, offence?_map]
    exact buildProperties_offence? owner required properties
  | .primitive _ _ _ => by rw [itemType, Node.itemNeeds, List.findSome?_singleton, Need.offence?]
  | .reference _ _ => by rw [itemType, Node.itemNeeds, List.findSome?_singleton, Need.offence?]
  | .any _ => by rw [itemType, Node.itemNeeds, List.findSome?_singleton, Need.offence?]

/-- So does a property apart from its overrides. -/
theorem buildPlain_offence? (owner : Scalar) (key : String) :
    (node : Node) →
      offence? (rules.buildPlain owner key node) = (node.plainNeeds owner key).findSome?
        (Need.offence? rules)
  | .object _ properties required => by
    rw [buildPlain, Node.plainNeeds, offence?_map]
    exact buildProperties_offence? (.str key) required properties
  | .array facts items => by
    rw [buildPlain, Node.plainNeeds]
    cases hp : items.ownPointer? with
    | some pointer =>
      simp only [Option.isSome_some, if_true, List.findSome?_singleton]
      exact rules.resolve_offence? owner false hp
    | none =>
      simp only [Option.isSome_none, Bool.false_eq_true, if_false, offence?_map]
      exact itemType_offence? (.str key) items
  | .primitive _ _ _ => by
    rw [buildPlain, Node.plainNeeds, List.findSome?_singleton, Need.offence?, offence?_map]
  | .reference _ pointer => by
    rw [buildPlain, Node.plainNeeds, List.findSome?_singleton]
    exact rules.resolve_offence? owner false rfl
  | .any _ => rfl

/-- So do the properties of an object. -/
theorem buildProperties_offence? (owner : Scalar) (required : List String) :
    (properties : List (String × Node)) →
      offence? (rules.buildProperties owner required properties) =
        (Node.propertiesNeeds owner properties).findSome? (Need.offence? rules)
  | [] => rfl
  | (key, node) :: rest => by
    have hrest := buildProperties_offence? owner required rest
    cases hk : reservedNames.contains key with
    | true =>
      rw [rules.buildProperties_cons_reserved owner required node rest hk,
        Node.propertiesNeeds_cons_reserved owner node rest hk, hrest]
    | false =>
      have hnode := rules.buildProperty_offence? owner (required.contains key) key node
        (buildPlain_offence? owner key node)
      rw [rules.buildProperties_cons owner required node rest hk,
        Node.propertiesNeeds_cons owner node rest hk,
        List.findSome?_append, ← hnode, ← hrest]
      exact offence?_bind fun _ => offence?_map _ _

end

variable {rules}

/-- A node that compiles has every copy that it asks for. -/
theorem expand_eq_ok_of_build {owner o : Scalar} {node : Node} {fields : Entries Value}
    {target : String} (h : rules.build owner node = .ok fields)
    (hc : (o, target) ∈ node.copies owner) :
    ∃ copy, rules.expand o target = .ok copy := by
  obtain ⟨need, hmem, hneed⟩ := List.mem_filterMap.mp hc
  have hnone : offence? (rules.build owner node) = none := by rw [h, offence?_ok]
  rw [build_offence?, List.findSome?_eq_none_iff] at hnone
  rw [← offence?_eq_none_iff, ← Need.offence?_of_copy? rules hneed]
  exact hnone need hmem

end BuildRules

end ApiStore
