import ApiStore.Proofs.Build.ErrorPath
import ApiStore.Proofs.Build.Fields
/-
`Source.lean` -- the sources of compiled values.

The compiler comes to a node in one of several ways: as a whole definition, as the items of
an array, as a property of an object; it goes through the properties of an object, and it
follows a pointer. Each of these is a source, and each has its value (`BuildRules.compile`).
What a source leads to next is one step of the walk (`Source.Leads`); only following a pointer
takes a level of copies. Everything that is compiled on behalf of a definition is reached
from it by such steps.

**Plain definitions** have no overrides and no properties named `type`. What they compile to
can be told from its form alone: a table with a type is a single field, and any other table is
the fields of an object. So the positions of a compiled value at which there are compiled
values again are clear as well (`Value.Part`): the items of a list, the type of a single field,
the entries of an object. A default or the target of a stub is at no such position.
-/
set_option autoImplicit false

namespace ApiStore

/-! ## 1. Parts of nodes -/

namespace Node

mutual

/-- A node and all nodes in it. -/
def parts : Node → List Node
  | .array facts items => .array facts items :: items.parts
  | .object facts properties required =>
    .object facts properties required :: propertiesParts properties
  | .primitive facts type format => [.primitive facts type format]
  | .reference facts pointer => [.reference facts pointer]
  | .any facts => [.any facts]

/-- All nodes in properties. -/
def propertiesParts : List (String × Node) → List Node
  | [] => []
  | (_, node) :: rest => node.parts ++ propertiesParts rest

end

/-- Whether a node and all nodes in it are of a kind. -/
def All (P : Node → Prop) (node : Node) : Prop := ∀ part ∈ node.parts, P part

instance (P : Node → Prop) [DecidablePred P] (node : Node) : Decidable (node.All P) :=
  inferInstanceAs (Decidable (∀ part ∈ node.parts, P part))

/-- A node without an override and without a property named `type`. -/
def IsPlain (node : Node) : Prop :=
  node.extension = none ∧ ∀ property ∈ node.properties, property.1 ≠ "type"

instance : DecidablePred IsPlain := fun _ => inferInstanceAs (Decidable (_ ∧ _))

section Parts

variable {P : Node → Prop} {node items : Node} {facts : Facts} {properties : List (String × Node)}
  {required : List String}

/-- A node is a part of itself. -/
theorem mem_parts_self (node : Node) : node ∈ node.parts := by
  cases node <;> exact List.mem_cons_self

/-- The parts of a property are among those of all properties. -/
theorem parts_subset_of_mem {key : String} (h : (key, node) ∈ properties) :
    node.parts ⊆ propertiesParts properties := by
  induction properties with
  | nil => cases h
  | cons property rest ih =>
    obtain ⟨first, other⟩ := property
    rw [propertiesParts]
    rcases List.mem_cons.mp h with heq | hrest
    · cases heq
      exact List.subset_append_left _ _
    · exact List.subset_append_of_subset_right _ (ih hrest)

/-- What holds of all parts of a node holds of the node. -/
theorem All.self (h : node.All P) : P node := h _ (mem_parts_self node)

/-- It holds of all parts of the items of an array. -/
theorem All.of_array (h : (Node.array facts items).All P) : items.All P :=
  fun part hpart => h part (List.mem_cons_of_mem _ hpart)

/-- It holds of all parts of every property of an object. -/
theorem All.of_object {key : String} (h : (Node.object facts properties required).All P)
    (hmem : (key, node) ∈ properties) : node.All P :=
  fun part hpart => h part (List.mem_cons_of_mem _ (parts_subset_of_mem hmem hpart))

/-- An object is of a kind throughout if it is itself, and the nodes of its properties are
throughout. -/
theorem All.object (h : P (.object facts properties required))
    (hproperties : ∀ property ∈ properties, property.2.All P) :
    (Node.object facts properties required).All P := by
  refine List.forall_mem_cons.mpr ⟨h, ?_⟩
  clear h
  induction properties with
  | nil => exact nofun
  | cons property rest ih =>
    obtain ⟨hfirst, hrest⟩ := List.forall_mem_cons.mp hproperties
    exact List.forall_mem_append.mpr ⟨hfirst, ih hrest⟩

/-- What an object requires makes no difference to a copy, if it makes none to the kind. -/
theorem All.forCopy (hP : ∀ node : Node, P node → P node.forCopy) (h : node.All P) :
    node.forCopy.All P := by
  cases node with
  | object facts properties required =>
    have hself : P (.object facts properties []) := hP _ h.self
    intro part hpart
    rcases List.mem_cons.mp hpart with rfl | hinner
    · exact hself
    · exact h part (List.mem_cons_of_mem _ hinner)
  | _ => exact h

/-- A copy of a plain node is plain. -/
theorem IsPlain.forCopy (h : node.IsPlain) : node.forCopy.IsPlain := by
  cases node <;> exact h

/-- An object that is plain is plain without its first property. -/
theorem All.tail {property : String × Node}
    (h : (Node.object facts (property :: properties) required).All IsPlain) :
    (Node.object facts properties required).All IsPlain := by
  obtain ⟨hextension, hnames⟩ := h.self
  intro part hpart
  rcases List.mem_cons.mp hpart with rfl | hinner
  · exact ⟨hextension, fun other hother => hnames other (List.mem_cons_of_mem _ hother)⟩
  · exact h part (List.mem_cons_of_mem _ (List.mem_append_right _ hinner))

/-- No override counts for a plain node, and so none for its items. -/
theorem All.hasItemOverride (h : node.All IsPlain) : node.hasItemOverride = false := by
  cases node with
  | array facts items =>
    have hitems : items.extension = none := h.of_array.self.1
    rw [Node.hasItemOverride, hitems, Option.isSome_none]
  | _ => rfl

end Parts

end Node

/-- Definitions without overrides and without properties named `type`, at any depth. -/
def Definitions.Plain (definitions : Definitions) : Prop := ∀ d ∈ definitions, d.2.All Node.IsPlain

instance (definitions : Definitions) : Decidable definitions.Plain :=
  inferInstanceAs (Decidable (∀ d ∈ definitions, d.2.All Node.IsPlain))

/-- A copy of a plain definition is plain. -/
theorem Definitions.Plain.forCopy {definitions : Definitions} (h : definitions.Plain)
    {target : String} {definition : Node}
    (hdefinition : Entries.get? definitions (.str target) = some definition) :
      definition.forCopy.All Node.IsPlain := by
  have hplain : definition.All Node.IsPlain := h _ (Entries.mem_of_get?_str hdefinition)
  exact hplain.forCopy fun _ => Node.IsPlain.forCopy

/-! ## 2. Sources -/

/-- Something that is compiled: a definition, the items of an array or a property, each for the
owner that sees its pointers; the properties of an object; or a pointer. A property knows whether it
is required. -/
inductive Source where
  | definition (owner : Scalar) (node : Node)
  | items (owner : Scalar) (node : Node)
  | property (owner : Scalar) (required : Bool) (key : String) (node : Node)
  | properties (owner : Scalar) (required : List String) (properties : List (String × Node))
  | pointer (owner : Scalar) (pointer : String)

namespace BuildRules

variable (rules : BuildRules)

/-- What a pointer leads to that an owner sees: a stub if the owner is the target, and otherwise a
copy. -/
def point (owner : Scalar) (pointer : String) : Except CompileError (Entries Value) :=
  match Pointer.parse? pointer with
  | none => .error (.unknownPointer (.str pointer))
  | some target =>
    if owner == .str target then .ok (Reference.stub target) else rules.expand owner target

/-- The value of a source; that of a property which is dropped is null. -/
def compile : Source → Except CompileError Value
  | .definition owner node => (rules.build owner node).map .map
  | .items owner node => rules.itemType owner node
  | .property owner required key node =>
    (rules.buildProperty owner required key node).map Compiled.toValue
  | .properties owner required properties =>
    (rules.buildProperties owner required properties).map .map
  | .pointer owner pointer => (rules.point owner pointer).map .map

variable {owner : Scalar} {node : Node} {pointer : String}

/-- A node that carries a pointer compiles to what the pointer leads to, in a marker if there may be
many. -/
theorem resolve_eq_point (inArray : Bool) (hp : node.pointer? = some pointer) :
    rules.resolve owner node inArray = (rules.point owner pointer).map
      (.ofTable (node.isArray || inArray)) := by
  cases htarget : Pointer.parse? pointer with
  | none =>
    simp only [resolve, point, Reference.describe, hp, htarget, bind, Except.bind, Except.map]
  | some target =>
    simp only [resolve, point, Reference.describe_eq inArray hp htarget, htarget, follow]
    cases owner == .str target with
    | true => rfl
    | false =>
      cases hcopy : rules.expand owner target <;> simp [bind, Except.bind, Except.map, pure,
        Except.pure, hcopy]

/-- So does a property that carries a pointer. -/
theorem buildPlain_eq_point (key : String) (hp : node.pointer? = some pointer) :
    rules.buildPlain owner key node = (rules.point owner pointer).map (.ofTable node.isArray) := by
  have hresolve : rules.resolve owner node false = _ := rules.resolve_eq_point false hp
  rw [Bool.or_false] at hresolve
  rw [← hresolve]
  cases node with
  | array facts items =>
    have hitems : items.ownPointer? = some pointer := hp
    rw [buildPlain, hitems, Option.isSome_some, if_pos rfl]
  | reference facts p => rw [buildPlain]
  | primitive _ _ _ => cases hp
  | object _ _ _ => cases hp
  | any _ => cases hp

/-- A definition that carries a pointer compiles to what the pointer leads to, or to a single field
with a list of it. -/
theorem build_eq_point (hp : node.pointer? = some pointer) :
    rules.build owner node = (rules.point owner pointer).map fun fields =>
      if node.isArray then typed (.list [.map fields]) else fields := by
  cases node with
  | array facts items =>
    have hitems : items.ownPointer? = some pointer := hp
    rw [build, hitems, Option.isSome_some, if_pos rfl, rules.resolve_eq_point true hp]
    cases rules.point owner pointer <;> rfl
  | reference facts p =>
    obtain rfl : p = pointer := Option.some.inj hp
    have hbuild : rules.build owner (.reference facts p) = rules.point owner p := by
      rw [build, point]
      cases htarget : Pointer.parse? p with
      | none => simp only [Reference.describe, hp, htarget, bind, Except.bind]
      | some target =>
        rw [Reference.describe_eq false hp htarget]
        rfl
    rw [hbuild]
    cases rules.point owner p <;> rfl
  | primitive _ _ _ => cases hp
  | object _ _ _ => cases hp
  | any _ => cases hp

/-- What a pointer leads to is a stub, or its target compiled with one level less. -/
theorem point_cases {overrides : OverrideRules} {definitions : Definitions} {limit : Int}
    {levels : Nat} {fields : Entries Value}
    (h : (rulesWithin overrides definitions limit levels).point owner pointer = .ok fields) :
    ∃ target, Pointer.parse? pointer = some target ∧
      (owner = .str target ∧ fields = Reference.stub target ∨
        owner ≠ .str target ∧ ∃ rest definition, levels = rest + 1 ∧
          Entries.get? definitions (.str target) = some definition ∧
          (rulesWithin overrides definitions limit rest).build (.str target) definition.forCopy =
            .ok fields) := by
  unfold point at h
  cases htarget : Pointer.parse? pointer with
  | none =>
    rw [htarget] at h
    cases h
  | some target =>
    rw [htarget] at h
    refine ⟨target, rfl, ?_⟩
    -- A pointer to its owner is circular; any other asks for a copy, with one level less.
    by_cases hself : owner = .str target
    · have hstub : Reference.stub target = fields := by simpa [hself] using h
      exact .inl ⟨hself, hstub.symm⟩
    · have hcopy : expansion overrides definitions limit levels owner target = .ok fields := by
        simpa [hself, rulesWithin] using h
      refine .inr ⟨hself, ?_⟩
      cases hdefinition : Entries.get? definitions (.str target) with
      | none =>
        rw [expansion_undefined overrides definitions limit levels owner hdefinition] at hcopy
        cases hcopy
      | some definition =>
        cases levels with
        | zero =>
          rw [expansion_zero overrides definitions limit owner hdefinition] at hcopy
          cases hcopy
        | succ rest =>
          rw [expansion_succ overrides definitions limit rest owner hdefinition] at hcopy
          exact ⟨rest, definition, rfl, rfl, hcopy⟩

variable {rules}

/-- A property without overrides is its own shape, marked if it is required. -/
theorem buildProperty_of_plain {required : Bool} {key : String} {compiled : Compiled}
    (hnode : node.All Node.IsPlain)
    (h : rules.buildProperty owner required key node = .ok compiled) :
    ∃ plain, rules.buildPlain owner key node = .ok plain ∧
      compiled = markRequired required plain := by
  rw [buildProperty, hnode.hasItemOverride, Outcome.mapError_eq_ok_iff,
    if_neg Bool.false_ne_true] at h
  obtain ⟨plain, hplain, h⟩ := Outcome.bind_eq_ok_iff.mp h
  rw [withOverride, hnode.self.1, Option.isSome_none, if_neg Bool.false_ne_true] at h
  exact ⟨plain, hplain, (Except.ok.inj h).symm⟩

/-- Where no property is named `type`, the fields of an object are no single field. -/
theorem isField_of_untyped {required : List String} {properties : List (String × Node)}
    {fields : Entries Value} (htype : ∀ property ∈ properties, property.1 ≠ "type")
    (h : rules.buildProperties owner required properties = .ok fields) :
      isField fields = false := by
  have hnone : Node.typeForm properties = .dropped := by
    rw [Node.typeForm, List.find?_eq_none.mpr]
    · rfl
    · intro property hmem
      simp [htype property hmem]
  rw [isField_of_buildProperties h, hnone]
  rfl

end BuildRules

/-! ## 3. What a source leads to -/

namespace Source

/-- What is compiled next, on behalf of a source: one step further down in the nodes, or over to a
definition that a pointer asks for a copy of. A source comes with the levels of copies that it has
left. A definition that is an array is looked into only if its type is a simple one, which `array`
is. -/
inductive Leads (definitions : Definitions) : Nat × Source → Nat × Source → Prop
  | object {levels : Nat} {owner : Scalar} {facts : Facts} {properties : List (String × Node)}
    {required : List String} :
    Leads definitions (levels, .definition owner (.object facts properties required))
      (levels, .properties owner required properties)
  | array {levels : Nat} {owner : Scalar} {facts : Facts} {items : Node}
    (hp : items.ownPointer? = none) (hsimple : isSimpleType (entry facts.raw "type") = true) :
    Leads definitions (levels, .definition owner (.array facts items)) (levels, .items owner items)
  | pointer {levels : Nat} {owner : Scalar} {node : Node} {p : String}
    (hp : node.pointer? = some p) :
    Leads definitions (levels, .definition owner node) (levels, .pointer owner p)
  | itemArray {levels : Nat} {owner : Scalar} {facts : Facts} {items : Node} :
    Leads definitions (levels, .items owner (.array facts items)) (levels, .items owner items)
  | itemObject {levels : Nat} {owner : Scalar} {facts : Facts} {properties : List (String × Node)}
    {required : List String} :
    Leads definitions (levels, .items owner (.object facts properties required))
      (levels, .properties owner required properties)
  | property {levels : Nat} {owner : Scalar} {properties : List (String × Node)}
    {required : List String} {key : String} {node : Node} (hmem : (key, node) ∈ properties)
    (hk : reservedNames.contains key = false) :
    Leads definitions (levels, .properties owner required properties)
      (levels, .property owner (required.contains key) key node)
  | propertyObject {levels : Nat} {owner : Scalar} {marked : Bool} {key : String} {facts : Facts}
    {properties : List (String × Node)} {required : List String} :
    Leads definitions (levels, .property owner marked key (.object facts properties required))
      (levels, .properties (.str key) required properties)
  | propertyArray {levels : Nat} {owner : Scalar} {marked : Bool} {key : String} {facts : Facts}
    {items : Node} (hp : items.ownPointer? = none) :
    Leads definitions (levels, .property owner marked key (.array facts items))
      (levels, .items (.str key) items)
  | propertyPointer {levels : Nat} {owner : Scalar} {marked : Bool} {key : String} {node : Node}
    {p : String} (hp : node.pointer? = some p) :
    Leads definitions (levels, .property owner marked key node) (levels, .pointer owner p)
  | copy {levels : Nat} {owner : Scalar} {p target : String} {definition : Node}
    (htarget : Pointer.parse? p = some target) (howner : owner ≠ .str target)
    (hdefinition : Entries.get? definitions (.str target) = some definition) :
    Leads definitions (levels + 1, .pointer owner p)
      (levels, .definition (.str target) definition.forCopy)

/-- All nodes of a source are of a kind. The properties of an object belong to a node that is. -/
def All (P : Node → Prop) : Source → Prop
  | .definition _ node | .items _ node | .property _ _ _ node => node.All P
  | .properties _ required list => ∃ facts, (Node.object facts list required).All P
  | .pointer _ _ => True

/-- What a source leads to is of the same kind, if all definitions are, copies included. -/
theorem All.of_leads {definitions : Definitions} {P : Node → Prop} {s t : Nat × Source}
    (hs : s.2.All P) (hP : ∀ node : Node, P node → P node.forCopy)
    (hdefinitions : ∀ d ∈ definitions, d.2.All P) (h : Leads definitions s t) : t.2.All P := by
  cases h with
  | object => exact ⟨_, hs⟩
  | array _ _ => exact Node.All.of_array hs
  | pointer _ => trivial
  | itemArray => exact Node.All.of_array hs
  | itemObject => exact ⟨_, hs⟩
  | property hmem _ =>
    obtain ⟨facts, hobject⟩ := hs
    exact hobject.of_object hmem
  | propertyObject => exact ⟨_, hs⟩
  | propertyArray _ => exact Node.All.of_array hs
  | propertyPointer _ => trivial
  | copy _ _ hdefinition =>
    have hmem := Entries.mem_of_get?_str hdefinition
    have hall := hdefinitions _ hmem
    exact hall.forCopy hP

/-- What holds of all definitions and of a source holds of whatever the source leads to. -/
theorem All.of_reaches {definitions : Definitions} {P : Node → Prop}
    (hP : ∀ node : Node, P node → P node.forCopy) (hdefinitions : ∀ d ∈ definitions, d.2.All P)
    {s t : Nat × Source} (h : Relation.ReflTransGen (Leads definitions) s t) (hs : s.2.All P) :
    t.2.All P := by
  induction h with
  | refl => exact hs
  | tail _ hstep ih => exact ih.of_leads hP hdefinitions hstep

end Source

/-! ## 4. Parts of values -/

namespace Value

/-- A value at a compiled position of another: the whole, an item of a list, the type of a single
field, or the entry of an object, at any depth. -/
inductive Part (v : Value) : Value → Prop
  | whole : Part v v
  | item {items : List Value} {w : Value} (hmem : w ∈ items) (h : Part v w) : Part v (.list items)
  | type {fields : Entries Value} {w : Value} (hfield : ApiStore.isField fields = true)
    (hget : Entries.get? fields (.str "type") = some w) (h : Part v w) : Part v (.map fields)
  | entry {fields : Entries Value} {key : Scalar} {w : Value}
    (hfield : ApiStore.isField fields = false) (hmem : (key, w) ∈ fields) (h : Part v w) :
    Part v (.map fields)

/-- A part of a part is a part. -/
theorem Part.trans {u v w : Value} (huv : Part u v) (hvw : Part v w) : Part u w := by
  induction hvw with
  | whole => exact huv
  | item hmem _ ih => exact .item hmem ih
  | type hfield hget _ ih => exact .type hfield hget ih
  | entry hfield hmem _ ih => exact .entry hfield hmem ih

end Value

end ApiStore
