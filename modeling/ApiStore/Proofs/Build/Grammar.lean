import ApiStore.Proofs.Build.Source
import ApiStore.Proofs.Schemas
import ApiStore.Store
/-
`Grammar.lean` -- the grammar of compiled values.

What plain definitions compile to has few forms. A single field has a type, perhaps a default,
and perhaps the mark of a required property. A type is one of four scalar types or a list of one
thing, which is a type again or the fields of an object; only a definition that is an array of
pointers has a list of what the pointer leads to. A pointer leads to a stub or to a copy of a
definition, and the entries of an object stand under the names of its properties. `Generates` is
that grammar, with one rule for each way in which a source can be compiled, so a derivation
follows the document and goes over to another definition where a pointer does.

**Two steps.** Whatever a source compiles to is generated (`generates_build`, by induction on
the node, and on the levels of copies where a pointer is followed). And whatever is generated
is well made at every position (`Generates.wellMade`), which is an induction on derivations and
no longer asks how the value was computed.
-/
set_option autoImplicit false

namespace ApiStore

/-! ## 1. The grammar -/

/-- The mark of a required field. -/
def requiredMark (required : Bool) : Entries Value :=
  if required then [(.str "required", .bool true)] else []

/-- A single field: its type, its default if that says anything, and its mark. -/
def singleField (type default : Value) (required : Bool) : Entries Value :=
  [(.str "type", type)] ++ (if default.isTruthy then [(.str "default", default)] else []) ++
    requiredMark required

/-- What a pointer leads to, as a property: marked if it is required and a single field. -/
def pointedField (required : Bool) (fields : Entries Value) : Entries Value :=
  fields ++ requiredMark (required && isField fields)

/-- Whether a definition says nothing that could be compiled: it has no type, or none that is
simple. -/
def Node.saysNothing : Node → Bool
  | .any _ => true
  | .primitive facts _ _ => !isSimpleType (entry facts.raw "type")
  | .array facts items => items.ownPointer?.isNone && !isSimpleType (entry facts.raw "type")
  | .object _ _ _ | .reference _ _ => false

/-- The grammar of compiled values, along the sources that they are compiled from. -/
inductive Generates (definitions : Definitions) : Source → Value → Prop
  -- A definition: the fields of an object, a single field, what a pointer leads to, or nothing.
  | object {owner : Scalar} {facts : Facts} {properties : List (String × Node)}
    {required : List String} {v : Value}
    (h : Generates definitions (.properties owner required properties) v) :
    Generates definitions (.definition owner (.object facts properties required)) v
  | leaf {owner : Scalar} {facts : Facts} {type : String} {format : Option String} {t : StorageType}
    (ht : t ∈ leafTypes) :
    Generates definitions (.definition owner (.primitive facts type format))
      (.map (BuildRules.typed t.toValue))
  | array {owner : Scalar} {facts : Facts} {items : Node} {t : Value}
    (h : Generates definitions (.items owner items) t) :
    Generates definitions (.definition owner (.array facts items))
      (.map (BuildRules.typed (.list [t])))
  | pointers {owner : Scalar} {facts : Facts} {items : Node} {p : String} {v : Value}
    (hp : items.ownPointer? = some p) (h : Generates definitions (.pointer owner p) v) :
    Generates definitions (.definition owner (.array facts items))
      (.map (BuildRules.typed (.list [v])))
  | reference {owner : Scalar} {facts : Facts} {p : String} {v : Value}
    (h : Generates definitions (.pointer owner p) v) :
    Generates definitions (.definition owner (.reference facts p)) v
  | nothing {owner : Scalar} {node : Node} (h : node.saysNothing = true) :
    Generates definitions (.definition owner node) (.map [])
  -- The items of an array: a scalar type, a list again, or the fields of an object.
  | itemLeaf {owner : Scalar} {facts : Facts} {type : String} {format : Option String}
    {t : StorageType} (ht : t ∈ leafTypes) :
    Generates definitions (.items owner (.primitive facts type format)) t.toValue
  | itemArray {owner : Scalar} {facts : Facts} {items : Node} {t : Value}
    (h : Generates definitions (.items owner items) t) :
    Generates definitions (.items owner (.array facts items)) (.list [t])
  | itemObject {owner : Scalar} {facts : Facts} {properties : List (String × Node)}
    {required : List String} {v : Value}
    (h : Generates definitions (.properties owner required properties) v) :
    Generates definitions (.items owner (.object facts properties required)) v
  -- A pointer: a stub for the target itself, a copy for any other owner.
  | stub {owner : Scalar} {p target : String} (htarget : Pointer.parse? p = some target)
    (howner : owner = .str target) :
    Generates definitions (.pointer owner p) (.map (Reference.stub target))
  | copy {owner : Scalar} {p target : String} {definition : Node} {v : Value}
    (htarget : Pointer.parse? p = some target) (howner : owner ≠ .str target)
    (hdefinition : Entries.get? definitions (.str target) = some definition)
    (h : Generates definitions (.definition (.str target) definition.forCopy) v) :
    Generates definitions (.pointer owner p) v
  -- A property: a single field, the fields of an object, or what a pointer leads to; a list of the
  -- latter for an array.
  | propertyLeaf {owner : Scalar} {required : Bool} {key : String} {facts : Facts} {type : String}
    {format : Option String} {t : StorageType} (ht : t ∈ leafTypes) :
    Generates definitions (.property owner required key (.primitive facts type format))
      (.map (singleField t.toValue facts.default required))
  | propertyArray {owner : Scalar} {required : Bool} {key : String} {facts : Facts} {items : Node}
    {t : Value} (hp : items.ownPointer? = none)
    (h : Generates definitions (.items (.str key) items) t) :
    Generates definitions (.property owner required key (.array facts items))
      (.map (singleField (.list [t]) facts.default required))
  | propertyPointers {owner : Scalar} {required : Bool} {key : String} {facts : Facts}
    {items : Node} {p : String} {v : Value} (hp : items.ownPointer? = some p)
    (h : Generates definitions (.pointer owner p) v) :
    Generates definitions (.property owner required key (.array facts items)) (.list [v])
  | propertyObject {owner : Scalar} {required : Bool} {key : String} {facts : Facts}
    {properties : List (String × Node)} {names : List String} {v : Value}
    (h : Generates definitions (.properties (.str key) names properties) v) :
    Generates definitions (.property owner required key (.object facts properties names)) v
  | propertyReference {owner : Scalar} {required : Bool} {key : String} {facts : Facts} {p : String}
    {fields : Entries Value} (h : Generates definitions (.pointer owner p) (.map fields)) :
    Generates definitions (.property owner required key (.reference facts p))
      (.map (pointedField required fields))
  -- The properties of an object: one entry for each, without those that are reserved or have no
  -- type.
  | nil {owner : Scalar} {required : List String} :
    Generates definitions (.properties owner required []) (.map [])
  | reserved {owner : Scalar} {required : List String} {key : String} {node : Node}
    {rest : List (String × Node)} {v : Value} (hk : reservedNames.contains key = true)
    (h : Generates definitions (.properties owner required rest) v) :
    Generates definitions (.properties owner required ((key, node) :: rest)) v
  | dropped {owner : Scalar} {required : List String} {key : String} {facts : Facts}
    {rest : List (String × Node)} {v : Value}
    (h : Generates definitions (.properties owner required rest) v) :
    Generates definitions (.properties owner required ((key, .any facts) :: rest)) v
  | entry {owner : Scalar} {required : List String} {key : String} {node : Node}
    {rest : List (String × Node)} {v : Value} {fields : Entries Value}
    (hk : reservedNames.contains key = false)
    (hentry : Generates definitions (.property owner (required.contains key) key node) v)
    (h : Generates definitions (.properties owner required rest) (.map fields)) :
    Generates definitions (.properties owner required ((key, node) :: rest))
      (.map ((.str key, v) :: fields))

/-! ## 2. Forms of what is generated -/

/-- A type: one of the four scalar types, or a list of one thing. -/
def IsType (type : Value) : Prop :=
  (∃ t ∈ leafTypes, type = t.toValue) ∨ ∃ item, type = .list [item]

/-- A single field of a definition: nothing but a type, or a stub. -/
def IsBareField (fields : Entries Value) : Prop :=
  (∃ type, IsType type ∧ fields = BuildRules.typed type) ∨ ∃ target, fields = Reference.stub target

/-- What begins with a type is a single field. -/
theorem IsType.isField {type : Value} (h : IsType type) (rest : Entries Value) :
    isField ((.str "type", type) :: rest) = true := by
  rcases h with ⟨t, -, rfl⟩ | ⟨item, rfl⟩ <;> rfl

/-- The keys of a table are names of properties, and not reserved. -/
def Entries.NamedBy (fields : Entries Value) (properties : List (String × Node)) : Prop :=
  ∀ key ∈ fields.keys, ∃ property ∈ properties, key = .str property.1 ∧
    reservedNames.contains property.1 = false

/-- What a source of each kind can generate, as a form. -/
def Source.Form : Source → Value → Prop
  | .definition _ _, v | .pointer _ _, v =>
    ∃ fields, v = .map fields ∧ (isField fields = true → IsBareField fields)
  | .properties _ _ list, v => ∃ fields, v = .map fields ∧ Entries.NamedBy fields list
  | .items _ _, _ | .property _ _ _ _, _ => True

section Forms

variable {definitions : Definitions} {source : Source} {v : Value} {fields : Entries Value}

/-- Without a property named `type`, the keys of an object are not those of a single field. -/
theorem Entries.NamedBy.isField {properties : List (String × Node)} (h : fields.NamedBy properties)
    (htype : ∀ property ∈ properties, property.1 ≠ "type") : isField fields = false := by
  have hnone : Entries.get? fields (.str "type") = none := by
    rw [Entries.get?_str_eq_none_iff]
    intro hmem
    obtain ⟨property, hproperty, hkey, -⟩ := h _ hmem
    exact htype property hproperty (Scalar.str.inj hkey).symm
  rw [ApiStore.isField, hnone]

/-- What is generated from a plain source has the form of the source. -/
theorem Generates.form (hdefinitions : definitions.Plain) (h : Generates definitions source v)
    (hsource : source.All Node.IsPlain) : source.Form v := by
  -- The induction is on the derivation. Only a definition and a pointer use what is known of the
  -- rule before.
  induction h with
  | object _ ih =>
    obtain ⟨fields, rfl, hkeys⟩ := ih ⟨_, hsource⟩
    have hfield := hkeys.isField (Node.All.self hsource).2
    exact ⟨fields, rfl, fun h => absurd (hfield.symm.trans h) Bool.false_ne_true⟩
  | leaf ht => exact ⟨_, rfl, fun _ => .inl ⟨_, .inl ⟨_, ht, rfl⟩, rfl⟩⟩
  | array _ _ => exact ⟨_, rfl, fun _ => .inl ⟨_, .inr ⟨_, rfl⟩, rfl⟩⟩
  | pointers _ _ _ => exact ⟨_, rfl, fun _ => .inl ⟨_, .inr ⟨_, rfl⟩, rfl⟩⟩
  | reference _ ih => exact ih trivial
  | nothing _ => exact ⟨[], rfl, nofun⟩
  | stub _ _ => exact ⟨_, rfl, fun _ => .inr ⟨_, rfl⟩⟩
  | copy _ _ hdefinition _ ih => exact ih (hdefinitions.forCopy hdefinition)
  | nil => exact ⟨[], rfl, nofun⟩
  | reserved _ _ ih =>
    obtain ⟨facts, hobject⟩ := hsource
    obtain ⟨fields, rfl, hkeys⟩ := ih ⟨facts, hobject.tail⟩
    exact ⟨fields, rfl, fun key hkey => List.exists_mem_cons_of_exists (hkeys key hkey)⟩
  | dropped _ ih =>
    obtain ⟨facts, hobject⟩ := hsource
    obtain ⟨fields, rfl, hkeys⟩ := ih ⟨facts, hobject.tail⟩
    exact ⟨fields, rfl, fun key hkey => List.exists_mem_cons_of_exists (hkeys key hkey)⟩
  | entry hk _ _ _ ih =>
    obtain ⟨facts, hobject⟩ := hsource
    obtain ⟨_, heq, hkeys⟩ := ih ⟨facts, hobject.tail⟩
    obtain rfl := Value.map.inj heq
    refine ⟨_, rfl, fun key hkey => ?_⟩
    rcases List.mem_cons.mp hkey with rfl | hrest
    · exact ⟨_, List.mem_cons_self, rfl, hk⟩
    · exact List.exists_mem_cons_of_exists (hkeys key hrest)
  | _ => trivial

/-! ## 3. Whatever is generated is well made -/

/-- A single field: a type with what may stand next to it, or a stub that may be marked. -/
inductive SingleField : Entries Value → Prop
  | typed {type : Value} (h : IsType type) (default : Value) (required : Bool) :
    SingleField (singleField type default required)
  | stub (target : String) (required : Bool) :
    SingleField (Reference.stub target ++ requiredMark required)

/-- A value is well made, as far as its own form goes: the name of a scalar type, a list of one
thing, a single field, or a table without a type under names that are not reserved. -/
inductive Value.WellMade : Value → Prop
  | type {t : StorageType} (ht : t ∈ .objectId :: leafTypes) : WellMade t.toValue
  | marker (item : Value) : WellMade (.list [item])
  | field {fields : Entries Value} (h : SingleField fields) : WellMade (.map fields)
  | object {fields : Entries Value} (hfield : ApiStore.isField fields = false)
    (hkeys : ∀ key ∈ fields.keys, ∃ name, key = .str name ∧ reservedNames.contains name = false) :
      WellMade (.map fields)

/-- A value is well made at every compiled position. -/
def Value.WellMadeWithin (v : Value) : Prop := ∀ part, Value.Part part v → part.WellMade

namespace Value.WellMadeWithin

/-- A storage type is well made. -/
theorem type {t : StorageType} (ht : t ∈ .objectId :: leafTypes) : t.toValue.WellMadeWithin := by
  intro part hpart
  cases hpart with
  | whole => exact .type ht

/-- So is a marker around what is well made. -/
theorem marker {item : Value} (h : item.WellMadeWithin) : (Value.list [item]).WellMadeWithin := by
  intro part hpart
  cases hpart with
  | whole => exact .marker item
  | item hmem hinner =>
    obtain rfl := List.mem_singleton.mp hmem
    exact h part hinner

/-- A single field is well made if its type is. -/
theorem field {type : Value} {rest : Entries Value}
    (hform : SingleField ((.str "type", type) :: rest))
    (htype : ApiStore.isField ((.str "type", type) :: rest) = true) (h : type.WellMadeWithin) :
    (Value.map ((.str "type", type) :: rest)).WellMadeWithin := by
  intro part hpart
  cases hpart with
  | whole => exact .field hform
  | type _ hget hinner =>
    obtain rfl : type = _ := Option.some.inj hget
    exact h part hinner
  | entry hfield _ _ => exact absurd (hfield.symm.trans htype) Bool.false_ne_true

/-- So is a field map of what is well made. -/
theorem object {fields : Entries Value} {properties : List (String × Node)}
    (hkeys : fields.NamedBy properties) (hfield : ApiStore.isField fields = false)
    (h : ∀ e ∈ fields, e.2.WellMadeWithin) :
    (Value.map fields).WellMadeWithin := by
  intro part hpart
  cases hpart with
  | whole =>
    refine .object hfield fun key hkey => ?_
    obtain ⟨property, -, hname, hreserved⟩ := hkeys key hkey
    exact ⟨property.1, hname, hreserved⟩
  | type htype _ _ => exact absurd (hfield.symm.trans htype) Bool.false_ne_true
  | entry _ hmem hinner => exact h _ hmem part hinner

/-- So is the empty field map. -/
theorem empty : (Value.map []).WellMadeWithin := by
  have hkeys : Entries.NamedBy [] [] := nofun
  exact object hkeys rfl nofun

/-- What stands in a well made value is well made within. -/
theorem part {v w : Value} (h : v.WellMadeWithin) (hw : Value.Part w v) : w.WellMadeWithin :=
  fun part hpart => h part (hpart.trans hw)

end Value.WellMadeWithin

/-- So is a single field of a type, with any default and mark. -/
theorem singleField_wellMadeWithin {type : Value} (htype : IsType type) (h : type.WellMadeWithin)
    (default : Value) (required : Bool) :
    (Value.map (singleField type default required)).WellMadeWithin :=
  .field (.typed htype default required) (htype.isField _) h

/-- So is a type by itself. -/
theorem typed_wellMadeWithin {type : Value} (htype : IsType type) (h : type.WellMadeWithin) :
    (Value.map (BuildRules.typed type)).WellMadeWithin :=
      singleField_wellMadeWithin htype h .null false

/-- So is the stub of a circular pointer. -/
theorem stub_wellMadeWithin (target : String) (required : Bool) :
    (Value.map (Reference.stub target ++ requiredMark required)).WellMadeWithin :=
  .field (.stub target required) rfl (.type List.mem_cons_self)

/-- The mark of a required property changes nothing about what a pointer leads to being well
made. -/
theorem pointedField_wellMadeWithin {fields : Entries Value}
    (hbare : isField fields = true → IsBareField fields) (h : (Value.map fields).WellMadeWithin)
    (required : Bool) :
    (Value.map (pointedField required fields)).WellMadeWithin := by
  cases hmark : required && isField fields with
  | false =>
    rw [pointedField, hmark, requiredMark, if_neg Bool.false_ne_true, List.append_nil]
    exact h
  | true =>
    obtain ⟨-, hfield⟩ := Bool.and_eq_true_iff.mp hmark
    rw [pointedField, hmark]
    rcases hbare hfield with ⟨type, htype, rfl⟩ | ⟨target, rfl⟩
    · have hinner : type.WellMadeWithin := h.part (.type hfield rfl .whole)
      exact singleField_wellMadeWithin htype hinner .null true
    · exact stub_wellMadeWithin target true

/-- **Whatever is generated from plain definitions is well made**, at every compiled position. -/
theorem Generates.wellMade (hdefinitions : definitions.Plain) (h : Generates definitions source v)
    (hsource : source.All Node.IsPlain) : v.WellMadeWithin := by
  have hleaf : ∀ {t : StorageType}, t ∈ leafTypes → t.toValue.WellMadeWithin ∧ IsType t.toValue :=
    fun ht => ⟨.type (List.mem_cons_of_mem _ ht), .inl ⟨_, ht, rfl⟩⟩
  induction h with
  | object _ ih => exact ih ⟨_, hsource⟩
  | leaf ht => exact typed_wellMadeWithin (hleaf ht).2 (hleaf ht).1
  | array _ ih =>
    exact typed_wellMadeWithin (.inr ⟨_, rfl⟩) (.marker (ih (Node.All.of_array hsource)))
  | pointers _ _ ih => exact typed_wellMadeWithin (.inr ⟨_, rfl⟩) (.marker (ih trivial))
  | reference _ ih => exact ih trivial
  | nothing _ => exact .empty
  | itemLeaf ht => exact (hleaf ht).1
  | itemArray _ ih => exact .marker (ih (Node.All.of_array hsource))
  | itemObject _ ih => exact ih ⟨_, hsource⟩
  | stub _ _ => exact stub_wellMadeWithin _ false
  | copy _ _ hdefinition _ ih => exact ih (hdefinitions.forCopy hdefinition)
  | propertyLeaf ht => exact singleField_wellMadeWithin (hleaf ht).2 (hleaf ht).1 _ _
  | propertyArray _ _ ih =>
    exact singleField_wellMadeWithin (.inr ⟨_, rfl⟩) (.marker (ih (Node.All.of_array hsource))) _ _
  | propertyPointers _ _ ih => exact .marker (ih trivial)
  | propertyObject _ ih => exact ih ⟨_, hsource⟩
  | propertyReference hpointer ih =>
    obtain ⟨_, heq, hbare⟩ := hpointer.form hdefinitions trivial
    obtain rfl := Value.map.inj heq
    exact pointedField_wellMadeWithin hbare (ih trivial) _
  | nil => exact .empty
  | reserved _ _ ih =>
    obtain ⟨facts, hobject⟩ := hsource
    exact ih ⟨facts, hobject.tail⟩
  | dropped _ ih =>
    obtain ⟨facts, hobject⟩ := hsource
    exact ih ⟨facts, hobject.tail⟩
  | entry hk hentry hrest ihentry ih =>
    -- Only the form of the whole tells that the fields have the names of properties, and so are no
    -- single field.
    have hform := (Generates.entry hk hentry hrest).form hdefinitions hsource
    obtain ⟨facts, hobject⟩ := hsource
    obtain ⟨_, heq, hkeys⟩ := hform
    obtain rfl := Value.map.inj heq
    obtain ⟨_, hother, hothers⟩ := hrest.form hdefinitions ⟨facts, hobject.tail⟩
    obtain rfl := Value.map.inj hother
    have hrestfield := hothers.isField hobject.tail.self.2
    refine .object hkeys (hkeys.isField hobject.self.2)
      (List.forall_mem_cons.mpr ⟨?_, fun e he => ?_⟩)
    · exact ihentry (hobject.of_object List.mem_cons_self)
    · exact (ih ⟨facts, hobject.tail⟩).part (.entry hrestfield he .whole)

end Forms

/-! ## 4. Whatever is compiled is generated -/

section Compiled

open BuildRules

variable {rules : BuildRules} {definitions : Definitions} {owner : Scalar} {fields : Entries Value}
  {required : Bool}

/-- A single field, marked if it is required. -/
theorem markRequired_withDefault {type : Value} (htype : IsType type) (default : Value) :
    markRequired required (.table (withDefault default (typed type))) = .table
      (singleField type default required) := by
  have hfield : ∀ rest, isField ((.str "type", type) :: rest) = true := htype.isField
  unfold markRequired withDefault singleField requiredMark typed
  cases default.isTruthy with
  | true => cases required <;> simp [Entries.insert, hfield, Scalar.sameKey_str_str]
  | false => cases required <;> simp [Entries.insert, hfield, Scalar.sameKey_str_str]

/-- What a pointer leads to, marked if it is required. -/
theorem markRequired_pointed (required : Bool)
    (hbare : isField fields = true → IsBareField fields) :
    markRequired required (.table fields) = .table (pointedField required fields) := by
  rw [markRequired, pointedField]
  cases hmark : required && isField fields with
  | false =>
    rw [if_neg Bool.false_ne_true, requiredMark, if_neg Bool.false_ne_true, List.append_nil]
  | true =>
    obtain ⟨-, hfield⟩ := Bool.and_eq_true_iff.mp hmark
    have hunmarked : .str "required" ∉ Entries.keys fields := by
      rcases hbare hfield with ⟨type, -, rfl⟩ | ⟨target, rfl⟩
      · simp [typed, Entries.keys]
      · simp [Reference.stub, Entries.keys]
    rw [if_pos rfl, Entries.insert_of_not_mem_keys hunmarked]
    rfl

/-- What a pointer leads to is generated. -/
def PointersGenerated (rules : BuildRules) (definitions : Definitions) : Prop :=
  ∀ owner pointer fields, rules.point owner pointer = .ok fields →
    Generates definitions (.pointer owner pointer) (.map fields)

/-- What a node compiles to is generated, as the items of an array and as a property that is not
dropped. -/
structure Node.Generated (rules : BuildRules) (definitions : Definitions) (node : Node) : Prop where
  items : ∀ owner v, rules.itemType owner node = .ok v → Generates definitions (.items owner node) v
  property : ∀ owner required key compiled, rules.buildProperty owner required key node =
    .ok compiled →
    compiled.form ≠ .dropped → Generates definitions
      (.property owner required key node) compiled.toValue

/-- Only a node without a type is dropped. -/
theorem Node.exists_any_of_form {node : Node} (h : node.form = .dropped) :
    ∃ facts, node = .any facts := by
  rw [Node.form] at h
  split at h
  · cases h
  · split at h
    · cases h
    · cases node with
      | any facts => exact ⟨facts, rfl⟩
      | array facts items =>
        rw [Node.plainForm] at h
        split at h <;> exact absurd h (by decide)
      | _ => cases h

/-- The fields of an object are generated if its properties are. -/
theorem generates_properties {names : List String} {properties : List (String × Node)}
    (hproperties : ∀ property ∈ properties, property.2.Generated rules definitions)
    (hplain : ∀ property ∈ properties, property.2.All Node.IsPlain)
    (h : rules.buildProperties owner names properties = .ok fields) :
    Generates definitions (.properties owner names properties) (.map fields) := by
  induction properties generalizing fields with
  | nil =>
    obtain rfl := Except.ok.inj h
    exact .nil
  | cons property rest ih =>
    obtain ⟨key, node⟩ := property
    obtain ⟨hnode, hrest⟩ := List.forall_mem_cons.mp hproperties
    obtain ⟨hself, hothers⟩ := List.forall_mem_cons.mp hplain
    cases hk : reservedNames.contains key with
    | true =>
      rw [rules.buildProperties_cons_reserved owner names node rest hk] at h
      exact .reserved hk (ih hrest hothers h)
    | false =>
      rw [rules.buildProperties_cons owner names node rest hk, Outcome.bind_eq_ok_iff] at h
      obtain ⟨compiled, hcompiled, h⟩ := h
      obtain ⟨others, hrestfields, rfl⟩ := Outcome.map_eq_ok_iff.mp h
      have htail := ih hrest hothers hrestfields
      -- Whether a property leaves an entry depends on what it compiled to.
      by_cases hform : compiled.form = .dropped
      · have hnone : compiled.entries key = [] := by
          cases compiled with
          | dropped => rfl
          | _ => cases hform
        obtain ⟨facts, rfl⟩ := Node.exists_any_of_form
          ((buildProperty_form hcompiled).symm.trans hform)
        rw [hnone]
        exact .dropped htail
      · have hentry := hnode.property owner _ key compiled hcompiled hform
        have hentries : compiled.entries key = [(.str key, compiled.toValue)] := by
          cases compiled with
          | dropped => exact absurd rfl hform
          | _ => rfl
        rw [hentries]
        exact .entry hk hentry htail

section Nodes

variable (hdefinitions : definitions.Plain) (hpoint : PointersGenerated rules definitions)
include hdefinitions hpoint

/-- A single field that a pointer leads to has nothing but a type, or is a stub. -/
theorem isBareField_of_point {pointer : String} (h : rules.point owner pointer = .ok fields) :
    isField fields = true → IsBareField fields := by
  obtain ⟨_, heq, hbare⟩ := (hpoint owner pointer fields h).form hdefinitions trivial
  obtain rfl := Value.map.inj heq
  exact hbare

/-- What a plain node compiles to is generated. The induction is on the node; where a pointer is
followed it stops. -/
theorem node_generated (node : Node) (hplain : node.All Node.IsPlain) :
    node.Generated rules definitions := by
  -- A node is generated in two roles, as an item and as a property. An object needs both of its
  -- properties, so the induction carries them together.
  induction node using Node.induction with
  | primitive facts type format =>
    constructor
    · intro owner v h
      obtain ⟨t, ht, rfl⟩ := Outcome.map_eq_ok_iff.mp (show (storageType _ _ _).map _ = .ok v from
        h)
      exact .itemLeaf (storageType_mem_leafTypes ht)
    · intro owner required key compiled h _
      obtain ⟨plain, hshape, rfl⟩ := buildProperty_of_plain hplain h
      obtain ⟨type, htype, rfl⟩ := Outcome.map_eq_ok_iff.mp hshape
      obtain ⟨t, ht, rfl⟩ := Outcome.map_eq_ok_iff.mp
        (show (storageType _ _ _).map _ = .ok type from htype)
      have hmem := storageType_mem_leafTypes ht
      rw [markRequired_withDefault (.inl ⟨t, hmem, rfl⟩)]
      exact .propertyLeaf hmem
  | array facts items ih =>
    have hitems := ih hplain.of_array
    constructor
    · intro owner v h
      obtain ⟨t, ht, rfl⟩ := Outcome.map_eq_ok_iff.mp h
      exact .itemArray (hitems.items owner t ht)
    · intro owner required key compiled h _
      obtain ⟨plain, hshape, rfl⟩ := buildProperty_of_plain hplain h
      cases hp : items.ownPointer? with
      | some p =>
        have hpointer : (Node.array facts items).pointer? = some p := hp
        rw [rules.buildPlain_eq_point key hpointer] at hshape
        obtain ⟨fields, hfields, rfl⟩ := Outcome.map_eq_ok_iff.mp hshape
        exact .propertyPointers hp (hpoint owner p fields hfields)
      | none =>
        rw [buildPlain, hp, Option.isSome_none, if_neg Bool.false_ne_true] at hshape
        obtain ⟨t, ht, rfl⟩ := Outcome.map_eq_ok_iff.mp hshape
        rw [markRequired_withDefault (.inr ⟨t, rfl⟩)]
        exact .propertyArray hp (hitems.items _ t ht)
  | object facts properties names ih =>
    have hall : ∀ property ∈ properties, property.2.All Node.IsPlain :=
      fun property hmem => hplain.of_object hmem
    have hproperties : ∀ property ∈ properties, property.2.Generated rules definitions :=
      fun property hmem => ih property hmem (hall property hmem)
    constructor
    · intro owner v h
      obtain ⟨fields, hfields, rfl⟩ := Outcome.map_eq_ok_iff.mp h
      exact .itemObject (generates_properties hproperties hall hfields)
    · intro owner required key compiled h _
      obtain ⟨plain, hshape, rfl⟩ := buildProperty_of_plain hplain h
      obtain ⟨fields, hfields, rfl⟩ := Outcome.map_eq_ok_iff.mp hshape
      have hunmarked : markRequired required (.table fields) = .table fields := by
        rw [markRequired, isField_of_untyped hplain.self.2 hfields, Bool.and_false,
          if_neg Bool.false_ne_true]
      rw [hunmarked]
      exact .propertyObject (generates_properties hproperties hall hfields)
  | reference facts p =>
    constructor
    · intro owner v h
      cases h
    · intro owner required key compiled h _
      obtain ⟨plain, hshape, rfl⟩ := buildProperty_of_plain hplain h
      rw [rules.buildPlain_eq_point key rfl] at hshape
      obtain ⟨fields, hfields, rfl⟩ := Outcome.map_eq_ok_iff.mp hshape
      have hmarked := markRequired_pointed required
        (isBareField_of_point hdefinitions hpoint hfields)
      rw [show Compiled.ofTable _ fields = .table fields from rfl, hmarked]
      exact .propertyReference (hpoint owner p fields hfields)
  | any facts =>
    constructor
    · intro owner v h
      cases h
    · intro owner required key compiled h hform
      -- Nothing is generated from a node that says nothing: as a property it is dropped.
      have hdropped : compiled.form = (Node.any facts).form := buildProperty_form h
      rw [Node.form, hplain.hasItemOverride, hplain.self.1] at hdropped
      exact absurd hdropped hform

/-- So is what it compiles to as a definition. -/
theorem generates_build {node : Node} (hplain : node.All Node.IsPlain)
    (h : rules.build owner node = .ok fields) :
    Generates definitions (.definition owner node) (.map fields) := by
  -- A definition is compiled by its own rules; only what stands in it has one of the two roles.
  have hgenerated : ∀ part : Node, part.All Node.IsPlain → part.Generated rules definitions :=
    node_generated hdefinitions hpoint
  cases node with
  | object facts properties names =>
    rw [build] at h
    have hall : ∀ property ∈ properties, property.2.All Node.IsPlain :=
      fun property hmem => hplain.of_object hmem
    exact .object (generates_properties
      (fun property hmem => hgenerated _ (hall property hmem)) hall h)
  | array facts items =>
    cases hp : items.ownPointer? with
    | some p =>
      have hpointer : (Node.array facts items).pointer? = some p := hp
      rw [rules.build_eq_point hpointer] at h
      obtain ⟨inner, hinner, rfl⟩ := Outcome.map_eq_ok_iff.mp h
      exact .pointers hp (hpoint owner p inner hinner)
    | none =>
      rw [build, hp, Option.isSome_none, if_neg Bool.false_ne_true] at h
      cases hsimple : isSimpleType (entry facts.raw "type") with
      | true =>
        rw [hsimple, if_pos rfl] at h
        obtain ⟨t, ht, rfl⟩ := Outcome.map_eq_ok_iff.mp h
        exact .array ((hgenerated items hplain.of_array).items owner t ht)
      | false =>
        rw [hsimple, if_neg Bool.false_ne_true] at h
        rw [← Except.ok.inj h]
        exact .nothing (by rw [Node.saysNothing, hp, hsimple]; rfl)
  | primitive facts type format =>
    rw [build] at h
    cases hsimple : isSimpleType (entry facts.raw "type") with
    | true =>
      rw [hsimple, if_pos rfl] at h
      obtain ⟨leaf, hleaf, rfl⟩ := Outcome.map_eq_ok_iff.mp h
      obtain ⟨t, ht, rfl⟩ := Outcome.map_eq_ok_iff.mp
        (show (storageType _ _ _).map _ = .ok leaf from hleaf)
      exact .leaf (storageType_mem_leafTypes ht)
    | false =>
      rw [hsimple, if_neg Bool.false_ne_true] at h
      rw [← Except.ok.inj h]
      exact .nothing (by rw [Node.saysNothing, hsimple]; rfl)
  | reference facts p =>
    rw [rules.build_eq_point rfl] at h
    obtain ⟨inner, hinner, rfl⟩ := Outcome.map_eq_ok_iff.mp h
    exact .reference (hpoint owner p inner hinner)
  | any facts =>
    rw [← Except.ok.inj h]
    exact .nothing rfl

end Nodes

/-- Pointers are generated on every level of copies. -/
theorem pointersGenerated (hdefinitions : definitions.Plain) (overrides : OverrideRules)
    (limit : Int) (levels : Nat) :
    PointersGenerated (rulesWithin overrides definitions limit levels) definitions := by
  -- A copy has one level less, so the induction is on the levels.
  induction levels with
  | zero =>
    intro owner pointer fields h
    obtain ⟨target, htarget, ⟨howner, rfl⟩ | ⟨-, rest, _, hlevels, -⟩⟩ := point_cases h
    · exact .stub htarget howner
    · cases hlevels
  | succ levels ih =>
    intro owner pointer fields h
    obtain ⟨target, htarget, ⟨howner, rfl⟩ |
      ⟨howner, rest, definition, hlevels, hdefinition, hbuild⟩⟩ := point_cases h
    · exact .stub htarget howner
    · obtain rfl : rest = levels := (Nat.succ.inj hlevels).symm
      exact .copy htarget howner hdefinition
        (generates_build hdefinitions ih (hdefinitions.forCopy hdefinition) hbuild)

end Compiled

/-! ## 5. Schemas -/

/-- **Compiled values are well formed.** In the schemas of a document that compiles, if its
definitions are plain, the fields are generated by the grammar from the definition of that name, and
they are well made at every compiled position. -/
theorem schemas_generated {config : Config} {spec : Value} {schemas : Entries Schema}
    (h : Store.compileSpec config spec = .ok schemas) :
    ∃ c definitions, Compiler.ofConfig config = .ok c ∧ c.extract spec = .ok definitions ∧
      (definitions.Plain → ∀ s ∈ schemas, ∃ node, Entries.get? definitions s.1 = some node ∧
        Generates definitions (.definition s.1 node) (.map s.2.fields) ∧
        ∀ part, Value.Part part (.map s.2.fields) → part.WellMade) := by
  obtain ⟨c, hc, h⟩ := Outcome.bind_eq_ok_iff.mp h
  obtain ⟨definitions, hread, h⟩ := Outcome.bind_eq_ok_iff.mp h
  refine ⟨c, definitions, Outcome.mapError_eq_ok_iff.mp hc, hread, fun hdefinitions s hs => ?_⟩
  obtain ⟨node, hnode, hfields⟩ := Compiler.exists_definition_of_mem h hs
  obtain ⟨key, hkey⟩ := Entries.exists_mem_of_get? hnode
  have hplain : node.All Node.IsPlain := hdefinitions _ hkey
  have hgenerates := generates_build hdefinitions
    (pointersGenerated hdefinitions c.overrides _ _) hplain hfields
  exact ⟨node, hnode, hgenerates, hgenerates.wellMade hdefinitions hplain⟩

namespace Sample

/-- Books with what may stand in a definition, their authors, and a shelf, which is an array of
books. -/
def bookshop : Value := .object [("definitions", .object [
  ("Book", .object [("type", .str "object"), ("required", .list [.str "title", .str "author"]),
    ("properties", .object [
    ("title", .object [("type", .str "string"), ("default", .str "untitled")]),
    ("chapters", .object [("type", .str "array"), ("items", .object [("type", .str "object"),
      ("properties", .object [("pages", .object [("type", .str "integer")])])])]),
    ("author", .object [("$ref", .str "#/definitions/Author")]),
    ("sequels", .object [("type", .str "array"),
      ("items", .object [("$ref", .str "#/definitions/Book")])])])]),
  ("Author", .object [("type", .str "string")]),
  ("Shelf", .object [("type", .str "array"),
    ("items", .object [("$ref", .str "#/definitions/Author")])])])]

end Sample

/-- The bookshop compiles, its definitions are plain, and so everything in its schemas is
generated. -/
theorem schemas_generated_bookshop :
    ∃ schemas, Store.compileSpec .initial Sample.bookshop = .ok schemas ∧
      schemas.map (·.2.fields.keys) =
        [[.str "title", .str "chapters", .str "author", .str "sequels"], [.str "type"],
          [.str "type"]] ∧
      ∃ c definitions, Compiler.ofConfig .initial = .ok c ∧
        c.extract Sample.bookshop = .ok definitions ∧
        definitions.Plain ∧ ∀ s ∈ schemas, ∃ node, Entries.get? definitions s.1 = some node ∧
          Generates definitions (.definition s.1 node) (.map s.2.fields) ∧
          ∀ part, Value.Part part (.map s.2.fields) → part.WellMade := by
  have hkeys : (Store.compileSpec .initial Sample.bookshop).map (·.map (·.2.fields.keys)) =
      .ok [[.str "title", .str "chapters", .str "author", .str "sequels"], [.str "type"],
        [.str "type"]] := by
    decide +kernel
  obtain ⟨schemas, hschemas, hfields⟩ := Outcome.map_eq_ok_iff.mp hkeys
  obtain ⟨c, definitions, hc, hread, hall⟩ := schemas_generated hschemas
  have hplain : definitions.Plain := Compiler.of_decide_extract (by decide +kernel) hc hread
  exact ⟨schemas, hschemas, hfields, c, definitions, hc, hread, hplain, hall hplain⟩

end ApiStore
