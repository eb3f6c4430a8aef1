import ApiStore.Proofs.Build.Form
import ApiStore.Proofs.Build.Limit
import ApiStore.Proofs.JsonSchema.Conformance
/-
`Fields.lean` -- what the fields of a definition can look like.

A node compiles to one of four things: the empty table, the stub of a circular pointer, a
single field whose type was declared, or the fields of an object; or else to a copy, which
is again one of them. So a property of tables that these four have is one of all compiled
fields, at every depth of copies (`FieldProperty.buildNode`). Three such properties are used
where schemas and collections are made.

**Keys are texts** (`Entries.TextKeys`). **No key is reserved**: the engine's own names `_id`
and `__v` stay free in every schema. **A single field is not for tables**: the types that a
document can declare for a definition are lists and the four scalar types of leaves, and a
property called `type` makes its object a single field only by a list. A field of type `Map`
or `Mixed` would take a table, but that takes an override, and there is none on this level.
-/
set_option autoImplicit false

namespace ApiStore

/-! ## 1. Properties of all compiled fields -/

/-- A type that a node can declare: a list, or a scalar type that no table is of. -/
def DeclaredType (type : Value) : Prop :=
  (∃ items, type = .list items) ∨ ∃ t : StorageType, type = t.toValue ∧
    ∀ entries, t.holds (.map entries) = false

/-- A property of tables that the empty table has, and stubs, single fields of a declared type, and
the fields of objects. -/
structure FieldProperty (P : Entries Value → Prop) : Prop where
  empty : P []
  stub : ∀ target, P (Reference.stub target)
  field : ∀ type, DeclaredType type → P (BuildRules.typed type)
  object : ∀ (rules : BuildRules) owner required properties fields,
    rules.buildProperties owner required properties = .ok fields → P fields

/-- The storage types that a leaf can declare. -/
def leafTypes : List StorageType := [.string, .number, .boolean, .date]

/-- The storage types of leaves are these four. -/
theorem storageType_mem_leafTypes {raw : Value} {type : String} {format : Option String}
    {t : StorageType} (h : storageType raw type format = .ok t) : t ∈ leafTypes := by
  unfold storageType at h
  cases hdirect : directTypes.lookup type with
  | some direct =>
    obtain ⟨before, after, hsplit, -⟩ := List.lookup_eq_some_iff.mp hdirect
    have hmem : (type, direct) ∈ directTypes := by
      rw [hsplit]
      exact List.mem_append_right _ List.mem_cons_self
    have hall : ∀ d ∈ directTypes, d.2 ∈ leafTypes := by decide
    simp only [hdirect] at h
    rw [← Except.ok.inj h]
    exact hall _ hmem
  | none =>
    simp only [hdirect] at h
    split at h
    · split at h
      · rw [← Except.ok.inj h]
        decide
      · cases h
    · split at h
      · rw [← Except.ok.inj h]
        split <;> decide
      · cases h

/-- None of them is for tables. -/
theorem storageType_declared {raw : Value} {type : String} {format : Option String}
    {t : StorageType} (h : storageType raw type format = .ok t) : DeclaredType t.toValue := by
  have hleaf := storageType_mem_leafTypes h
  refine .inr ⟨t, rfl, fun entries => ?_⟩
  simp only [leafTypes, List.mem_cons, List.not_mem_nil, or_false] at hleaf
  rcases hleaf with rfl | rfl | rfl | rfl <;> rfl

theorem leafType_declared {node : Node} {type : Value} (h : leafType node = .ok type) :
    DeclaredType type := by
  cases node with
  | primitive facts name format =>
    obtain ⟨t, ht, rfl⟩ := Outcome.map_eq_ok_iff.mp h
    exact storageType_declared ht
  | _ => cases h

namespace FieldProperty

variable {P : Entries Value → Prop} (hP : FieldProperty P) {rules : BuildRules}
include hP

/-- What a pointer leads to has the property, if the copies have it. -/
theorem follow (hx : ∀ owner target copy, rules.expand owner target = .ok copy → P copy)
    {owner : Scalar} {r : Reference} {fields : Entries Value}
    (h : rules.follow owner r = .ok fields) :
      P fields := by
  unfold BuildRules.follow at h
  split at h
  · rw [← Except.ok.inj h]
    exact hP.stub r.target
  · exact hx _ _ _ h

/-- A compiled node has the property, if the copies have it that it asks for. -/
theorem build (hx : ∀ owner target copy, rules.expand owner target = .ok copy → P copy)
    {owner : Scalar} {node : Node} {fields : Entries Value}
    (h : rules.build owner node = .ok fields) :
      P fields := by
  cases node with
  | object _ properties required =>
    rw [BuildRules.build] at h
    exact hP.object rules owner required properties fields h
  | array facts items =>
    rw [BuildRules.build] at h
    by_cases hp : items.ownPointer?.isSome = true
    · rw [if_pos hp] at h
      obtain ⟨compiled, hcompiled, rfl⟩ := Outcome.map_eq_ok_iff.mp h
      -- Inside an array every reference is many, so what it compiles to is a marker.
      obtain ⟨r, hr, hcompiled⟩ := Outcome.bind_eq_ok_iff.mp hcompiled
      obtain ⟨inner, -, hcompiled⟩ := Outcome.bind_eq_ok_iff.mp hcompiled
      have hmany : r.many = true := by
        unfold Reference.describe at hr
        split at hr
        · cases hr
        · split at hr
          · cases hr
          · rw [← Except.ok.inj hr]
            rfl
      rw [← Except.ok.inj hcompiled, Compiled.ofTable, hmany]
      exact hP.field _ (.inl ⟨_, rfl⟩)
    · rw [if_neg hp] at h
      split at h
      · obtain ⟨type, -, rfl⟩ := Outcome.map_eq_ok_iff.mp h
        exact hP.field _ (.inl ⟨_, rfl⟩)
      · rw [← Except.ok.inj h]
        exact hP.empty
  | primitive facts type format =>
    rw [BuildRules.build] at h
    split at h
    · obtain ⟨t, ht, rfl⟩ := Outcome.map_eq_ok_iff.mp h
      exact hP.field _ (leafType_declared ht)
    · rw [← Except.ok.inj h]
      exact hP.empty
  | reference facts pointer =>
    rw [BuildRules.build, Outcome.bind_eq_ok_iff] at h
    obtain ⟨r, -, h⟩ := h
    exact hP.follow hx h
  | any facts =>
    rw [← Except.ok.inj h]
    exact hP.empty

variable (overrides : OverrideRules) (definitions : Definitions)

/-- All copies have the property. The induction is on the levels left. -/
theorem expansion (limit : Int) (n : Nat) {owner : Scalar} {target : String} {copy : Entries Value}
    (h : ApiStore.expansion overrides definitions limit n owner target = .ok copy) : P copy := by
  induction n generalizing owner target copy with
  | zero =>
    unfold ApiStore.expansion at h
    split at h <;> cases h
  | succ n ih =>
    cases hd : Entries.get? definitions (.str target) with
    | none =>
      rw [expansion_undefined overrides definitions limit _ owner hd] at h
      cases h
    | some definition =>
      rw [expansion_succ overrides definitions limit n owner hd] at h
      exact hP.build (fun _ _ _ => ih) h

/-- So everything that a node compiles to has it. -/
theorem buildNode {start : BuildStart} {node : Node} {fields : Entries Value}
    (h : ApiStore.buildNode overrides definitions start node = .ok fields) : P fields :=
  hP.build (fun _ _ _ => hP.expansion overrides definitions start.limit _) h

end FieldProperty

/-! ## 2. Keys -/

/-- The fields of an object stand under the names of its properties, as far as these are not
reserved. -/
theorem BuildRules.mem_keys_of_buildProperties {rules : BuildRules} {owner : Scalar}
    {required : List String} {properties : List (String × Node)} {fields : Entries Value}
    (h : rules.buildProperties owner required properties = .ok fields) {key : Scalar}
    (hkey : key ∈ fields.keys) :
    ∃ name ∈ properties.map (·.1), key = .str name ∧ reservedNames.contains name = false := by
  induction properties generalizing fields with
  | nil =>
    rw [← Except.ok.inj h] at hkey
    cases hkey
  | cons property rest ih =>
    obtain ⟨name, node⟩ := property
    cases hk : reservedNames.contains name with
    | true =>
      rw [rules.buildProperties_cons_reserved owner required node rest hk] at h
      obtain ⟨other, hother, hname⟩ := ih h hkey
      exact ⟨other, List.mem_cons_of_mem _ hother, hname⟩
    | false =>
      rw [rules.buildProperties_cons owner required node rest hk, Outcome.bind_eq_ok_iff] at h
      obtain ⟨compiled, -, h⟩ := h
      obtain ⟨others, hothers, rfl⟩ := Outcome.map_eq_ok_iff.mp h
      rw [Entries.keys, List.map_append, List.mem_append] at hkey
      rcases hkey with hown | hother
      · refine ⟨name, List.mem_cons_self, ?_, hk⟩
        cases compiled with
        | dropped => cases hown
        | table fields => exact List.mem_singleton.mp hown
        | marker items => exact List.mem_singleton.mp hown
      · obtain ⟨other, hmem, hname⟩ := ih hothers hother
        exact ⟨other, List.mem_cons_of_mem _ hmem, hname⟩

/-- All keys of compiled fields are texts that are not reserved. -/
theorem fieldProperty_keys :
    FieldProperty fun fields => ∀ key ∈ fields.keys, ∃ name, key = .str name ∧
      reservedNames.contains name = false where
  empty := nofun
  stub target := by
    intro key hkey
    simp only [Reference.stub, Entries.keys, List.map_cons, List.map_nil, List.mem_cons,
      List.not_mem_nil, or_false] at hkey
    rcases hkey with rfl | rfl
    · exact ⟨"type", rfl, rfl⟩
    · exact ⟨"ref", rfl, rfl⟩
  field type _ := by
    intro key hkey
    exact ⟨"type", List.mem_singleton.mp hkey, rfl⟩
  object _ _ _ _ _ h key hkey := by
    obtain ⟨name, -, hname⟩ := BuildRules.mem_keys_of_buildProperties h hkey
    exact ⟨name, hname⟩

theorem buildNode_textKeys (overrides : OverrideRules) (definitions : Definitions)
    {start : BuildStart} {node : Node} {fields : Entries Value}
    (h : buildNode overrides definitions start node = .ok fields) :
      fields.TextKeys := by
  intro entry hentry
  obtain ⟨name, hname, -⟩ := fieldProperty_keys.buildNode overrides definitions h entry.1
    (List.mem_map_of_mem hentry)
  exact ⟨name, hname⟩

/-! ## 3. Single fields -/

/-- The type of compiled fields that count as a single field is one that no table is of. -/
theorem fieldProperty_type :
    FieldProperty fun fields => isField fields = true →
      ∃ type, Entries.get? fields (.str "type") = some type ∧ DeclaredType type where
  empty h := by cases h
  stub target _ := ⟨_, rfl, .inr ⟨.objectId, rfl, fun _ => rfl⟩⟩
  field type htype _ := ⟨type, rfl, htype⟩
  object _ _ _ _ _ h hfield := by
    rw [BuildRules.isField_of_buildProperties h, beq_iff_eq] at hfield
    obtain ⟨items, hitems⟩ := BuildRules.exists_marker_of_buildProperties h hfield
    exact ⟨_, hitems, .inl ⟨items, rfl⟩⟩

end ApiStore
