import ApiStore.Proofs.Build.Copy
import ApiStore.Proofs.Build.Fields
import ApiStore.Proofs.JsonSchema.Conformance
/-
`Collection.lean` -- collections of field maps, and collections of single fields.

A collection looks at its fields once: if they count as a single field, documents are taken
as they are and checked against the schema of that field; if not, keys that are no fields
are dropped, defaults are filled in, and a document has to be an object. The schema of an
object should be of the second kind, and is, unless one of its properties is named `type`
and compiles to a marker. Then the collection asks for a list where a document is always a
table, so that nothing can be inserted into it (`insert_ne_ok_of_marker`).
-/
set_option autoImplicit false

namespace ApiStore

namespace Collection

/-! ## 1. Field maps -/

/-- A collection treats its fields as a field map: it asks for objects, drops all keys but those of
fields and its own if it is strict, and fills in the defaults. -/
structure TreatsAsMap (c : Collection) : Prop where
  object : .type (.str "object") ∈ c.jsonSchema
  strict : c.isStrict = true → ∀ document prepared, c.prepare document = .ok prepared →
    ∃ managed, c.managedKeys = .ok managed ∧
      ∀ e ∈ prepared, ∃ key ∈ c.fields.keys ++ managed, key.sameKey e.1 = true
  defaults : ∀ document prepared, c.prepare document = .ok prepared →
    ∀ field ∈ c.fields, field.2.isField = true → (field.2.get? "default").isSome = true →
      Entries.contains prepared field.1 = true

section Defaults

variable {fields document : Entries Value} {field e : Scalar × Value} {key : Scalar}

/-- Filling in the default of one field. -/
def withDefault (document : Entries Value) (field : Scalar × Value) : Entries Value :=
  match field.2.isField, field.2.get? "default" with
  | true, some default =>
    if Entries.contains document field.1 then document else document ++ [(field.1, default)]
  | _, _ => document

/-- Defaults are added one after another. -/
theorem withDefaults_cons : withDefaults (field :: fields) document = withDefaults fields
    (withDefault document field) := rfl

/-- A default is filled in under its field. -/
theorem mem_withDefault (h : e ∈ withDefault document field) : e ∈ document ∨ e.1 = field.1 := by
  unfold withDefault at h
  split at h
  · split at h
    · exact .inl h
    · rcases List.mem_append.mp h with hmem | hnew
      · exact .inl hmem
      · rw [List.mem_singleton.mp hnew]
        exact .inr rfl
  · exact .inl h

/-- What the document has is not replaced by a default. -/
theorem get?_withDefault {v : Value} (h : Entries.get? document key = some v) :
    Entries.get? (withDefault document field) key = some v := by
  unfold withDefault
  split
  · split
    · exact h
    · rw [Entries.get?_append, h, Option.some_or]
  · exact h

/-- A default is there once it has been added. -/
theorem contains_withDefault_self (hf : field.2.isField = true)
    (hd : (field.2.get? "default").isSome = true) :
    Entries.contains (withDefault document field) field.1 = true := by
  obtain ⟨default, hdefault⟩ := Option.isSome_iff_exists.mp hd
  simp only [withDefault, hf, hdefault]
  split
  · assumption
  · rw [Entries.contains_append, Entries.contains_singleton, Bool.or_true]

/-- An entry with defaults is an entry of the document, or of a field. -/
theorem mem_withDefaults (h : e ∈ withDefaults fields document) :
    e ∈ document ∨ ∃ field ∈ fields, e.1 = field.1 := by
  induction fields generalizing document with
  | nil => exact .inl h
  | cons field rest ih =>
    rcases ih h with hmem | ⟨other, hmem, he⟩
    · exact (mem_withDefault hmem).imp_right fun he => ⟨field, List.mem_cons_self, he⟩
    · exact .inr ⟨other, List.mem_cons_of_mem _ hmem, he⟩

/-- A value of the document stays. -/
theorem get?_withDefaults {v : Value} (h : Entries.get? document key = some v) :
    Entries.get? (withDefaults fields document) key = some v := by
  induction fields generalizing document with
  | nil => exact h
  | cons field rest ih => exact ih (get?_withDefault h)

/-- So no key of the document goes. -/
theorem contains_withDefaults (h : Entries.contains document key = true) :
    Entries.contains (withDefaults fields document) key = true := by
  obtain ⟨v, hv⟩ := Option.isSome_iff_exists.mp h
  rw [Entries.contains, get?_withDefaults hv]
  rfl

/-- After the defaults are filled in, no field with a default is missing. -/
theorem contains_withDefaults_of_default (hmem : field ∈ fields) (hf : field.2.isField = true)
    (hd : (field.2.get? "default").isSome = true) :
      Entries.contains (withDefaults fields document) field.1 = true := by
  induction fields generalizing document with
  | nil => cases hmem
  | cons first rest ih =>
    rw [withDefaults_cons]
    rcases List.mem_cons.mp hmem with rfl | hrest
    · exact contains_withDefaults (contains_withDefault_self hf hd)
    · exact ih hrest

/-- Keys that are not dropped keep what they have. -/
theorem get?_restrict {allowed : List Scalar} {s : String} (h : .str s ∈ allowed)
    (document : Entries Value) :
    Entries.get? (restrict allowed document) (.str s) = Entries.get? document (.str s) := by
  have hallowed : (allowed.any fun key => key.sameKey (.str s)) = true :=
    List.any_eq_true.mpr ⟨_, h, Scalar.sameKey_self _⟩
  exact Entries.get?_filter_str (fun _ => hallowed) document

end Defaults

section Maps

variable {c : Collection}

/-- A collection whose fields are no single field prepares a document by dropping keys, if it is
strict, and by filling in defaults. -/
theorem prepare_of_not_isField (h : isField c.fields = false) {document : Value}
    {prepared : Entries Value} (hp : c.prepare document = .ok prepared) :
    ∃ table kept, document.toTable = .ok table ∧ prepared = withDefaults c.fields kept ∧
      (c.isStrict = false ∧ kept = table ∨ c.isStrict = true ∧
        ∃ managed, c.managedKeys = .ok managed ∧
          kept = restrict (c.fields.keys ++ managed) table) := by
  obtain ⟨table, htable, hp⟩ := Outcome.bind_eq_ok_iff.mp hp
  simp only [h, Bool.false_eq_true, if_false] at hp
  split at hp
  · rename_i hstrict
    obtain ⟨managed, hmanaged, hp⟩ := Outcome.bind_eq_ok_iff.mp hp
    exact ⟨table, _, htable, (Except.ok.inj hp).symm, .inr ⟨hstrict, managed, hmanaged, rfl⟩⟩
  · rename_i hstrict
    exact ⟨table, table, htable, (Except.ok.inj hp).symm, .inl ⟨Bool.eq_false_iff.mpr hstrict, rfl⟩⟩

/-- Under the name of a field, a document is prepared by leaving it as it is. -/
theorem get?_prepare (h : isField c.fields = false) {document : Value} {prepared : Entries Value}
    (hp : c.prepare document = .ok prepared) {s : String} (hs : .str s ∈ c.fields.keys) :
    ∃ table, document.toTable = .ok table ∧
      ∀ v, Entries.get? table (.str s) = some v → Entries.get? prepared (.str s) = some v := by
  obtain ⟨table, kept, htable, rfl, hkept⟩ := prepare_of_not_isField h hp
  refine ⟨table, htable, fun v hv => get?_withDefaults ?_⟩
  rcases hkept with ⟨-, rfl⟩ | ⟨-, managed, -, rfl⟩
  · exact hv
  · rw [get?_restrict (List.mem_append_left _ hs), hv]

/-- A collection whose fields are no single field treats them as a field map. -/
theorem treatsAsMap (h : isField c.fields = false) : c.TreatsAsMap := by
  refine ⟨?_, ?_, ?_⟩
  · rw [jsonSchema, JsonSchema.ofSchema, JsonSchema.ofValue, if_neg (by simpa [fields] using h)]
    simp [JsonSchema.ofProperties]
  · intro hstrict document prepared hp
    obtain ⟨table, kept, -, rfl, ⟨hloose, -⟩ | ⟨-, managed, hmanaged, rfl⟩⟩ :=
      prepare_of_not_isField h hp
    · exact absurd hstrict (Bool.eq_false_iff.mp hloose)
    · refine ⟨managed, hmanaged, fun e he => ?_⟩
      rcases mem_withDefaults he with hmem | ⟨field, hfield, hkey⟩
      · exact List.any_eq_true.mp (List.mem_filter.mp hmem).2
      · exact ⟨field.1, List.mem_append_left _ (List.mem_map_of_mem hfield),
          hkey ▸ field.1.sameKey_self⟩
  · intro document prepared hp field hfield hf hd
    obtain ⟨table, kept, -, rfl, -⟩ := prepare_of_not_isField h hp
    exact contains_withDefaults_of_default hfield hf hd

end Maps

/-! ## 2. A single field -/

section SingleField

variable {c : Collection} {type : Value}

/-- No table is of a type that a document can declare. -/
theorem not_conforms_of_declared (h : DeclaredType type) (entries : Entries Value) :
    JsonSchema.issues (JsonSchema.ofValue type) (.map entries) ≠ .ok [] := by
  intro hnothing
  rcases h with ⟨items, rfl⟩ | ⟨t, rfl, ht⟩
  · have harray := JsonSchema.issues_eq_nil_iff.mp hnothing (.type (.str "array"))
      (by rw [JsonSchema.ofValue]; exact List.mem_cons_self)
    obtain ⟨elements, helements⟩ := (JsonSchema.type_array_decides _).2.mp harray
    cases helements
  · have hconforms := (JsonSchema.ofTypeName_decides t.name _).2.mp hnothing
    have hholds := conforms_type_iff.mp hconforms t t.ofName?_name
    rw [ht entries] at hholds
    cases hholds

/-- A collection whose fields are a single field of such a type finds something wrong with every
document. -/
theorem issues_ne_nil_of_declared (hf : isField c.fields = true)
    (hget : Entries.get? c.fields (.str "type") = some type) (h : DeclaredType type)
    (entries : Entries Value) :
    JsonSchema.issues c.jsonSchema (.map entries) ≠ .ok [] := by
  intro hnothing
  have htable : ∀ inner, type ≠ .map inner := by
    rintro inner rfl
    rcases h with ⟨items, hitems⟩ | ⟨t, ht, -⟩
    · cases hitems
    · cases ht
  have hfields : JsonSchema.ofValue (.map c.fields) = JsonSchema.ofValue type ++
      JsonSchema.ofOptions c.fields := by
    conv_lhs => rw [JsonSchema.ofValue, if_pos hf, JsonSchema.ofTypeEntry_eq hget htable]
  refine not_conforms_of_declared h entries (JsonSchema.issues_eq_nil_iff.mpr fun k hk => ?_)
  refine JsonSchema.issues_eq_nil_iff.mp hnothing k (List.mem_append_right _ ?_)
  change k ∈ JsonSchema.ofValue (.map c.fields)
  rw [hfields]
  exact List.mem_append_left _ hk

/-- So it takes none. -/
theorem insert_ne_ok_of_declared (hf : isField c.fields = true)
    (hget : Entries.get? c.fields (.str "type") = some type) (h : DeclaredType type) (stamp : Stamp)
    (document : Value) (inserted : Collection × Entries Value) :
    c.insert stamp document ≠ .ok inserted := by
  intro hinsert
  obtain ⟨prepared, -, hinsert⟩ := Outcome.bind_eq_ok_iff.mp hinsert
  obtain ⟨report, hreport, hinsert⟩ := Outcome.bind_eq_ok_iff.mp hinsert
  obtain ⟨found, hfound, rfl⟩ := Outcome.map_eq_ok_iff.mp (Outcome.mapError_eq_ok_iff.mp hreport)
  split at hinsert
  · rename_i hvalid
    obtain rfl : found = [] := List.isEmpty_iff.mp hvalid
    exact issues_ne_nil_of_declared hf hget h prepared hfound
  · cases hinsert

/-- A collection whose fields have a marker for their type takes no document. -/
theorem insert_ne_ok_of_marker {items : List Value}
    (h : Entries.get? c.fields (.str "type") = some (.list items)) (stamp : Stamp)
    (document : Value) (inserted : Collection × Entries Value) :
    c.insert stamp document ≠ .ok inserted := by
  have hf : isField c.fields = true := by rw [isField, h]
  exact insert_ne_ok_of_declared hf h (.inl ⟨items, rfl⟩) stamp document inserted

end SingleField

end Collection

/-! ## 3. The schemas of objects -/

/-- **The fields of an object are taken for a field map unless a property named `type` is a
marker.** Of a document that compiles, the schema of every object counts as a single field exactly
in that case. Otherwise its collection treats the fields as a field map; in that case it takes no
document. What an object inside a definition compiles to counts as a single field in the same case,
and only then bears the mark of a required field. -/
theorem isField_iff_type_is_marker {c : Compiler} {definitions : Definitions}
    {schemas : Entries Schema} (h : c.buildSchemas definitions none = .ok schemas) :
    (∀ name facts properties required,
      Entries.get? definitions (.str name) = some (.object facts properties required) →
        ∃ schema, Entries.get? schemas (.str name) = some schema ∧
          (isField schema.fields = true ↔ Node.typeForm properties = .marker) ∧
          ∀ collection : Collection, collection.schema = schema →
            (Node.typeForm properties ≠ .marker → collection.TreatsAsMap) ∧
            (Node.typeForm properties = .marker →
              ∀ stamp document inserted, collection.insert stamp document ≠ .ok inserted)) ∧
    ∀ (expand : Scalar → String → Except CompileError (Entries Value)) owner required key facts
        properties names compiled,
      facts.extension = none →
      BuildRules.buildProperty ⟨c.overrides, expand⟩ owner required key
        (.object facts properties names) = .ok compiled →
        ∃ fields, BuildRules.buildProperties ⟨c.overrides, expand⟩ (.str key) names properties =
          .ok fields ∧ (isField fields = true ↔ Node.typeForm properties = .marker) ∧
          compiled = .table (if required = true ∧ Node.typeForm properties = .marker
            then Entries.insert fields (.str "required") (.bool true) else fields) := by
  have hiff : ∀ {rules : BuildRules} {owner required properties fields},
      rules.buildProperties owner required properties = .ok fields →
        (isField fields = true ↔ Node.typeForm properties = .marker) := by
    intro rules owner required properties fields hfields
    rw [BuildRules.isField_of_buildProperties hfields, beq_iff_eq]
  constructor
  · intro name facts properties required hnode
    obtain ⟨schema, hget, hfields⟩ := Compiler.exists_schema_of_buildSchemas h hnode
    refine ⟨schema, hget, hiff hfields, ?_⟩
    rintro collection rfl
    constructor
    · intro hform
      exact Collection.treatsAsMap (Bool.eq_false_iff.mpr (mt (hiff hfields).mp hform))
    · intro hform
      obtain ⟨items, hitems⟩ := BuildRules.exists_marker_of_buildProperties hfields hform
      exact Collection.insert_ne_ok_of_marker hitems
  · intro expand owner required key facts properties names compiled he hcompiled
    obtain ⟨fields, hfields, rfl⟩ := BuildRules.buildProperty_object he hcompiled
    refine ⟨fields, hfields, hiff hfields, ?_⟩
    simp only [BuildRules.markRequired, Bool.and_eq_true, hiff hfields]
    split <;> rfl

namespace Sample

/-- An order whose type is one of some kinds. -/
def ordered : Definitions :=
  [(.str "Order", record [("type", .array Node.empty.facts (link "#/definitions/Kind")),
    ("name", leaf "string")] []), (.str "Kind", record [("code", leaf "string")] [])]

end Sample

/-- No order can be inserted, and kinds are treated as a field map. -/
theorem isField_iff_type_is_marker_ordered :
    ∃ schemas order kind, Sample.compiler.buildSchemas Sample.ordered none = .ok schemas ∧
      Entries.get? schemas (.str "Order") = some order ∧
      Entries.get? schemas (.str "Kind") = some kind ∧
      (∀ stamp document inserted,
        (Collection.ofSchema order).insert stamp document ≠ .ok inserted) ∧
      (Collection.ofSchema kind).TreatsAsMap := by
  obtain ⟨schemas, hschemas⟩ : ∃ schemas, Sample.compiler.buildSchemas Sample.ordered none =
      .ok schemas :=
    Outcome.isOk_iff.mp (by decide)
  have hobjects := (isField_iff_type_is_marker hschemas).1
  obtain ⟨order, horder, -, hmarker⟩ := hobjects "Order" _ _ _ rfl
  obtain ⟨kind, hkind, -, hmap⟩ := hobjects "Kind" _ _ _ rfl
  exact ⟨schemas, order, kind, hschemas, horder, hkind, (hmarker _ rfl).2 rfl,
    (hmap _ rfl).1 (by decide)⟩

/-- The fields of an order count as a single field. -/
theorem order_is_field :
    (Sample.compiler.buildSchemas Sample.ordered none).map
        (fun schemas =>
          (Entries.get? schemas (.str "Order")).map fun order => isField order.fields) =
      .ok (some true) := by
  decide

end ApiStore
