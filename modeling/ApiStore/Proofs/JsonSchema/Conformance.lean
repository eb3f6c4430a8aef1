import ApiStore.Collection
import ApiStore.Proofs.JsonSchema.Options
import ApiStore.Proofs.Value
/-
`Conformance.lean` -- the JSON Schema of compiled fields means what the fields say.

What a compiled value asks of a document can be said of the value itself, without a schema:
a marker asks for a list, the name of a storage type for a value of that type, a single
field for a value of its type within its options, and any other table for an object.
`Conforms` is that relation, one rule for each form. The JSON Schema says the same in
another language, with other rules: a schema is a list of keywords, and a keyword is silent
about values of a kind that it is not about.

**Where a check ends.** An option whose argument makes no sense can end a check in a fault.
`Value.Sensible` says that the options make sense, of the fields that a check can come to
and of no others. Then every check ends, and finds nothing exactly if the value conforms.
-/
set_option autoImplicit false

namespace ApiStore

/-! ## 1. Storage types -/

/-- Whether a value is one of a storage type. Every value is of the mixed type, and every text may
be a UUID. -/
def StorageType.holds : StorageType → Value → Bool
  | .mixed, _ => true
  | .string, .str _ | .uuid, .str _ => true
  | .number, v | .decimal128, v => (JsonSchema.number? v).isSome
  | .bigInt, .int _ => true
  | .bigInt, .double d => d.toInt?.isSome
  | .boolean, .bool _ => true
  | .date, .scalar (.date _) | .date, .scalar (.dateTime _) => true
  | .date, .str s => JsonSchema.isDateText s
  | .buffer, .scalar (.bytes _) => true
  | .objectId, .str s => JsonSchema.isObjectId s
  | .map, .map _ => true
  | _, _ => false

/-! ## 2. Conformance -/

/-- A value conforms to a compiled value. -/
inductive Conforms : Value → Value → Prop
  /-- The name of a storage type asks for a value of that type; a name that is not known asks for
  nothing. -/
  | type {name : String} {v : Value}
    (h : ∀ t, StorageType.ofName? name = some t → t.holds v = true) :
    Conforms (.str name) v
  /-- A marker asks for a list in which everything conforms to its first item. -/
  | marker {items elements : List Value}
    (h : ∀ first, items.head? = some first → ∀ e ∈ elements, Conforms first e) :
    Conforms (.list items) (.list elements)
  /-- A single field asks for a value that conforms to its type and that all its options allow. -/
  | field {fields : Entries Value} {type v : Value} (hf : isField fields = true)
    (htype : Entries.get? fields (.str "type") = some type) (h : Conforms type v)
    (ho : ∀ (option : FieldOption) (argument : Value),
      Entries.get? fields (.str option.name) = some argument → option.Allows argument v) :
    Conforms (.map fields) v
  /-- Any other table asks for an object: what is declared and present conforms, and a required
  field is present. -/
  | object {fields entries : Entries Value} (hf : isField fields = false)
    (hpresent : ∀ property ∈ fields, ∀ w, Entries.get? entries property.1 = some w →
      Conforms property.2 w)
    (hrequired : ∀ property ∈ fields, property.2.isField = true →
      property.2.get? "required" = some (.bool true) → Entries.contains entries property.1 = true) :
    Conforms (.map fields) (.map entries)
  /-- Nothing else asks for anything. -/
  | atom {s : Scalar} {v : Value} (h : ∀ name, s ≠ .str name) : Conforms (.scalar s) v
  | set {members : List Scalar} {v : Value} : Conforms (.set members) v
  | pair {first second v : Value} : Conforms (.pair first second) v

/-- All fields of a compiled value that a check can come to have options that make sense. -/
inductive Value.Sensible : Value → Prop
  | scalar (s : Scalar) : Sensible (.scalar s)
  | marker {items : List Value} (h : ∀ first, items.head? = some first → Sensible first) :
    Sensible (.list items)
  | field {fields : Entries Value} (hf : ApiStore.isField fields = true)
    (h : ∀ type, Entries.get? fields (.str "type") = some type → Sensible type)
    (ho : ∀ (option : FieldOption) (argument : Value),
      Entries.get? fields (.str option.name) = some argument → option.Sensible argument) :
    Sensible (.map fields)
  | object {fields : Entries Value} (hf : ApiStore.isField fields = false)
    (h : ∀ e ∈ fields, Sensible e.2) :
    Sensible (.map fields)
  | set (members : List Scalar) : Sensible (.set members)
  | pair (first second : Value) : Sensible (.pair first second)

section Forms

variable {items : List Value} {fields : Entries Value} {v : Value}

/-- A value conforms to the name of a type if it has that type. A name of no type allows all. -/
theorem conforms_type_iff {name : String} :
    Conforms (.str name) v ↔ ∀ t, StorageType.ofName? name = some t → t.holds v = true := by
  constructor
  · intro h
    cases h with
    | type ht => exact ht
    | atom hs => exact absurd rfl (hs name)
  · exact .type

/-- It conforms to a marker if it is a list whose elements all conform to the first item. -/
theorem conforms_marker_iff :
    Conforms (.list items) v ↔
      ∃ elements, v = .list elements ∧ ∀ first, items.head? = some first → ∀ e ∈ elements,
        Conforms first e := by
  constructor
  · rintro ⟨⟩
    rename_i elements h
    exact ⟨elements, rfl, h⟩
  · rintro ⟨elements, rfl, h⟩
    exact .marker h

/-- It conforms to a field if it conforms to its type and every option allows it. -/
theorem conforms_field_iff (hf : isField fields = true) {type : Value}
    (htype : Entries.get? fields (.str "type") = some type) :
    Conforms (.map fields) v ↔ Conforms type v ∧ ∀ (option : FieldOption) (argument : Value),
      Entries.get? fields (.str option.name) = some argument → option.Allows argument v := by
  constructor
  · intro h
    cases h with
    | field _ htype' h ho =>
      cases htype.symm.trans htype'
      exact ⟨h, ho⟩
    | object hf' _ _ => cases hf.symm.trans hf'
  · rintro ⟨h, ho⟩
    exact .field hf htype h ho

/-- It conforms to a field map if it is a table of which every known entry conforms and every
required one is there. -/
theorem conforms_object_iff (hf : isField fields = false) :
    Conforms (.map fields) v ↔ ∃ entries, v = .map entries ∧
      (∀ property ∈ fields, ∀ w, Entries.get? entries property.1 = some w → Conforms property.2 w) ∧
      ∀ property ∈ fields, property.2.isField = true →
        property.2.get? "required" = some (.bool true) →
        Entries.contains entries property.1 = true := by
  constructor
  · intro h
    cases h with
    | field hf' _ _ _ => cases hf.symm.trans hf'
    | object _ hp hr => exact ⟨_, rfl, hp, hr⟩
  · rintro ⟨entries, rfl, hp, hr⟩
    exact .object hf hp hr

end Forms

/-! ## 3. What the keywords of a value decide -/

namespace JsonSchema

/-- The type of JSON Schema that stands for a storage type has the same values. -/
theorem hasType?_of_mem_keywords {t : StorageType} {name : String}
    (h : .type (.str name) ∈ t.keywords) (v : Value) :
    hasType? name v = some (t.holds v) := by
  cases t <;> simp only [StorageType.keywords, List.mem_cons, List.not_mem_nil, or_false,
    Keyword.type.injEq, Value.scalar.injEq, Scalar.str.injEq, reduceCtorEq] at h
  -- What is left is one case for each storage type, and in it one for each form of value.
  all_goals subst h
  all_goals cases v with
    | scalar s => cases s <;> rfl
    | _ => rfl

/-- The keywords of a storage type decide whether a value is of that type. -/
theorem keywords_decides (t : StorageType) (v : Value) :
    Decides (issues t.keywords v) (t.holds v = true) := by
  have htype : ∀ {name}, .type (.str name) ∈ t.keywords →
      Decides (keywordIssues (.type (.str name)) v) (t.holds v = true) := fun hname => by
    rw [keywordIssues]
    exact typeIssues_decides (hasType?_of_mem_keywords hname v)
  cases t with
  | mixed => exact .nil rfl
  | uuid => exact ((htype (.head _)).cons (.nil trivial)).congr (and_iff_left trivial)
  | _ => exact (htype (.head _)).single

/-- The keywords of a type's name decide whether a value is of the type, if there is one of that
name. -/
theorem ofTypeName_decides (name : String) (v : Value) :
    Decides (issues (ofTypeName name) v) (Conforms (.str name) v) := by
  rw [conforms_type_iff, ofTypeName]
  cases StorageType.ofName? name with
  | none => exact .nil nofun
  | some t => exact (keywords_decides t v).congr (by simp)

/-! ## 4. What the schema of a value decides -/

/-- The schemas of fields are made one by one. -/
theorem ofEntries_eq_map (fields : Entries Value) :
    ofEntries fields = fields.map fun (key, c) => (key, ofValue c) := by
  induction fields with
  | nil => rfl
  | cons entry rest ih => rw [ofEntries, ih, List.map_cons]

/-- A field has a type, which is no table. -/
theorem exists_type_of_isField {fields : Entries Value} (h : isField fields = true) :
    ∃ type, Entries.get? fields (.str "type") = some type ∧ ∀ inner, type ≠ .map inner := by
  unfold isField at h
  split at h
  · cases h
  · cases h
  · rename_i type htable hget
    exact ⟨type, hget, htable⟩

/-- The keywords of a field's type are those of the type as a value of its own. -/
theorem ofTypeEntry_eq {fields : Entries Value} {type : Value}
    (hget : Entries.get? fields (.str "type") = some type) (htable : ∀ inner, type ≠ .map inner) :
    ofTypeEntry fields = ofValue type := by
  induction fields with
  | nil => cases hget
  | cons entry rest ih =>
    obtain ⟨k, first⟩ := entry
    rw [Entries.get?] at hget
    unfold ofTypeEntry
    split at hget
    · rename_i hk
      obtain rfl := Option.some.inj hget
      rw [if_pos hk]
      cases first with
      | scalar s => cases s <;> rfl
      | map inner => exact absurd rfl (htable inner)
      | _ => rfl
    · rename_i hk
      rw [if_neg hk]
      exact ih hget

/-- The required keys of an object are all there. -/
theorem requiredIssues_eq_nil_iff {names : List Scalar} {entries : Entries Value} :
    requiredIssues names (.map entries) = [] ↔ ∀ name ∈ names,
      Entries.contains entries name = true := by
  simp [requiredIssues, noted_eq_nil_iff]

/-- A name is required if it is that of a field with the mark. -/
theorem mem_requiredNames_iff {fields : Entries Value} {key : Scalar} :
    key ∈ requiredNames fields ↔
      ∃ property ∈ fields, property.2.isField = true ∧
        property.2.get? "required" = some (.bool true) ∧ property.1 = key := by
  simp only [requiredNames, isRequired, List.mem_map, List.mem_filter, Bool.and_eq_true, beq_iff_eq,
    and_assoc]

/-- Being of a form and asking something of what is inside is asking both of the one value
inside. -/
theorem exists_and_forall_iff {α : Type} {form : α → Value} (hform : form.Injective) {v : Value}
    {p : α → Prop} :
    ((∃ a, v = form a) ∧ ∀ a, v = form a → p a) ↔ ∃ a, v = form a ∧ p a := by
  constructor
  · rintro ⟨⟨a, ha⟩, hp⟩
    exact ⟨a, ha, hp a ha⟩
  · rintro ⟨a, rfl, hp⟩
    exact ⟨⟨a, rfl⟩, fun b hb => hform hb ▸ hp⟩

/-- The schema of a first item decides for a list whether everything in it conforms to the item. -/
theorem items_decides {items : List Value}
    (h : ∀ first ∈ items.head?, ∀ w, Decides (issues (ofValue first) w) (Conforms first w))
    (v : Value) :
    Decides (keywordIssues (.items (ofFirst items)) v) (∀ elements, v = .list elements →
      ∀ first, items.head? = some first → ∀ e ∈ elements, Conforms first e) := by
  have hfirst : ∀ e, Decides (issues (ofFirst items) e) (∀ first, items.head? = some first →
      Conforms first e) := by
    intro e
    cases items with
    | nil => exact .nil (by simp)
    | cons first rest => exact (h first rfl e).congr (by simp)
  unfold keywordIssues
  cases v with
  | list elements =>
    refine ⟨eachItem_ends 0 fun e _ => (hfirst e).1, eachItem_eq_nil_iff.trans ?_⟩
    constructor
    · rintro hall _ ⟨⟩ first hhead e he
      exact (hfirst e).2.mp (hall e he) first hhead
    · intro hall e he
      exact (hfirst e).2.mpr fun first hhead => hall elements rfl first hhead e he
  | _ => exact .nothing (by simp)

/-- The schemas of declared keys decide for a table whether what is there under them conforms. -/
theorem properties_decides {fields : Entries Value}
    (h : ∀ property ∈ fields, ∀ w, Decides (issues (ofValue property.2) w) (Conforms property.2 w))
    (v : Value) :
    Decides (keywordIssues (.properties (ofEntries fields)) v) (∀ entries, v = .map entries →
      ∀ property ∈ fields, ∀ w, Entries.get? entries property.1 = some w →
        Conforms property.2 w) := by
  unfold keywordIssues
  cases v with
  | map entries =>
    rw [ofEntries_eq_map]
    refine ⟨propertyIssues_ends ?_, propertyIssues_eq_nil_iff.trans ?_⟩
    · rw [List.forall_mem_map]
      exact fun property hproperty w _ => (h property hproperty w).1
    · rw [List.forall_mem_map]
      constructor
      · rintro hall _ ⟨⟩ property hproperty w hw
        exact (h property hproperty w).2.mp (hall property hproperty w hw)
      · intro hall property hproperty w hw
        exact (h property hproperty w).2.mpr (hall entries rfl property hproperty w hw)
  | _ => exact .nothing (by simp)

/-- `required` with the names of the required fields decides for a table whether they are all
there. -/
theorem required_decides (fields : Entries Value) (v : Value) :
    Decides
      (issues (if (requiredNames fields).isEmpty then [] else [.required (requiredNames fields)]) v)
      (∀ entries, v = .map entries → ∀ property ∈ fields, property.2.isField = true →
        property.2.get? "required" = some (.bool true) →
          Entries.contains entries property.1 = true) := by
  have hnames : ∀ entries : Entries Value,
    (∀ name ∈ requiredNames fields, Entries.contains entries name = true) ↔
      ∀ property ∈ fields, property.2.isField = true →
        property.2.get? "required" = some (.bool true) →
        Entries.contains entries property.1 = true := by
    intro entries
    simp only [mem_requiredNames_iff]
    constructor
    · intro hall property hproperty hfield hrequired
      exact hall _ ⟨property, hproperty, hfield, hrequired, rfl⟩
    · rintro hall name ⟨property, hproperty, hfield, hrequired, rfl⟩
      exact hall property hproperty hfield hrequired
  split
  · rename_i hempty
    refine .nil fun entries _ => (hnames entries).mp ?_
    simp [List.isEmpty_iff.mp hempty]
  · refine Decides.single ?_
    unfold keywordIssues
    cases v with
    | map entries =>
      refine ⟨.ok _, ?_⟩
      rw [Except.ok.injEq, requiredIssues_eq_nil_iff, hnames]
      exact ⟨fun hall _ hentries => Value.map.inj hentries ▸ hall, fun hall => hall entries rfl⟩
    | _ => exact .nothing (by simp)

/-- The schema of a sensible value decides conformance to the value. -/
theorem ofValue_decides {c : Value} (hc : c.Sensible) (v : Value) :
    Decides (issues (ofValue c) v) (Conforms c v) := by
  -- The induction is on the compiled value. For a field it is used at the type, which is an entry
  -- like any other.
  induction c using Value.induction generalizing v with
  | scalar s =>
    cases s with
    | str name => exact ofTypeName_decides name v
    | _ => exact .nil (.atom nofun)
  | list items ih =>
    have hfirst : ∀ first ∈ items.head?, ∀ w, Decides (issues (ofValue first) w)
        (Conforms first w) := by
      intro first hhead w
      cases hc with
      | marker h => exact ih first (List.mem_of_head? hhead) (h first hhead) w
    rw [ofValue, conforms_marker_iff, ← exists_and_forall_iff fun _ _ => Value.list.inj]
    exact .cons (type_array_decides v) (items_decides hfirst v).single
  | map fields ih =>
    rw [ofValue]
    cases hf : isField fields with
    | true =>
      obtain ⟨type, hget, htable⟩ := exists_type_of_isField hf
      rw [if_pos rfl, conforms_field_iff hf hget, ofTypeEntry_eq hget htable]
      cases hc with
      | field _ htype hoptions =>
        exact (ih _ (Entries.mem_of_get?_str hget) (htype type hget) v).append
          (ofOptions_decides hoptions)
      | object hf' _ => cases hf.symm.trans hf'
    | false =>
      have hproperty : ∀ property ∈ fields, ∀ w, Decides (issues (ofValue property.2) w)
          (Conforms property.2 w) := by
        intro property hproperty w
        cases hc with
        | field hf' _ _ => cases hf.symm.trans hf'
        | object _ h => exact ih property hproperty (h property hproperty) w
      rw [if_neg Bool.false_ne_true, conforms_object_iff hf, ← exists_and_forall_iff fun _ _ =>
        Value.map.inj]
      have hparts := (properties_decides hproperty v).cons (required_decides fields v)
      refine .cons (type_object_decides v) (hparts.congr ?_)
      simp only [forall_and]
  | set members => exact .nil .set
  | pair first second _ _ => exact .nil .pair

end JsonSchema

/-! ## 5. Checking is conformance -/

/-- Checking a value against the JSON Schema of a sensible compiled value ends, and finds nothing
exactly if the value conforms; and what a collection says of a document is what its fields say. -/
theorem issues_ofValue_iff_conforms {c : Value} (hc : c.Sensible) (v : Value) :
    (∃ found, JsonSchema.issues (JsonSchema.ofValue c) v = .ok found ∧
      (found = [] ↔ Conforms c v)) ∧
    ∀ collection : Collection, c = .map collection.fields →
      ∃ report, collection.validate v = .ok report ∧ (report.isValid = true ↔ Conforms c v) := by
  obtain ⟨⟨found, hfound⟩, hiff⟩ := JsonSchema.ofValue_decides hc v
  rw [hfound, Except.ok.injEq] at hiff
  refine ⟨⟨found, hfound, hiff⟩, ?_⟩
  rintro collection rfl
  refine ⟨{ model := collection.name, issues := found }, ?_, List.isEmpty_iff.trans hiff⟩
  -- The dialect and the title are silent.
  have hroot : JsonSchema.issues collection.jsonSchema v = .ok found := by
    rw [Collection.jsonSchema, JsonSchema.ofSchema, JsonSchema.issues_append]
    change JsonSchema.issues (JsonSchema.ofValue (.map collection.fields)) v >>= _ = _
    rw [hfound]
    rfl
  rw [Collection.validate, hroot]
  rfl

namespace Sample

/-- The name of a stock, which is short and has to be there. -/
def stockName : Value := .object [("type", .str "String"), ("required", .bool true),
    ("maxlength", .int 8)]

/-- The amount of a part, which is not negative. -/
def partAmount : Value := .object [("type", .str "Number"), ("min", .int 0)]

/-- A stock: a name, and parts with their amounts. -/
def stock : Entries Value :=
  [(.str "name", stockName), (.str "parts", .list [.object [("amount", partAmount)]])]

/-- A stock of one part. -/
def parts (name : String) (amount : Int) : Value :=
  .object [("name", .str name), ("parts", .list [.object [("amount", .int amount)]])]

theorem stockName_sensible : stockName.Sensible := by
  refine .field rfl ?_ ?_
  · rintro type ⟨⟩
    exact .scalar _
  · intro option argument h
    cases option <;> cases h
    exact ⟨8, rfl⟩

theorem partAmount_sensible : partAmount.Sensible := by
  refine .field rfl ?_ ?_
  · rintro type ⟨⟩
    exact .scalar _
  · intro option argument h
    cases option <;> cases h
    exact ⟨.int 0, rfl⟩

theorem stock_sensible : (Value.map stock).Sensible := by
  have hparts : (Value.list [.object [("amount", partAmount)]]).Sensible := by
    refine .marker ?_
    rintro first ⟨⟩
    exact .object rfl (by simpa using partAmount_sensible)
  refine .object rfl ?_
  rw [stock, List.forall_mem_cons, List.forall_mem_singleton]
  exact ⟨stockName_sensible, hparts⟩

end Sample

/-- A stock conforms with a short name and a positive amount, and neither with a negative amount nor
with a long name. -/
theorem issues_ofValue_iff_conforms_stock :
    (Value.map Sample.stock).Sensible ∧ Conforms (.map Sample.stock) (Sample.parts "bolts" 12) ∧
      ¬ Conforms (.map Sample.stock) (Sample.parts "bolts" (-1)) ∧
      ¬ Conforms (.map Sample.stock) (Sample.parts "long bolts" 12) := by
  have h := fun name amount => (issues_ofValue_iff_conforms Sample.stock_sensible
    (Sample.parts name amount)).2
    (.ofSchema { name := "Stock", fields := Sample.stock, options := [] }) rfl
  obtain ⟨_, ⟨⟩, hgood⟩ := h "bolts" 12
  obtain ⟨_, ⟨⟩, hnegative⟩ := h "bolts" (-1)
  obtain ⟨_, ⟨⟩, hlong⟩ := h "long bolts" 12
  exact ⟨Sample.stock_sensible, hgood.mp (by decide), mt hnegative.mpr (by decide),
    mt hlong.mpr (by decide)⟩

end ApiStore
