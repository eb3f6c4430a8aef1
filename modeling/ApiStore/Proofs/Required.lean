import ApiStore.Proofs.Build.Copy
import ApiStore.Proofs.Build.Grammar
import ApiStore.Proofs.Distinct
/-
`Required.lean` -- where a property is marked as required.

The mark is due to a property that the object requires and whose own shape is a single field.
What a pointer leads to is one or is not, depending on the definition at its end, and the copy of
an object requires nothing. All of this is decided where the object is compiled, so the question is
asked there: `RequiredWhereDue` says of one object that the marks are where they are due, and that
the JSON Schema of its fields asks for the same keys.

**Everywhere.** The objects that are compiled on behalf of a definition are reached from it step by
step (`Source.Leads`). One step leaves the object tables of a source where they are
(`exists_compile_of_leads`), and by induction so does the whole way: what an object compiles to
stands in the schema, however deep and through however many copies (`exists_compile_of_reaches`).
-/
set_option autoImplicit false

namespace ApiStore

open Outcome

/-! ## 1. The mark of one property -/

namespace BuildRules

variable {rules : BuildRules} {owner : Scalar} {key : String} {node : Node}

/-- Whether the mark is due to a property: its name is required and not reserved, and its own shape
is a single field. -/
def isDue (rules : BuildRules) (owner : Scalar) (required : List String)
    (property : String × Node) : Bool :=
  !reservedNames.contains property.1 && required.contains property.1 &&
    match rules.buildPlain owner property.1 property.2 with
    | .ok plain => plain.toValue.isField
    | .error _ => false

/-- The names of the properties to which the mark is due, in order. -/
def dueNames (rules : BuildRules) (owner : Scalar) (required : List String)
    (properties : List (String × Node)) :
    List Scalar :=
  (properties.filter (rules.isDue owner required)).map fun property => .str property.1

/-- The entries of an object are tables and lists. -/
theorem not_scalar_of_buildProperties {names : List String} {properties : List (String × Node)}
    {fields : Entries Value} (h : rules.buildProperties owner names properties = .ok fields)
    {entry : Scalar × Value} (hentry : entry ∈ fields) (s : Scalar) : entry.2 ≠ .scalar s := by
  induction properties generalizing fields with
  | nil =>
    obtain rfl := Except.ok.inj h
    cases hentry
  | cons property rest ih =>
    obtain ⟨first, other⟩ := property
    cases hk : reservedNames.contains first with
    | true =>
      rw [rules.buildProperties_cons_reserved owner names other rest hk] at h
      exact ih h hentry
    | false =>
      rw [rules.buildProperties_cons owner names other rest hk, bind_eq_ok_iff] at h
      obtain ⟨compiled, -, h⟩ := h
      obtain ⟨others, hothers, rfl⟩ := map_eq_ok_iff.mp h
      rcases List.mem_append.mp hentry with hown | hother
      · cases compiled with
        | dropped => cases hown
        | table fields =>
          rw [List.mem_singleton.mp hown]
          exact nofun
        | marker items =>
          rw [List.mem_singleton.mp hown]
          exact nofun
      · exact ih hothers hother

/-- No compiled fields have the mark. A property called `required` has an entry of that name, but
that is no atom. -/
theorem fieldProperty_unmarked :
    FieldProperty fun fields => Entries.get? fields (.str "required") ≠ some (.bool true) where
  empty := nofun
  stub _ := nofun
  field _ _ := nofun
  object _ _ _ _ _ h hmark := not_scalar_of_buildProperties h (Entries.mem_of_get?_str hmark) _ rfl

/-- Neither has the own shape of a property. -/
theorem buildPlain_unmarked
    (hx : ∀ owner target copy, rules.expand owner target = .ok copy →
      Entries.get? copy (.str "required") ≠ some (.bool true))
    {plain : Compiled} (h : rules.buildPlain owner key node = .ok plain) :
    plain.toValue.get? "required" ≠ some (.bool true) := by
  have hfield : ∀ default type, (Value.map (withDefault default (typed type))).get? "required" =
      none := by
    intro default type
    rw [withDefault]
    split <;> rfl
  have hpoint : ∀ {p fields}, rules.point owner p = .ok fields →
      Entries.get? fields (.str "required") ≠ some (.bool true) := by
    intro p fields h
    unfold point at h
    split at h
    · cases h
    · split at h
      · rw [← Except.ok.inj h]
        exact fieldProperty_unmarked.stub _
      · exact hx _ _ _ h
  -- Only a copy could bring the mark along: under `required` an object has a compiled property.
  cases node with
  | primitive facts type format =>
    obtain ⟨t, -, rfl⟩ := map_eq_ok_iff.mp h
    rw [Compiled.toValue, hfield]
    exact nofun
  | array facts items =>
    cases hp : items.ownPointer? with
    | some p =>
      have hpointer : (Node.array facts items).pointer? = some p := hp
      rw [rules.buildPlain_eq_point key hpointer] at h
      obtain ⟨fields, -, rfl⟩ := map_eq_ok_iff.mp h
      exact nofun
    | none =>
      rw [buildPlain, hp, Option.isSome_none, if_neg Bool.false_ne_true] at h
      obtain ⟨t, -, rfl⟩ := map_eq_ok_iff.mp h
      rw [Compiled.toValue, hfield]
      exact nofun
  | object facts properties names =>
    obtain ⟨fields, hfields, rfl⟩ := map_eq_ok_iff.mp h
    exact fieldProperty_unmarked.object rules _ _ _ _ hfields
  | reference facts p =>
    rw [rules.buildPlain_eq_point key rfl] at h
    obtain ⟨fields, hfields, rfl⟩ := map_eq_ok_iff.mp h
    exact hpoint hfields
  | any facts =>
    rw [← Except.ok.inj h]
    exact nofun

/-- The mark makes no difference to whether a table is a single field. -/
theorem isField_insert_required (fields : Entries Value) :
    isField (Entries.insert fields (.str "required") (.bool true)) = isField fields := by
  rw [isField, Entries.get?_insert_str, if_neg (by decide), isField]

/-- **A property has the mark if and only if it is required and its own shape is a single
field.** -/
theorem markRequired_iff (required : Bool) {plain : Compiled}
    (hplain : plain.toValue.get? "required" ≠ some (.bool true)) :
    (markRequired required plain).toValue.get? "required" = some (.bool true) ↔
      required = true ∧ plain.toValue.isField = true := by
  by_cases hmark : required = true ∧ ∃ fields, plain = .table fields ∧ isField fields = true
  · obtain ⟨hr, fields, rfl, hfield⟩ := hmark
    rw [markRequired_of_isField hr hfield]
    have hget : Entries.get? (Entries.insert fields (.str "required") (.bool true))
        (.str "required") = some (.bool true) := by
      rw [Entries.get?_insert_str, if_pos rfl]
    exact ⟨fun _ => ⟨hr, hfield⟩, fun _ => hget⟩
  · rw [markRequired_of_not hmark]
    refine ⟨fun h => absurd h hplain, fun ⟨hr, hfield⟩ => absurd ⟨hr, ?_⟩ hmark⟩
    cases plain with
    | table fields => exact ⟨fields, rfl, hfield⟩
    | dropped => cases hfield
    | marker items => cases hfield

/-! ## 2. The marks of one object -/

section Objects

variable {names : List String} {properties : List (String × Node)} {fields : Entries Value}

/-- The JSON Schema asks for a property if and only if the mark is due to it. -/
theorem isRequired_markRequired (required : Bool) {plain : Compiled}
    (hplain : plain.toValue.get? "required" ≠ some (.bool true)) :
    JsonSchema.isRequired (markRequired required plain).toValue = (required &&
      plain.toValue.isField) := by
  rw [Bool.eq_iff_iff, JsonSchema.isRequired, Bool.and_eq_true, Bool.and_eq_true, beq_iff_eq,
    markRequired_iff required hplain]
  refine ⟨fun h => h.2, fun h => ⟨?_, h⟩⟩
  obtain ⟨hr, hfield⟩ := h
  cases plain with
  | table fields =>
    rw [markRequired_of_isField hr hfield]
    exact (isField_insert_required fields).trans hfield
  | dropped => cases hfield
  | marker items => cases hfield

/-- It looks for the mark in the entry of the property. -/
theorem requiredNames_entries (key : String) (compiled : Compiled) :
    JsonSchema.requiredNames (compiled.entries key) =
      if JsonSchema.isRequired compiled.toValue then [.str key] else [] := by
  cases compiled with
  | dropped => rfl
  | marker items => rfl
  | table fields =>
    cases hrequired : JsonSchema.isRequired (.map fields) with
    | true => simp [Compiled.entries, Compiled.toValue, JsonSchema.requiredNames, hrequired]
    | false => simp [Compiled.entries, Compiled.toValue, JsonSchema.requiredNames, hrequired]

/-- The names that the JSON Schema of an object asks for are those of the properties to which the
mark is due. -/
theorem requiredNames_eq_dueNames
    (hx : ∀ owner target copy, rules.expand owner target = .ok copy →
      Entries.get? copy (.str "required") ≠ some (.bool true))
    (hplain : ∀ property ∈ properties, property.2.All Node.IsPlain)
    (h : rules.buildProperties owner names properties = .ok fields) :
    JsonSchema.requiredNames fields = rules.dueNames owner names properties := by
  induction properties generalizing fields with
  | nil =>
    obtain rfl := Except.ok.inj h
    rfl
  | cons property rest ih =>
    obtain ⟨key, node⟩ := property
    obtain ⟨hnode, hrest⟩ := List.forall_mem_cons.mp hplain
    cases hk : reservedNames.contains key with
    | true =>
      rw [rules.buildProperties_cons_reserved owner names node rest hk] at h
      have hdue : rules.isDue owner names (key, node) = false := by
        rw [isDue, hk]
        rfl
      rw [ih hrest h, dueNames, dueNames, List.filter_cons_of_neg (by simpa using hdue)]
    | false =>
      rw [rules.buildProperties_cons owner names node rest hk, bind_eq_ok_iff] at h
      obtain ⟨compiled, hcompiled, h⟩ := h
      obtain ⟨others, hothers, rfl⟩ := map_eq_ok_iff.mp h
      obtain ⟨plain, hshape, rfl⟩ := buildProperty_of_plain hnode hcompiled
      have hdue : rules.isDue owner names (key, node) = (names.contains key &&
          plain.toValue.isField) := by
        rw [isDue, hk, hshape]
        rfl
      have hrequired := isRequired_markRequired (names.contains key) (buildPlain_unmarked hx hshape)
      rw [JsonSchema.requiredNames, List.filter_append, List.map_append, ← JsonSchema.requiredNames,
        ← JsonSchema.requiredNames, requiredNames_entries, hrequired, ih hrest hothers, dueNames,
          dueNames,
        List.filter_cons, hdue]
      split <;> rfl

/-- Names that are reserved or belong to no property have no effect. -/
theorem buildProperties_congr_required {others : List String}
    (h : ∀ property ∈ properties, reservedNames.contains property.1 = false →
      (property.1 ∈ others ↔ property.1 ∈ names)) :
    rules.buildProperties owner others properties =
      rules.buildProperties owner names properties := by
  induction properties with
  | nil => rfl
  | cons property rest ih =>
    obtain ⟨key, node⟩ := property
    obtain ⟨hfirst, hrest⟩ := List.forall_mem_cons.mp h
    cases hk : reservedNames.contains key with
    | true =>
      rw [rules.buildProperties_cons_reserved owner _ node rest hk,
        rules.buildProperties_cons_reserved owner _ node rest hk,
        ih hrest]
    | false =>
      have hcontains : others.contains key = names.contains key := by
        rw [Bool.eq_iff_iff, List.contains_iff_mem, List.contains_iff_mem]
        exact hfirst hk
      rw [rules.buildProperties_cons owner _ node rest hk,
        rules.buildProperties_cons owner _ node rest hk, hcontains,
        ih hrest]

end Objects

end BuildRules

/-- In an object that is compiled for an owner, the marks are where they are due, and the JSON
Schema of its fields asks for the same keys. -/
structure RequiredWhereDue (rules : BuildRules) (owner : Scalar) (required : List String)
    (properties : List (String × Node)) (fields : Entries Value) : Prop where
  /-- A property that is not reserved has the mark if it is required and a single field before it is
  marked. -/
  property : ∀ key node, (key, node) ∈ properties → reservedNames.contains key = false →
    ∃ plain compiled, rules.buildPlain owner key node = .ok plain ∧
      rules.buildProperty owner (required.contains key) key node = .ok compiled ∧
        compiled.entries key ⊆ fields ∧
      (compiled.toValue.get? "required" = some (.bool true) ↔ key ∈ required ∧
        plain.toValue.isField = true)
  /-- An array of pointers is a list, which has no mark. -/
  pointers : ∀ key facts items, (key, .array facts items) ∈ properties →
    reservedNames.contains key = false →
    items.ownPointer?.isSome = true → ∃ item, (.str key, .list [item]) ∈ fields
  /-- The JSON Schema has a keyword for the properties to which the mark is due, if there are
  any. -/
  schema : JsonSchema.ofValue (.map fields) =
    [.type (.str "object"), .properties (JsonSchema.ofEntries fields)] ++
      if rules.dueNames owner required properties = [] then []
      else [.required (rules.dueNames owner required properties)]
  /-- It names each of them once. -/
  nodup : (rules.dueNames owner required properties).Nodup
  /-- Of the required names, only those of properties that are not reserved have an effect. -/
  others : ∀ names, (∀ property ∈ properties, reservedNames.contains property.1 = false →
    (property.1 ∈ names ↔ property.1 ∈ required)) →
      rules.buildProperties owner names properties = .ok fields

/-- **The marks of an object are where they are due**, if the object compiles. -/
theorem requiredWhereDue {rules : BuildRules} {owner : Scalar} {required : List String}
    {properties : List (String × Node)} {fields : Entries Value} {facts : Facts}
    (hx : ∀ owner target copy, rules.expand owner target = .ok copy →
      Entries.get? copy (.str "required") ≠ some (.bool true))
    (hplain : (Node.object facts properties required).All Node.IsPlain)
    (hnames : (properties.map (·.1)).Nodup)
    (h : rules.buildProperties owner required properties = .ok fields) :
    RequiredWhereDue rules owner required properties fields where
  property key node hmem hk := by
    obtain ⟨compiled, hcompiled, hentries⟩ := BuildRules.mem_of_buildProperties h hmem hk
    obtain ⟨plain, hshape, rfl⟩ :=
      BuildRules.buildProperty_of_plain (hplain.of_object hmem) hcompiled
    have hiff := BuildRules.markRequired_iff (required.contains key)
      (BuildRules.buildPlain_unmarked hx hshape)
    rw [List.contains_iff_mem] at hiff
    exact ⟨plain, _, hshape, hcompiled, hentries, hiff⟩
  pointers key facts items hmem hk hp := by
    obtain ⟨compiled, hcompiled, hentries⟩ := BuildRules.mem_of_buildProperties h hmem hk
    obtain ⟨plain, hshape, rfl⟩ :=
      BuildRules.buildProperty_of_plain (hplain.of_object hmem) hcompiled
    obtain ⟨p, hitems⟩ := Option.isSome_iff_exists.mp hp
    have hpointer : (Node.array facts items).pointer? = some p := hitems
    rw [rules.buildPlain_eq_point key hpointer] at hshape
    obtain ⟨copy, -, rfl⟩ := map_eq_ok_iff.mp hshape
    exact ⟨.map copy, hentries (List.mem_singleton_self _)⟩
  schema := by
    have hfield := BuildRules.isField_of_untyped hplain.self.2 h
    have hdue := BuildRules.requiredNames_eq_dueNames hx
      (fun property hmem => hplain.of_object hmem) h
    rw [JsonSchema.ofValue, hfield, if_neg Bool.false_ne_true, JsonSchema.ofProperties, hdue]
    simp only [List.isEmpty_iff]
  -- The due names are some of the names of properties, in their order.
  nodup := by
    have hsublist : (properties.filter (rules.isDue owner required)).Sublist properties :=
      List.filter_sublist
    have hdue : ((properties.filter (rules.isDue owner required)).map (·.1)).Nodup :=
      hnames.sublist (hsublist.map _)
    have hstr := hdue.map (f := Scalar.str) fun _ _ => Scalar.str.inj
    rwa [List.map_map] at hstr
  others names hagree := by
    rw [BuildRules.buildProperties_congr_required hagree]
    exact h

/-! ## 3. All objects -/

/-- Every object table in one value stands in another. -/
def Value.Keeps (v w : Value) : Prop :=
  ∀ fields : Entries Value, ApiStore.isField fields = false → Value.Part (.map fields) w →
    Value.Part (.map fields) v

theorem Value.Keeps.trans {u v w : Value} (huv : u.Keeps v) (hvw : v.Keeps w) : u.Keeps w :=
  fun fields hfield hw => huv fields hfield (hvw fields hfield hw)

theorem Value.Keeps.of_part {v w : Value} (h : Value.Part w v) : v.Keeps w :=
  fun _ _ hw => hw.trans h

/-- The mark of a required property leaves the object tables where they are. -/
theorem Value.keeps_markRequired (required : Bool) (plain : Compiled) :
    Value.Keeps (BuildRules.markRequired required plain).toValue plain.toValue := by
  by_cases hmark : required = true ∧ ∃ fields, plain = .table fields ∧
    ApiStore.isField fields = true
  · obtain ⟨hr, fields, rfl, hfield⟩ := hmark
    rw [BuildRules.markRequired_of_isField hr hfield]
    intro inner hinner hpart
    -- The marked table is a single field, so an object table is inside its type.
    cases hpart with
    | whole => exact absurd (hinner.symm.trans hfield) Bool.false_ne_true
    | type _ hget hw =>
      refine .type ((BuildRules.isField_insert_required fields).trans hfield) ?_ hw
      rw [Entries.get?_insert_str, if_neg (by decide)]
      exact hget
    | entry hother _ _ => exact absurd (hother.symm.trans hfield) Bool.false_ne_true
  · rw [BuildRules.markRequired_of_not hmark]
    exact .of_part .whole

section Walk

open BuildRules Source

variable {overrides : OverrideRules} {definitions : Definitions} {limit : Int}

/-- **One step.** What a source leads to compiles if the source does, and the object tables in it
stand in the value of the source. -/
theorem exists_compile_of_leads {s t : Nat × Source} (hs : s.2.All Node.IsPlain)
    (h : Leads definitions s t) {v : Value}
    (hv : (rulesWithin overrides definitions limit s.1).compile s.2 = .ok v) :
    ∃ w, (rulesWithin overrides definitions limit t.1).compile t.2 = .ok w ∧ v.Keeps w := by
  cases h with
  | object => exact ⟨v, hv, .of_part .whole⟩
  | array hp hsimple =>
    rw [compile, build, hp, hsimple] at hv
    obtain ⟨fields, hfields, rfl⟩ := map_eq_ok_iff.mp hv
    obtain ⟨t, ht, rfl⟩ := map_eq_ok_iff.mp hfields
    exact ⟨t, ht, .of_part (.type rfl rfl (.item (List.mem_singleton_self t) .whole))⟩
  | @pointer levels owner node p hp =>
    rw [compile, build_eq_point _ hp] at hv
    obtain ⟨fields, hfields, rfl⟩ := map_eq_ok_iff.mp hv
    obtain ⟨inner, hinner, rfl⟩ := map_eq_ok_iff.mp hfields
    refine ⟨.map inner, map_eq_ok_iff.mpr ⟨inner, hinner, rfl⟩, .of_part ?_⟩
    cases node.isArray with
    | true => exact .type rfl rfl (.item (List.mem_singleton_self _) .whole)
    | false => exact .whole
  | itemArray =>
    obtain ⟨t, ht, rfl⟩ := map_eq_ok_iff.mp hv
    exact ⟨t, ht, .of_part (.item (List.mem_singleton_self t) .whole)⟩
  | itemObject => exact ⟨v, hv, .of_part .whole⟩
  | @property levels owner properties required key node hmem hk =>
    obtain ⟨facts, hobject⟩ := hs
    obtain ⟨fields, hfields, rfl⟩ := map_eq_ok_iff.mp hv
    obtain ⟨compiled, hcompiled, hentries⟩ := mem_of_buildProperties hfields hmem hk
    refine ⟨compiled.toValue, map_eq_ok_iff.mpr ⟨compiled, hcompiled, rfl⟩, ?_⟩
    have hfield := isField_of_untyped hobject.self.2 hfields
    by_cases hform : compiled.form = .dropped
    · -- A property that is dropped is null, and there is no table in that.
      intro inner _ hpart
      cases compiled with
      | dropped => cases hpart
      | _ => cases hform
    · exact .of_part (.entry hfield (hentries (Compiled.mem_entries hform key)) .whole)
  | @propertyObject levels owner marked key facts properties required =>
    obtain ⟨compiled, hcompiled, rfl⟩ := map_eq_ok_iff.mp hv
    obtain ⟨plain, hshape, rfl⟩ := buildProperty_of_plain hs hcompiled
    obtain ⟨fields, hfields, rfl⟩ := map_eq_ok_iff.mp hshape
    exact ⟨.map fields, map_eq_ok_iff.mpr ⟨fields, hfields, rfl⟩, Value.keeps_markRequired marked _⟩
  | @propertyArray levels owner marked key facts items hp =>
    obtain ⟨compiled, hcompiled, rfl⟩ := map_eq_ok_iff.mp hv
    obtain ⟨plain, hshape, rfl⟩ := buildProperty_of_plain hs hcompiled
    rw [buildPlain, hp, Option.isSome_none, if_neg Bool.false_ne_true] at hshape
    obtain ⟨t, ht, rfl⟩ := map_eq_ok_iff.mp hshape
    rw [markRequired_withDefault (.inr ⟨t, rfl⟩)]
    exact ⟨t, ht, .of_part (.type rfl rfl (.item (List.mem_singleton_self t) .whole))⟩
  | @propertyPointer levels owner marked key node p hp =>
    obtain ⟨compiled, hcompiled, rfl⟩ := map_eq_ok_iff.mp hv
    obtain ⟨plain, hshape, rfl⟩ := buildProperty_of_plain hs hcompiled
    rw [buildPlain_eq_point _ key hp] at hshape
    obtain ⟨inner, hinner, rfl⟩ := map_eq_ok_iff.mp hshape
    refine ⟨.map inner, map_eq_ok_iff.mpr ⟨inner, hinner, rfl⟩, ?_⟩
    cases node.isArray with
    | true => exact .of_part (.item (List.mem_singleton_self _) .whole)
    | false => exact Value.keeps_markRequired marked _
  | @copy levels owner p target definition htarget howner hdefinition =>
    obtain ⟨fields, hfields, rfl⟩ := map_eq_ok_iff.mp hv
    obtain ⟨found, hfound, ⟨hself, -⟩ | ⟨-, rest, other, hlevels, hother, hbuild⟩⟩ :=
      point_cases hfields
    · exact absurd (hself.trans (congrArg Scalar.str (Option.some.inj (hfound.symm.trans htarget))))
        howner
    · obtain rfl := Option.some.inj (hfound.symm.trans htarget)
      obtain rfl := Option.some.inj (hother.symm.trans hdefinition)
      obtain rfl : rest = levels := (Nat.succ.inj hlevels).symm
      exact ⟨.map fields, map_eq_ok_iff.mpr ⟨fields, hbuild, rfl⟩, .of_part .whole⟩

/-- **The whole way.** Whatever is reached from a source that compiles is compiled, and its object
tables stand in the value of the source. -/
theorem exists_compile_of_reaches (hdefinitions : definitions.Plain) {s t : Nat × Source}
    (h : Relation.ReflTransGen (Leads definitions) s t) (hs : s.2.All Node.IsPlain) {v : Value}
    (hv : (rulesWithin overrides definitions limit s.1).compile s.2 = .ok v) :
    t.2.All Node.IsPlain ∧ ∃ w, (rulesWithin overrides definitions limit t.1).compile t.2 = .ok w ∧
      v.Keeps w := by
  induction h with
  | refl => exact ⟨hs, v, hv, .of_part .whole⟩
  | tail _ hstep ih =>
    obtain ⟨hplain, w, hw, hkeeps⟩ := ih
    obtain ⟨u, hu, hinner⟩ := exists_compile_of_leads hplain hstep hw
    exact ⟨hplain.of_leads (fun _ => Node.IsPlain.forCopy) hdefinitions hstep, u, hu,
      hkeeps.trans hinner⟩

end Walk

/-- **Marks are where they are due, and the JSON Schema enforces them.** In a document that
compiles, if its definitions are plain, every definition has a schema under its name, and every
object that is compiled on behalf of the definition has its field map in that schema, with marks
where they are due. An object is reached with the names it requires; a copy requires none. -/
theorem marks_where_due {config : Config} {spec : Value} {schemas : Entries Schema}
    (hspec : spec.distinct = true) (h : Store.compileSpec config spec = .ok schemas) :
    ∃ c definitions, Compiler.ofConfig config = .ok c ∧ c.extract spec = .ok definitions ∧
      (definitions.Plain → definitions.keys ⊆ schemas.keys ∧
        ∀ s ∈ schemas, ∃ node, Entries.get? definitions s.1 = some node ∧
          ∀ levels owner required properties,
            Relation.ReflTransGen (Source.Leads definitions)
              (c.config.maxReferenceDepth.toNat, .definition s.1 node)
              (levels, .properties owner required properties) →
            ∃ fields,
              (rulesWithin c.overrides definitions c.config.maxReferenceDepth
                levels).buildProperties owner required properties = .ok fields ∧
              Value.Part (.map fields) (.map s.2.fields) ∧
              RequiredWhereDue
                (rulesWithin c.overrides definitions c.config.maxReferenceDepth levels) owner
                required properties fields) := by
  obtain ⟨c, hc, h⟩ := bind_eq_ok_iff.mp h
  obtain ⟨definitions, hread, h⟩ := bind_eq_ok_iff.mp h
  refine ⟨c, definitions, mapError_eq_ok_iff.mp hc, hread, fun hdefinitions => ?_⟩
  refine ⟨Compiler.keys_subset_of_buildSchemas h, fun s hs => ?_⟩
  obtain ⟨node, hnode, hfields⟩ := Compiler.exists_definition_of_mem h hs
  refine ⟨node, hnode, fun levels owner required properties hreaches => ?_⟩
  obtain ⟨key, hkey⟩ := Entries.exists_mem_of_get? hnode
  have hdistinct := Document.extract_distinct hspec hread
  have hnames : Source.All Node.HasDistinctNames (.properties owner required properties) := by
    have hcopy : ∀ part : Node, part.HasDistinctNames → part.forCopy.HasDistinctNames := by
      intro part hpart
      cases part <;> exact hpart
    exact .of_reaches hcopy hdistinct hreaches (hdistinct _ hkey)
  rw [Compiler.buildFields_eq] at hfields
  -- What a source leads to compiles as well, and what it compiles to is kept in the schema.
  have hvalue : (c.rules definitions).compile (.definition s.1 node) = .ok (.map s.2.fields) :=
    map_eq_ok_iff.mpr ⟨s.2.fields, hfields, rfl⟩
  obtain ⟨hplain, w, hw, hkeeps⟩ :=
    exists_compile_of_reaches hdefinitions hreaches (hdefinitions _ hkey) hvalue
  obtain ⟨fields, hbuild, rfl⟩ := map_eq_ok_iff.mp hw
  obtain ⟨facts, hobject⟩ := hplain
  obtain ⟨_, hnodup⟩ := hnames
  refine ⟨fields, hbuild, hkeeps fields
    (BuildRules.isField_of_untyped hobject.self.2 hbuild) .whole, ?_⟩
  have hunmarked : ∀ owner target copy,
      expansion c.overrides definitions c.config.maxReferenceDepth levels owner target = .ok copy →
        Entries.get? copy (.str "required") ≠ some (.bool true) :=
    fun _ _ _ hcopy => BuildRules.fieldProperty_unmarked.expansion _ _ _ _ hcopy
  exact requiredWhereDue hunmarked hobject hnodup.self hbuild

namespace Sample

/-- An order that requires all of its properties, a reserved name and one that is not declared, with
a customer, a state, lines that require something themselves, and other orders. -/
def depot : Value := .object [("definitions", .object [
  ("Order", .object [("type", .str "object"),
    ("required", .list [.str "color", .str "lines", .str "_id", .str "others", .str "state",
      .str "customer", .str "number"]),
    ("properties", .object [
      ("number", .object [("type", .str "integer")]),
      ("customer", .object [("$ref", .str "#/definitions/Customer")]),
      ("state", .object [("$ref", .str "#/definitions/State")]),
      ("lines", .object [("type", .str "array"), ("items", .object [("type", .str "object"),
        ("required", .list [.str "part"]),
        ("properties", .object [("part", .object [("type", .str "string")])])])]),
      ("others", .object [("type", .str "array"),
        ("items", .object [("$ref", .str "#/definitions/Order")])])])]),
  ("Customer", .object [("type", .str "object"), ("required", .list [.str "name"]),
    ("properties", .object [("name", .object [("type", .str "string")])])]),
  ("State", .object [("type", .str "string")])])]

end Sample

/-- The depot compiles and its definitions are plain. An order has to have a number, a state and
lines; a customer and other orders are no single fields. -/
theorem marks_where_due_depot :
    ∃ schemas, Store.compileSpec .initial Sample.depot = .ok schemas ∧
      schemas.map (fun s => JsonSchema.requiredNames s.2.fields) =
        [[.str "number", .str "state", .str "lines"], [.str "name"], []] ∧
      ∃ c definitions, Compiler.ofConfig .initial = .ok c ∧
        c.extract Sample.depot = .ok definitions ∧
        definitions.Plain ∧ definitions.keys ⊆ schemas.keys ∧
        ∀ s ∈ schemas, ∃ node, Entries.get? definitions s.1 = some node ∧
          ∀ levels owner required properties,
            Relation.ReflTransGen (Source.Leads definitions)
              (c.config.maxReferenceDepth.toNat, .definition s.1 node)
              (levels, .properties owner required properties) →
            ∃ fields,
              (rulesWithin c.overrides definitions c.config.maxReferenceDepth
                levels).buildProperties owner required properties = .ok fields ∧
              Value.Part (.map fields) (.map s.2.fields) ∧
              RequiredWhereDue
                (rulesWithin c.overrides definitions c.config.maxReferenceDepth levels) owner
                required properties fields := by
  have hnames : (Store.compileSpec .initial Sample.depot).map
    (·.map fun s => JsonSchema.requiredNames s.2.fields) =
      .ok [[.str "number", .str "state", .str "lines"], [.str "name"], []] := by
    decide +kernel
  obtain ⟨schemas, hschemas, hrequired⟩ := map_eq_ok_iff.mp hnames
  obtain ⟨c, definitions, hc, hread, hall⟩ := marks_where_due (by decide +kernel) hschemas
  have hplain : definitions.Plain := Compiler.of_decide_extract (by decide +kernel) hc hread
  exact ⟨schemas, hschemas, hrequired, c, definitions, hc, hread, hplain, hall hplain⟩

end ApiStore
