import ApiStore.Proofs.Insertion
/-
`Preparation.lean` -- preparing a document is harmless.

A document is prepared before it is checked: a strict collection drops the keys that it does
not know, and whatever the collection is, fields that are missing get their defaults. So what
is checked is not what was given, and three options of the definition have a say in what it
is. None of that reaches the verdict. A check of a table looks at the declared names and at
nothing else (`issues_congr`), and under a declared name a document is prepared in one way
whatever the options say: it keeps what it has there, and has the default otherwise
(`get?_prepared`). Two collections of the same fields that differ in their options therefore
find the same issues, in the same order, or end in the same fault.

**Twice is once.** A prepared document has only keys that are kept and lacks no default, so
preparing it again changes nothing.
-/
set_option autoImplicit false

namespace ApiStore

/-! ## 1. Checks look at declared names only -/

namespace JsonSchema

/-- Tables that agree under the keys of some properties are found the same there. -/
theorem propertyIssues_congr {schemas : List (Scalar × List Keyword)}
    {entries others : Entries Value}
    (h : ∀ property ∈ schemas, Entries.get? entries property.1 = Entries.get? others property.1) :
    propertyIssues schemas entries = propertyIssues schemas others := by
  induction schemas with
  | nil => rfl
  | cons property rest ih =>
    obtain ⟨key, schema⟩ := property
    obtain ⟨hkey, hrest⟩ := List.forall_mem_cons.mp h
    rw [propertyIssues_cons, propertyIssues_cons, hkey, ih hrest]

/-- Tables that agree on the required names lack the same ones. -/
theorem requiredIssues_congr {names : List Scalar} {entries others : Entries Value}
    (h : ∀ name ∈ names, Entries.get? entries name = Entries.get? others name) :
    requiredIssues names (.map entries) = requiredIssues names (.map others) := by
  unfold requiredIssues
  refine List.flatMap_congr fun name hname => ?_
  rw [Entries.contains, Entries.contains, h name hname]

end JsonSchema

namespace Collection

/-- Tables that agree under the names of all fields are found the same by a field map. -/
theorem issues_congr {c : Collection} (hmap : isField c.fields = false)
    {entries others : Entries Value}
    (h : ∀ key ∈ c.fields.keys, Entries.get? entries key = Entries.get? others key) :
    JsonSchema.issues c.jsonSchema (.map entries) = JsonSchema.issues c.jsonSchema
      (.map others) := by
  have hproperties : JsonSchema.propertyIssues (JsonSchema.ofEntries c.fields) entries =
      JsonSchema.propertyIssues (JsonSchema.ofEntries c.fields) others := by
    refine JsonSchema.propertyIssues_congr ?_
    rw [JsonSchema.ofEntries_eq_map, List.forall_mem_map]
    exact fun field hfield => h _ (List.mem_map_of_mem hfield)
  have hrequired : JsonSchema.requiredIssues (JsonSchema.requiredNames c.fields) (.map entries) =
      JsonSchema.requiredIssues (JsonSchema.requiredNames c.fields) (.map others) := by
    refine JsonSchema.requiredIssues_congr fun name hname => ?_
    obtain ⟨field, hfield, -, -, rfl⟩ := JsonSchema.mem_requiredNames_iff.mp hname
    exact h _ (List.mem_map_of_mem hfield)
  rw [issues_jsonSchema_map hmap, issues_jsonSchema_map hmap, hproperties, hrequired]

/-! ## 2. Defaults -/

section Defaults

variable {fields document : Entries Value} {field : Scalar × Value} {s : String}

/-- The defaults of the single fields among some fields, under their names. -/
def defaults (fields : Entries Value) : Entries Value :=
  fields.filterMap fun field => if field.2.isField then (field.2.get? "default").map
    (field.1, ·) else none

/-- The defaults are those of the single fields that have one. -/
theorem mem_defaults_iff {key : Scalar} {default : Value} :
    (key, default) ∈ defaults fields ↔
      ∃ spec, (key, spec) ∈ fields ∧ spec.isField = true ∧ spec.get? "default" = some default := by
  simp only [defaults, List.mem_filterMap, Option.ite_none_right_eq_some, Option.map_eq_some_iff,
    Prod.mk.injEq]
  constructor
  · rintro ⟨⟨name, spec⟩, hmem, hfield, _, hdefault, rfl, rfl⟩
    exact ⟨spec, hmem, hfield, hdefault⟩
  · rintro ⟨spec, hmem, hfield, hdefault⟩
    exact ⟨(key, spec), hmem, hfield, default, hdefault, rfl, rfl⟩

/-- Filling in one default: the document has what it had, and otherwise the default. -/
theorem get?_withDefault_str :
    Entries.get? (withDefault document field) (.str s) =
      (Entries.get? document (.str s)).or (Entries.get? (defaults [field]) (.str s)) := by
  obtain ⟨name, spec⟩ := field
  simp only [withDefault, defaults, List.filterMap_cons, List.filterMap_nil]
  cases hfield : spec.isField with
  | false => simp
  | true =>
    cases hdefault : spec.get? "default" with
    | none => simp
    | some default =>
      simp only [if_true, Option.map_some]
      by_cases hname : Entries.contains document name = true
      · -- The field is there. If it is the one that is looked up, its default does not count.
        rw [if_pos hname, Entries.get?]
        by_cases hs : name = .str s
        · obtain ⟨v, hv⟩ := Option.isSome_iff_exists.mp (hs ▸ hname)
          rw [hv, Option.some_or]
        · rw [if_neg (by simpa using hs), Entries.get?_nil, Option.or_none]
      · rw [if_neg hname, Entries.get?_append]

/-- A completed document has its own values, and defaults where it has none. -/
theorem get?_withDefaults_str :
    Entries.get? (withDefaults fields document) (.str s) =
      (Entries.get? document (.str s)).or (Entries.get? (defaults fields) (.str s)) := by
  induction fields generalizing document with
  | nil => exact (Option.or_none).symm
  | cons field rest ih =>
    have hsplit : defaults (field :: rest) = defaults [field] ++ defaults rest := by
      rw [← List.singleton_append, defaults, List.filterMap_append]
      rfl
    rw [withDefaults_cons, ih, get?_withDefault_str, hsplit, Entries.get?_append, Option.or_assoc]

/-- Where no default is missing, none is filled in. -/
theorem withDefaults_eq_self
    (h : ∀ field ∈ fields, field.2.isField = true → (field.2.get? "default").isSome = true →
      Entries.contains document field.1 = true) : withDefaults fields document = document := by
  induction fields with
  | nil => rfl
  | cons field rest ih =>
    obtain ⟨hfield, hrest⟩ := List.forall_mem_cons.mp h
    have hnone : withDefault document field = document := by
      unfold withDefault
      split
      · rename_i hspec hdefault
        rw [if_pos (hfield hspec (by rw [hdefault, Option.isSome_some]))]
      · rfl
    rw [withDefaults_cons, hnone, ih hrest]

end Defaults

/-! ## 3. Preparing a table -/

/-- The key of the revision number is a text, or it says nothing. -/
def HasTextVersionKey (c : Collection) : Prop :=
  (∃ s, c.versionKey = .str s) ∨ c.versionKey.isTruthy = false

section Tables

variable {c : Collection}

/-- Such a key can be the key of an entry. -/
theorem exists_versionKey? (h : c.HasTextVersionKey) : ∃ version, c.versionKey? = .ok version := by
  rcases h with ⟨s, hs⟩ | hnone
  · by_cases htruthy : c.versionKey.isTruthy = true
    · exact ⟨some (.str s), by rw [versionKey?, if_pos htruthy, hs]⟩
    · exact ⟨none, if_neg htruthy⟩
  · exact ⟨none, if_neg (Bool.eq_false_iff.mp hnone)⟩

/-- With a text for the version key, the managed keys are known. -/
theorem exists_managedKeys (h : c.HasTextVersionKey) : ∃ managed, c.managedKeys = .ok managed := by
  obtain ⟨version, hversion⟩ := exists_versionKey? h
  exact ⟨_, by rw [managedKeys, hversion]; rfl⟩

/-- What a strict collection keeps of a table, and a collection that is not strict. -/
def kept (c : Collection) (managed : List Scalar) (document : Entries Value) : Entries Value :=
  if c.isStrict then restrict (c.fields.keys ++ managed) document else document

/-- A table is prepared by dropping what is not kept and adding the defaults. -/
theorem prepare_map (hmap : isField c.fields = false) {managed : List Scalar}
    (hmanaged : c.managedKeys = .ok managed) (document : Entries Value) :
    c.prepare (.map document) =
    .ok (withDefaults c.fields (c.kept managed document)) := by
  have htable : (Value.map document).toTable = .ok document := rfl
  rw [prepare, htable, kept]
  simp only [hmap, hmanaged, bind, Except.bind, pure, Except.pure, Bool.false_eq_true, if_false]
  split <;> rfl

/-- What is kept of a document is taken from it. -/
theorem kept_subset (managed : List Scalar) (document : Entries Value) :
    c.kept managed document ⊆ document := by
  unfold kept
  split
  · exact List.filter_subset_self _
  · exact List.Subset.refl _

/-- Names of fields are kept. -/
theorem get?_kept {s : String} (hs : .str s ∈ c.fields.keys) (managed : List Scalar)
    (document : Entries Value) :
    Entries.get? (c.kept managed document) (.str s) = Entries.get? document (.str s) := by
  unfold kept
  split
  · exact get?_restrict (List.mem_append_left _ hs) document
  · rfl

/-- **Under the name of a field** a prepared table has what the table had, and the default of the
field otherwise. Nothing here depends on the options of the definition. -/
theorem get?_prepared {s : String} (hs : .str s ∈ c.fields.keys) (managed : List Scalar)
    (document : Entries Value) :
    Entries.get? (withDefaults c.fields (c.kept managed document)) (.str s) =
      (Entries.get? document (.str s)).or (Entries.get? (defaults c.fields) (.str s)) := by
  rw [get?_withDefaults_str, get?_kept hs]

/-- Preparing again changes nothing. -/
theorem prepared_again (managed : List Scalar) (document : Entries Value) :
    withDefaults c.fields (c.kept managed (withDefaults c.fields (c.kept managed document))) =
      withDefaults c.fields (c.kept managed document) := by
  -- What is there now was kept, or is under the name of a field; both are kept the second time.
  have hkept : c.kept managed (withDefaults c.fields (c.kept managed document)) =
      withDefaults c.fields (c.kept managed document) := by
    by_cases hstrict : c.isStrict = true
    · simp only [kept, hstrict, if_true]
      refine List.filter_eq_self.mpr fun e he => ?_
      rcases mem_withDefaults he with hmem | ⟨field, hfield, hkey⟩
      · exact (List.mem_filter.mp hmem).2
      · refine List.any_eq_true.mpr ⟨field.1, List.mem_append_left _ (List.mem_map_of_mem hfield),
          ?_⟩
        rw [hkey, Scalar.sameKey_self]
    · simp only [kept, hstrict, Bool.false_eq_true, if_false]
  rw [hkept]
  exact withDefaults_eq_self fun field hmem hfield hdefault =>
    contains_withDefaults_of_default hmem hfield hdefault

/-- A key that a table has only since it was prepared is the name of a single field with a default,
and has that default. -/
theorem added_of_mem_prepared (hnames : c.fields.TextKeys) {managed : List Scalar}
    {document : Entries Value} {key : Scalar}
    (hkey : key ∈ Entries.keys (withDefaults c.fields (c.kept managed document)))
    (hnew : key ∉ document.keys) :
    ∃ spec default, (key, spec) ∈ c.fields ∧ spec.isField = true ∧
      spec.get? "default" = some default ∧
      Entries.get? (withDefaults c.fields (c.kept managed document)) key = some default := by
  obtain ⟨e, he, rfl⟩ := List.mem_map.mp hkey
  rcases mem_withDefaults he with hmem | ⟨field, hfield, hname⟩
  · exact absurd (List.mem_map_of_mem (kept_subset managed document hmem)) hnew
  · obtain ⟨s, hs⟩ := hnames field hfield
    rw [hname, hs] at hkey hnew ⊢
    have hdeclared : .str s ∈ c.fields.keys := hs ▸ List.mem_map_of_mem hfield
    -- The table has nothing there, so what is found is a default.
    obtain ⟨default, hget⟩ := Entries.exists_get?_str_iff.mpr hkey
    have hdefault : Entries.get? (defaults c.fields) (.str s) = some default := by
      rw [get?_prepared hdeclared, Entries.get?_str_eq_none_iff.mpr hnew, Option.none_or] at hget
      exact hget
    obtain ⟨spec, hmem, hspec, hget'⟩ := mem_defaults_iff.mp (Entries.mem_of_get?_str hdefault)
    exact ⟨spec, default, hmem, hspec, hget', hget⟩

end Tables

/-! ## 4. Verdicts -/

section Verdicts

variable {c : Collection}

/-- An insertion is refused for what a check finds, and for nothing else. -/
theorem insert_eq_error_iff (hversion : c.HasTextVersionKey) {stamp : Stamp} {document : Value}
    {f : Failure} :
    c.insert stamp document = .error f ↔
      (∃ fault, c.check document = .error fault ∧ f = .fault fault) ∨
        ∃ report, c.check document = .ok report ∧ report.isValid = false ∧ f = .invalid report := by
  obtain ⟨version, hkey⟩ := exists_versionKey? hversion
  have hstamped : ∀ prepared, ∃ stored, c.stamped stamp prepared = .ok stored := by
    intro prepared
    rw [stamped, hkey]
    exact ⟨_, rfl⟩
  constructor
  · intro h
    rcases Outcome.bind_eq_error_iff.mp h with hprepare | ⟨prepared, hprepare, h⟩
    · obtain ⟨fault, hfault, rfl⟩ := Outcome.mapError_eq_error_iff.mp hprepare
      exact .inl ⟨fault, Outcome.bind_eq_error_iff.mpr (.inl hfault), rfl⟩
    · rw [Outcome.mapError_eq_ok_iff] at hprepare
      rcases Outcome.bind_eq_error_iff.mp h with hvalidate | ⟨report, hreport, h⟩
      · obtain ⟨fault, hfault, rfl⟩ := Outcome.mapError_eq_error_iff.mp hvalidate
        exact .inl ⟨fault, Outcome.bind_eq_error_iff.mpr (.inr ⟨prepared, hprepare, hfault⟩), rfl⟩
      · rw [Outcome.mapError_eq_ok_iff] at hreport
        refine .inr ⟨report, Outcome.bind_eq_ok_iff.mpr ⟨prepared, hprepare, hreport⟩, ?_⟩
        split at h
        · -- A document that is valid can be written to.
          obtain ⟨stored, hstored⟩ := hstamped prepared
          rw [hstored] at h
          cases h
        · rename_i hinvalid
          exact ⟨Bool.eq_false_iff.mpr hinvalid, (Except.error.inj h).symm⟩
  · rintro (⟨fault, hcheck, rfl⟩ | ⟨report, hcheck, hinvalid, rfl⟩)
    · rcases Outcome.bind_eq_error_iff.mp hcheck with hprepare | ⟨prepared, hprepare, hvalidate⟩
      · exact Outcome.bind_eq_error_iff.mpr
          (.inl (Outcome.mapError_eq_error_iff.mpr ⟨fault, hprepare, rfl⟩))
      · refine Outcome.bind_eq_error_iff.mpr
          (.inr ⟨prepared, Outcome.mapError_eq_ok_iff.mpr hprepare, ?_⟩)
        exact Outcome.bind_eq_error_iff.mpr
          (.inl (Outcome.mapError_eq_error_iff.mpr ⟨fault, hvalidate, rfl⟩))
    · obtain ⟨prepared, hprepare, hreport⟩ := Outcome.bind_eq_ok_iff.mp hcheck
      refine Outcome.bind_eq_error_iff.mpr
        (.inr ⟨prepared, Outcome.mapError_eq_ok_iff.mpr hprepare, ?_⟩)
      refine Outcome.bind_eq_error_iff.mpr
        (.inr ⟨report, Outcome.mapError_eq_ok_iff.mpr hreport, ?_⟩)
      rw [if_neg (Bool.eq_false_iff.mp hinvalid)]
      rfl

/-- Collections of the same name and the same fields come to the same verdict, whatever their
options are. -/
theorem check_eq_of_fields {d : Collection} (hmap : isField c.fields = false)
    (hnames : c.fields.TextKeys) (hversion : c.HasTextVersionKey) (hversion' : d.HasTextVersionKey)
    (hname : d.name = c.name) (hfields : d.fields = c.fields) (document : Entries Value) :
    ∃ prepared other, c.prepare (.map document) = .ok prepared ∧
      d.prepare (.map document) = .ok other ∧
      d.validate (.map other) = c.validate (.map prepared) := by
  obtain ⟨managed, hmanaged⟩ := exists_managedKeys hversion
  obtain ⟨managed', hmanaged'⟩ := exists_managedKeys hversion'
  refine ⟨_, _, prepare_map hmap hmanaged document, prepare_map (hfields ▸ hmap) hmanaged' document,
    ?_⟩
  have hschema : d.jsonSchema = c.jsonSchema := by
    change JsonSchema.ofSchema d.schema = JsonSchema.ofSchema c.schema
    rw [JsonSchema.ofSchema, JsonSchema.ofSchema, show d.schema.name = c.schema.name from hname,
      show d.schema.fields = c.schema.fields from hfields]
  -- The two tables may have different keys, but under the names of the fields they agree.
  have hagree : ∀ key ∈ c.fields.keys,
    Entries.get? (withDefaults d.fields (d.kept managed' document)) key =
      Entries.get? (withDefaults c.fields (c.kept managed document)) key := by
    intro key hkey
    obtain ⟨field, hfield, rfl⟩ := List.mem_map.mp hkey
    obtain ⟨s, hs⟩ := hnames field hfield
    rw [hs] at hkey ⊢
    rw [get?_prepared hkey, get?_prepared (hfields ▸ hkey), hfields]
  rw [validate, validate, hname, hschema, issues_congr hmap hagree]

end Verdicts

/-- A table that was prepared, against the table as it was. -/
structure Prepared (c : Collection) (document prepared : Entries Value) : Prop where
  /-- Preparing it again changes nothing. -/
  again : c.prepare (.map prepared) = .ok prepared
  /-- A field that was there has the value that it had. -/
  keeps : ∀ key ∈ c.fields.keys, ∀ v, Entries.get? document key = some v →
    Entries.get? prepared key = some v
  /-- A key that was not there is the name of a single field with a default, and has that
  default. -/
  adds : ∀ key ∈ prepared.keys, key ∉ document.keys → ∃ spec default, (key, spec) ∈ c.fields ∧
    spec.isField = true ∧
    spec.get? "default" = some default ∧ Entries.get? prepared key = some default

/-- **Preparing a document is harmless.** A collection of a field map prepares every table, and
preparing it again changes nothing. Fields that are there keep their values, and what is added are
defaults of fields that are not there. Every collection of the same name and fields, strict or not,
finds the same issues at the table as it prepares it, and refuses to insert it for the same reason
if it does. -/
theorem prepare_is_harmless {c : Collection} (hmap : isField c.fields = false)
    (hnames : c.fields.TextKeys) (hversion : c.HasTextVersionKey) (document : Entries Value) :
    ∃ prepared, c.prepare (.map document) = .ok prepared ∧ c.Prepared document prepared ∧
      ∀ d : Collection, d.name = c.name → d.fields = c.fields → d.HasTextVersionKey →
        (∃ other, d.prepare (.map document) = .ok other ∧
          d.validate (.map other) = c.validate (.map prepared)) ∧
          d.check (.map document) = c.check (.map document) ∧
          ∀ stamp stamp' f, d.insert stamp' (.map document) = .error f ↔
            c.insert stamp (.map document) = .error f := by
  obtain ⟨managed, hmanaged⟩ := exists_managedKeys hversion
  have hprepare := prepare_map hmap hmanaged document
  refine ⟨_, hprepare, ⟨?_, ?_, ?_⟩, ?_⟩
  · rw [prepare_map hmap hmanaged, prepared_again]
  · intro key hkey v hv
    obtain ⟨field, hfield, rfl⟩ := List.mem_map.mp hkey
    obtain ⟨s, hs⟩ := hnames field hfield
    rw [hs] at hkey hv ⊢
    rw [get?_prepared hkey, hv, Option.some_or]
  · intro key hkey hnew
    exact added_of_mem_prepared hnames hkey hnew
  · intro d hname hfields hversion'
    obtain ⟨prepared, other, hprepared, hother, hsame⟩ :=
      check_eq_of_fields hmap hnames hversion hversion' hname hfields document
    obtain rfl : _ = prepared := Except.ok.inj (hprepare.symm.trans hprepared)
    have hcheck : d.check (.map document) = c.check (.map document) := by
      rw [check, check, hother, hprepare]
      exact hsame
    refine ⟨⟨other, hother, hsame⟩, hcheck, fun stamp stamp' f => ?_⟩
    rw [insert_eq_error_iff hversion', insert_eq_error_iff hversion, hcheck]

end Collection

namespace Sample

/-- Cats, whose mood is calm unless they say otherwise. -/
def cats (options : Entries Value) : Collection := .ofSchema
  { name := "Cat"
    fields := [(.str "name", .object [("type", .str "String"), ("required", .bool true)]),
      (.str "mood", .object [("type", .str "String"), ("default", .str "calm")])]
    options := options }

/-- A cat whose name is a number, and of whom more is known than was asked for. -/
def tom : Entries Value := [(.str "age", .int 3), (.str "name", .int 7)]

end Sample

/-- A strict collection drops the age of the cat and one that is not strict keeps it. Both make the
cat calm, and both find fault with its name only. -/
theorem prepare_is_harmless_tom :
    ∃ strict loose, (Sample.cats []).prepare (.map Sample.tom) = .ok strict ∧
      (Sample.cats [(.str "strict", .bool false)]).prepare (.map Sample.tom) = .ok loose ∧
      strict = [(.str "name", .int 7), (.str "mood", .str "calm")] ∧
      loose = [(.str "age", .int 3), (.str "name", .int 7), (.str "mood", .str "calm")] ∧
      (Sample.cats []).Prepared Sample.tom strict ∧
      (Sample.cats [(.str "strict", .bool false)]).validate (.map loose) =
        (Sample.cats []).validate (.map strict) := by
  have hnames : (Sample.cats []).fields.TextKeys := by
    intro entry hentry
    simp only [Sample.cats, Collection.fields, Collection.ofSchema, List.mem_cons, List.not_mem_nil,
      or_false] at hentry
    rcases hentry with rfl | rfl <;> exact ⟨_, rfl⟩
  obtain ⟨strict, hstrict, hprepared, hothers⟩ :=
    Collection.prepare_is_harmless (c :=
      Sample.cats []) (by decide) hnames (.inl ⟨"__v", rfl⟩) Sample.tom
  obtain ⟨⟨loose, hloose, hsame⟩, -, -⟩ :=
    hothers (Sample.cats [(.str "strict", .bool false)]) rfl rfl (.inl ⟨"__v", rfl⟩)
  refine ⟨strict, loose, hstrict, hloose, ?_, ?_, hprepared, hsame⟩
  · exact Except.ok.inj (hstrict.symm.trans (by decide))
  · exact Except.ok.inj (hloose.symm.trans (by decide))

end ApiStore
