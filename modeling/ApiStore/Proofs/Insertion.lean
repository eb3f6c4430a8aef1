import ApiStore.Proofs.Collection
import ApiStore.Proofs.Schemas
/-
`Insertion.lean` -- what a collection stores, and how it differs from what was inserted.

A document is prepared, checked, and only then given the keys that the collection manages:
an identity if it has none, a revision number, two times. The name of the revision number
is an option of the definition, so it may well be the name of a field, and so may the names
of the times. Such a field is the collection's own: what is stored under it is not what was
inserted, and was not checked.

**Everything else is as it was inserted, and as it was checked.** Names that are written to
(`Collection.written`) are the only exception: every other field of a stored document holds
the value that was inserted, and a second check finds nothing wrong with it. If no field has
such a name, what is stored is valid as a whole. `insert_eq_ok_iff` says what one insertion
does. What it answers depends on the schema only, so a run of insertions leaves the answers of
those that succeed (`insertAll_eq`).
-/
set_option autoImplicit false

namespace ApiStore

namespace Collection

/-! ## 1. Keys that are written -/

/-- What a collection writes into a document after it was checked, whether or not it has something
there. -/
def written (c : Collection) (stamp : Stamp) : Except Fault (Entries Value) :=
  c.versionKey?.map fun version =>
    version.toList.map (fun key => (key, .int 0)) ++
      if c.keepsTimes then timeKeys.map fun key => (key, .scalar (.dateTime stamp.now)) else []

/-- A document with an identity: its own, or that of the stamp. -/
def identified (stamp : Stamp) (document : Entries Value) : Entries Value :=
  if Entries.contains document idKey then document
  else Entries.insert document idKey (.str stamp.id)

theorem stamped_eq (c : Collection) (stamp : Stamp) (document : Entries Value) :
    c.stamped stamp document = (c.written stamp).map fun own =>
      (identified stamp document).overlay own := by
  unfold stamped written
  cases c.versionKey? with
  | error fault => rfl
  | ok version => cases version <;> cases c.keepsTimes <;> rfl

/-- The identity is no matter for other keys. -/
theorem get?_identified (stamp : Stamp) (document : Entries Value) {s : String} (h : s ≠ "_id") :
    Entries.get? (identified stamp document) (.str s) = Entries.get? document (.str s) := by
  have hid : idKey ≠ .str s := by
    intro heq
    exact h (Scalar.str.inj heq).symm
  unfold identified
  split
  · rfl
  · rw [Entries.get?_insert_str, if_neg hid]

/-! ## 2. Checking a table -/

section Checks

variable {c : Collection} (h : isField c.fields = false) (entries : Entries Value)
include h

/-- Of a table a field map finds what is wrong with the fields that are there, and what is
missing. -/
theorem issues_jsonSchema_map :
    JsonSchema.issues c.jsonSchema (.map entries) =
      (JsonSchema.propertyIssues (JsonSchema.ofEntries c.fields) entries).map
        (· ++ JsonSchema.requiredIssues (JsonSchema.requiredNames c.fields) (.map entries)) := by
  have hf : ¬ isField c.schema.fields = true := Bool.eq_false_iff.mp h
  have htype : JsonSchema.keywordIssues (.type (.str "object")) (.map entries) = .ok [] :=
    (JsonSchema.type_object_decides _).2.mpr ⟨entries, rfl⟩
  have hproperties : JsonSchema.keywordIssues (.properties (JsonSchema.ofEntries c.fields))
    (.map entries) = JsonSchema.propertyIssues (JsonSchema.ofEntries c.fields) entries := by
    rw [JsonSchema.keywordIssues]
  have hrequired : JsonSchema.issues (if (JsonSchema.requiredNames c.fields).isEmpty then []
      else [.required (JsonSchema.requiredNames c.fields)]) (.map entries) =
        .ok (JsonSchema.requiredIssues (JsonSchema.requiredNames c.fields) (.map entries)) := by
    split
    · rename_i hempty
      rw [List.isEmpty_iff.mp hempty]
      rfl
    · rw [JsonSchema.issues, JsonSchema.keywordIssues]
      exact congrArg Except.ok (List.append_nil _)
  -- The dialect and the title are silent, and a table is of the type that is asked for.
  rw [jsonSchema, JsonSchema.ofSchema, JsonSchema.ofValue, if_neg hf, JsonSchema.ofProperties]
  change JsonSchema.issues (.dialect schemaDialect :: .title c.name :: .type (.str "object") ::
    .properties (JsonSchema.ofEntries c.fields) ::
      (if (JsonSchema.requiredNames c.fields).isEmpty then []
      else [.required (JsonSchema.requiredNames c.fields)])) (.map entries) = _
  simp only [JsonSchema.issues]
  rw [htype, hproperties, hrequired]
  cases JsonSchema.propertyIssues (JsonSchema.ofEntries c.fields) entries <;> rfl

/-- Nothing is found if every field is fine and every required one is there. -/
theorem issues_jsonSchema_eq_nil_iff :
    JsonSchema.issues c.jsonSchema (.map entries) = .ok [] ↔
      (∀ field ∈ c.fields,
        JsonSchema.presentIssues (JsonSchema.ofValue field.2) (Entries.get? entries field.1) =
          .ok []) ∧
      ∀ name ∈ JsonSchema.requiredNames c.fields, Entries.contains entries name = true := by
  have hproperties : JsonSchema.propertyIssues (JsonSchema.ofEntries c.fields) entries = .ok [] ↔
      ∀ field ∈ c.fields,
        JsonSchema.presentIssues (JsonSchema.ofValue field.2) (Entries.get? entries field.1) =
          .ok [] := by
    rw [JsonSchema.propertyIssues_eq_nil_iff, JsonSchema.ofEntries_eq_map, List.forall_mem_map]
    simp only [JsonSchema.presentIssues_eq_nil_iff]
  rw [issues_jsonSchema_map h, Outcome.map_eq_ok_iff, ← hproperties,
    ← JsonSchema.requiredIssues_eq_nil_iff]
  constructor
  · rintro ⟨found, hfound, hnone⟩
    obtain ⟨rfl, hrequired⟩ := List.append_eq_nil_iff.mp hnone
    exact ⟨hfound, hrequired⟩
  · rintro ⟨hfound, hrequired⟩
    exact ⟨[], hfound, by rw [hrequired]; rfl⟩

/-- If nothing required is missing, whatever is found is found at a field that is not fine. -/
theorem exists_field_of_mem_issues {found : List Issue}
    (hfound : JsonSchema.issues c.jsonSchema (.map entries) = .ok found)
    (hrequired : ∀ name ∈ JsonSchema.requiredNames c.fields, Entries.contains entries name = true)
    {issue : Issue} (hissue : issue ∈ found) :
    ∃ field ∈ c.fields, issue.place.head? = some field.1 ∧
      JsonSchema.presentIssues (JsonSchema.ofValue field.2)
        (Entries.get? entries field.1) ≠ .ok [] := by
  rw [issues_jsonSchema_map h, Outcome.map_eq_ok_iff,
    JsonSchema.requiredIssues_eq_nil_iff.mpr hrequired] at hfound
  obtain ⟨atFields, hfields, rfl⟩ := hfound
  rw [List.append_nil] at hissue
  obtain ⟨property, hproperty, hbad, hplace⟩ :=
    JsonSchema.exists_property_of_mem_issues hfields hissue
  rw [JsonSchema.ofEntries_eq_map] at hproperty
  obtain ⟨field, hfield, rfl⟩ := List.mem_map.mp hproperty
  exact ⟨field, hfield, hplace, hbad⟩

end Checks

/-! ## 3. One insertion -/

/-- How a document comes to be stored: it is prepared, found to be valid, and written to. -/
structure Insertion (c : Collection) (stamp : Stamp) (document : Value)
    (prepared own stored : Entries Value) : Prop where
  prepares : c.prepare document = .ok prepared
  valid : JsonSchema.issues c.jsonSchema (.map prepared) = .ok []
  writes : c.written stamp = .ok own
  stores : stored = (identified stamp prepared).overlay own

/-- An insertion that succeeds appends the document that it answers with. -/
theorem insert_eq_ok_iff {c changed : Collection} {stamp : Stamp} {document : Value}
    {stored : Entries Value} :
    c.insert stamp document = .ok (changed, stored) ↔
      (∃ prepared own, c.Insertion stamp document prepared own stored) ∧
        changed = { c with documents := c.documents ++ [stored] } := by
  constructor
  · intro h
    obtain ⟨prepared, hprepared, h⟩ := Outcome.bind_eq_ok_iff.mp h
    obtain ⟨report, hreport, h⟩ := Outcome.bind_eq_ok_iff.mp h
    obtain ⟨found, hfound, rfl⟩ := Outcome.map_eq_ok_iff.mp (Outcome.mapError_eq_ok_iff.mp hreport)
    split at h
    · rename_i hvalid
      obtain rfl : found = [] := List.isEmpty_iff.mp hvalid
      obtain ⟨made, hmade, h⟩ := Outcome.bind_eq_ok_iff.mp h
      rw [Outcome.mapError_eq_ok_iff, stamped_eq, Outcome.map_eq_ok_iff] at hmade
      obtain ⟨own, hown, rfl⟩ := hmade
      obtain ⟨rfl, rfl⟩ := Prod.mk.inj (Except.ok.inj h)
      exact ⟨⟨prepared, own, Outcome.mapError_eq_ok_iff.mp hprepared, hfound, hown, rfl⟩, rfl⟩
    · cases h
  · rintro ⟨⟨prepared, own, hprepared, hvalid, hown, rfl⟩, rfl⟩
    have hreport : c.validate (.map prepared) = .ok { model := c.name, issues := [] } := by
      rw [validate, hvalid]
      rfl
    -- From here on the insertion is run: what was prepared passes the check and is stamped.
    have hstamped : c.stamped stamp prepared = .ok ((identified stamp prepared).overlay own) := by
      rw [stamped_eq, hown]
      rfl
    rw [Collection.insert, hprepared]
    change Except.mapError Failure.fault (c.validate (.map prepared)) >>= _ = _
    rw [hreport]
    change Except.mapError Failure.fault (c.stamped stamp prepared) >>= _ = _
    rw [hstamped]
    rfl

/-- A stored document against the table that was inserted, and the keys that were written to. -/
structure Keeps (c : Collection) (own table stored : Entries Value) : Prop where
  /-- A field that was inserted and is not written to holds what was inserted. -/
  supplied : ∀ key ∈ c.fields.keys, key ∉ own.keys → ∀ v, Entries.get? table key = some v →
    Entries.get? stored key = some v
  /-- A field that is written to holds what is written. -/
  replaced : ∀ key ∈ c.fields.keys, key ∈ own.keys →
    Entries.get? stored key = Entries.get? (Entries.ofList own) key
  /-- Whatever a check of the stored document finds is found at a field that is written to. -/
  findings : ∀ report, c.validate (.map stored) = .ok report → ∀ issue ∈ report.issues,
    ∃ key ∈ c.fields.keys, key ∈ own.keys ∧ issue.place.head? = some key
  /-- If no field is written to, it finds nothing. -/
  valid : (∀ key ∈ c.fields.keys, key ∉ own.keys) →
    c.validate (.map stored) = .ok { model := c.name, issues := [] }

section Insertions

variable {c : Collection} {stamp : Stamp} {document : Value} {prepared own stored : Entries Value}

/-- The fields of a collection have names that are not reserved. -/
def NamesFree (c : Collection) : Prop :=
  ∀ key ∈ c.fields.keys, ∃ name, key = .str name ∧ reservedNames.contains name = false

variable (h : c.Insertion stamp document prepared own stored) (hnames : c.NamesFree)
include h hnames

/-- Under the name of a field, a document is stored as it is written to, or else as it was
prepared. -/
theorem Insertion.get?_field {key : Scalar} (hkey : key ∈ c.fields.keys) :
    Entries.get? stored key = (Entries.get? (Entries.ofList own) key).or
      (Entries.get? prepared key) := by
  obtain ⟨name, rfl, hname⟩ := hnames key hkey
  -- The name of the identity is reserved, so it is the name of no field.
  have hid : name ≠ "_id" := by
    rintro rfl
    exact absurd hname (by decide)
  rw [h.stores, Entries.get?_overlay_str, get?_identified stamp prepared hid]

/-- A field that is not written to is stored as it was prepared. -/
theorem Insertion.get?_unwritten {key : Scalar} (hkey : key ∈ c.fields.keys)
    (hown : key ∉ own.keys) :
    Entries.get? stored key = Entries.get? prepared key := by
  obtain ⟨name, rfl, -⟩ := hnames key hkey
  have hnone : Entries.get? (Entries.ofList own) (.str name) = none :=
    Entries.get?_overlay_of_not_mem_keys [] hown
  rw [h.get?_field hnames hkey, hnone, Option.none_or]

/-- A field that is written to is stored as it is written. -/
theorem Insertion.get?_written {key : Scalar} (hkey : key ∈ c.fields.keys) (hown : key ∈ own.keys) :
    Entries.get? stored key = Entries.get? (Entries.ofList own) key := by
  obtain ⟨name, rfl, -⟩ := hnames key hkey
  have hall : .str name ∈ (Entries.ofList own).keys := Entries.mem_keys_overlay_str.mpr (.inl hown)
  obtain ⟨v, hv⟩ := Entries.exists_get?_str_iff.mpr hall
  rw [h.get?_field hnames hkey, hv, Option.some_or]

variable (hfield : isField c.fields = false)
include hfield

/-- Writing into a document removes nothing, so what is required is still there. -/
theorem Insertion.contains_required :
    ∀ name ∈ JsonSchema.requiredNames c.fields, Entries.contains stored name = true := by
  intro name hname
  obtain ⟨field, hmem, -, -, rfl⟩ := JsonSchema.mem_requiredNames_iff.mp hname
  have hbefore := ((issues_jsonSchema_eq_nil_iff hfield prepared).mp h.valid).2 _ hname
  rw [Entries.contains] at hbefore
  rw [Entries.contains, h.get?_field hnames (List.mem_map_of_mem hmem), Option.isSome_or, hbefore,
    Bool.or_true]

/-- A field that is not written to is fine, as it was when the document was checked. -/
theorem Insertion.fine_of_unwritten {field : Scalar × Value} (hmem : field ∈ c.fields)
    (hown : field.1 ∉ own.keys) :
    JsonSchema.presentIssues (JsonSchema.ofValue field.2) (Entries.get? stored field.1) =
      .ok [] := by
  rw [h.get?_unwritten hnames (List.mem_map_of_mem hmem) hown]
  exact ((issues_jsonSchema_eq_nil_iff hfield prepared).mp h.valid).1 field hmem

/-- **The step.** An insertion keeps what was inserted and what was checked, under all names of
fields that are not written to. -/
theorem Insertion.keeps : ∃ table, document.toTable = .ok table ∧ c.Keeps own table stored := by
  obtain ⟨table, kept, htable, -⟩ := prepare_of_not_isField hfield h.prepares
  refine ⟨table, htable, ?_, fun key => h.get?_written hnames, ?_, ?_⟩
  · intro key hkey hown v hv
    obtain ⟨name, rfl, -⟩ := hnames key hkey
    obtain ⟨same, hsame, hprepared⟩ := get?_prepare hfield h.prepares hkey
    obtain rfl : table = same := Except.ok.inj (htable.symm.trans hsame)
    rw [h.get?_unwritten hnames hkey hown]
    exact hprepared v hv
  · intro report hreport issue hissue
    obtain ⟨found, hfound, rfl⟩ := Outcome.map_eq_ok_iff.mp hreport
    obtain ⟨field, hmem, hplace, hbad⟩ :=
      exists_field_of_mem_issues hfield stored hfound (h.contains_required hnames hfield) hissue
    refine ⟨field.1, List.mem_map_of_mem hmem, ?_, hplace⟩
    -- An issue at a field that is not written to would have been found when the document was
    -- checked.
    by_contra hown
    exact hbad (h.fine_of_unwritten hnames hfield hmem hown)
  · intro hfree
    have hnothing : JsonSchema.issues c.jsonSchema (.map stored) = .ok [] := by
      refine (issues_jsonSchema_eq_nil_iff hfield stored).mpr
        ⟨fun field hmem => ?_, h.contains_required hnames hfield⟩
      exact h.fine_of_unwritten hnames hfield hmem (hfree _ (List.mem_map_of_mem hmem))
    rw [validate, hnothing]
    rfl

end Insertions

/-! ## 4. Any number of insertions -/

/-- A collection after some insertions; one that fails changes nothing. -/
def insertAll (c : Collection) : List (Stamp × Value) → Collection
  | [] => c
  | (stamp, document) :: rest =>
    match c.insert stamp document with
    | .ok (changed, _) => changed.insertAll rest
    | .error _ => c.insertAll rest

/-- The document that an insertion answers with, as it is stored; none if the insertion fails. -/
def answer? (c : Collection) (insertion : Stamp × Value) : Option (Entries Value) :=
  match c.insert insertion.1 insertion.2 with
  | .ok (_, stored) => some stored
  | .error _ => none

section Run

variable {c : Collection} {stamp : Stamp} {document : Value} {stored : Entries Value}

/-- An insertion that has an answer succeeds, and appends it. -/
theorem insert_of_answer? (h : c.answer? (stamp, document) = some stored) :
    c.insert stamp document = .ok ({ c with documents := c.documents ++ [stored] }, stored) := by
  rw [answer?] at h
  split at h
  · rename_i changed answer hinsert
    obtain rfl := Option.some.inj h
    obtain ⟨-, rfl⟩ := insert_eq_ok_iff.mp hinsert
    exact hinsert
  · cases h

/-- It has one if the document can be stored. -/
theorem answer?_eq_some_iff :
    c.answer? (stamp, document) = some stored ↔
      ∃ prepared own, c.Insertion stamp document prepared own stored := by
  constructor
  · intro h
    exact (insert_eq_ok_iff.mp (insert_of_answer? h)).1
  · intro h
    rw [answer?, insert_eq_ok_iff.mpr ⟨h, rfl⟩]

/-- Preparing, checking and stamping look at the schema only, so what a collection holds already
makes no difference to the answers that it gives. -/
theorem answer?_documents (c : Collection) (documents : List (Entries Value)) :
    answer? { c with documents := documents } = c.answer? := by
  funext ⟨stamp, document⟩
  refine Option.ext fun stored => ?_
  rw [answer?_eq_some_iff, answer?_eq_some_iff]
  constructor
  · rintro ⟨prepared, own, h⟩
    exact ⟨prepared, own, h.prepares, h.valid, h.writes, h.stores⟩
  · rintro ⟨prepared, own, h⟩
    exact ⟨prepared, own, h.prepares, h.valid, h.writes, h.stores⟩

/-- **The run.** What a run of insertions leaves is what was there before and, behind that, the
answers of the insertions that succeed, in order. -/
theorem insertAll_eq (c : Collection) (inserts : List (Stamp × Value)) :
    c.insertAll inserts = { c with documents := c.documents ++ inserts.filterMap c.answer? } := by
  induction inserts generalizing c with
  | nil =>
    rw [insertAll, List.filterMap_nil, List.append_nil]
  | cons first rest ih =>
    obtain ⟨stamp, document⟩ := first
    rw [insertAll]
    cases hinsert : c.insert stamp document with
    | error e =>
      have hnone : c.answer? (stamp, document) = none := by rw [answer?, hinsert]
      rw [List.filterMap_cons_none hnone]
      exact ih c
    | ok inserted =>
      obtain ⟨changed, stored⟩ := inserted
      have hsome : c.answer? (stamp, document) = some stored := by rw [answer?, hinsert]
      obtain ⟨-, rfl⟩ := insert_eq_ok_iff.mp hinsert
      -- The rest is inserted into the changed collection, which gives the same answers.
      change insertAll { c with documents := c.documents ++ [stored] } rest = _
      rw [ih, answer?_documents, List.filterMap_cons_some hsome, List.append_assoc,
        List.singleton_append]

/-- So the documents of a collection afterwards are those that were there before, and those that
some insertion of the run stores. -/
theorem mem_insertAll_iff {inserts : List (Stamp × Value)} :
    stored ∈ (c.insertAll inserts).documents ↔
      stored ∈ c.documents ∨
        ∃ stamp document prepared own, (stamp, document) ∈ inserts ∧
          c.Insertion stamp document prepared own stored := by
  rw [insertAll_eq, List.mem_append, List.mem_filterMap]
  refine or_congr_right ⟨?_, ?_⟩
  · rintro ⟨⟨stamp, document⟩, hmem, hanswer⟩
    obtain ⟨prepared, own, hinsertion⟩ := answer?_eq_some_iff.mp hanswer
    exact ⟨stamp, document, prepared, own, hmem, hinsertion⟩
  · rintro ⟨stamp, document, prepared, own, hmem, hinsertion⟩
    exact ⟨(stamp, document), hmem, answer?_eq_some_iff.mpr ⟨prepared, own, hinsertion⟩⟩

/-- In the middle of a run an insertion that has an answer succeeds with it, and leaves what the run
leaves up to there. -/
theorem insert_insertAll (h : c.answer? (stamp, document) = some stored)
    (before : List (Stamp × Value)) :
    (c.insertAll before).insert stamp document =
      .ok (c.insertAll (before ++ [(stamp, document)]), stored) := by
  have hanswer : (c.insertAll before).answer? (stamp, document) = some stored := by
    rw [insertAll_eq, answer?_documents]
    exact h
  rw [insert_of_answer? hanswer, insertAll_eq, insertAll_eq, List.filterMap_append,
    List.filterMap_cons_some h, List.filterMap_nil, List.append_assoc]

end Run

end Collection

/-- **What is stored is what was inserted, and valid, but for what the collection writes itself.**
The documents in the collection of a compiled schema, after a run of insertions, are the answers of
those that succeed, in order. Each of these succeeds in its turn, with that answer, and appends it.
Every field of the answer that the collection does not write to holds the value that was inserted,
if there was one; what a check of the answer finds is found at a field that the collection writes
to; and if it writes to none, the answer is valid. -/
theorem stored_keeps_inserted {c : Compiler} {definitions : Definitions}
    {names : Option (List Scalar)} {schemas : Entries Schema}
    (h : c.buildSchemas definitions names = .ok schemas) {entry : Scalar × Schema}
    (hentry : entry ∈ schemas) (inserts : List (Stamp × Value)) :
    ((Collection.ofSchema entry.2).insertAll inserts).documents =
        inserts.filterMap (Collection.ofSchema entry.2).answer? ∧
      ∀ before stamp document after stored, inserts = before ++ (stamp, document) :: after →
        (Collection.ofSchema entry.2).answer? (stamp, document) = some stored →
        ((Collection.ofSchema entry.2).insertAll before).insert stamp document =
            .ok ((Collection.ofSchema entry.2).insertAll (before ++ [(stamp, document)]), stored) ∧
          ∃ table own, document.toTable = .ok table ∧
            (Collection.ofSchema entry.2).written stamp = .ok own ∧
            (Collection.ofSchema entry.2).Keeps own table stored := by
  refine ⟨?_, fun before stamp document after stored hsplit hanswer =>
    ⟨Collection.insert_insertAll hanswer before, ?_⟩⟩
  · rw [Collection.insertAll_eq]
    exact List.nil_append _
  · obtain ⟨prepared, own, hinsertion⟩ := Collection.answer?_eq_some_iff.mp hanswer
    obtain ⟨node, -, hfields⟩ := c.exists_definition_of_mem h hentry
    have hfield : isField entry.2.fields = false := by
      cases hf : isField entry.2.fields with
      | false => rfl
      | true =>
        obtain ⟨type, hget, hdeclared⟩ :=
          fieldProperty_type.buildNode c.overrides definitions hfields hf
        have hissues := Collection.issues_ne_nil_of_declared (c :=
          .ofSchema entry.2) hf hget hdeclared prepared
        exact absurd hinsertion.valid hissues
    have hnames : (Collection.ofSchema entry.2).NamesFree :=
      fieldProperty_keys.buildNode c.overrides definitions hfields
    obtain ⟨table, htable, hkeeps⟩ := hinsertion.keeps hnames hfield
    exact ⟨table, own, htable, hinsertion.writes, hkeeps⟩

namespace Sample

/-- Pages whose revisions are numbered under a name that is also the name of a field. -/
def pages : Definitions :=
  [(.str "Page", .object
    { Node.empty.facts with extension := some ⟨none, none, [(.str "versionKey", .str "revision")]⟩ }
    [("title", leaf "string"), ("revision", leaf "string")] [])]

/-- A page that is a draft. -/
def draft : Value := .object [("title", .str "Home"), ("revision", .str "draft")]

/-- What pages compile to. -/
def page : Schema :=
  { name := "Page"
    fields := [(.str "title", .object [("type", .str "String")]),
      (.str "revision", .object [("type", .str "String")])]
    options := [(.str "versionKey", .str "revision")] }

def noon : Stamp :=
  { id := "65a1c0ffee65a1c0ffee65a1", now := ⟨⟨2024, 1, 13⟩, 12, 0, 0, 0, some 0⟩ }

/-- A page with a number for a title, which is refused, and then the draft. -/
def edits : List (Stamp × Value) := [(noon, .object [("title", .int 1)]), (noon, draft)]

end Sample

/-- Of the two pages one is stored. It has the title that was inserted, and nothing can be wrong
with it but its revision. -/
theorem stored_keeps_inserted_draft :
    Sample.compiler.buildSchemas Sample.pages none = .ok [(.str "Page", Sample.page)] ∧
      ∃ stored, ((Collection.ofSchema Sample.page).insertAll Sample.edits).documents = [stored] ∧
        ((Collection.ofSchema Sample.page).insertAll (Sample.edits.take 1)).insert Sample.noon
            Sample.draft =
          .ok ((Collection.ofSchema Sample.page).insertAll Sample.edits, stored) ∧
        Entries.get? stored (.str "title") = some (.str "Home") ∧
        ∀ report, (Collection.ofSchema Sample.page).validate (.map stored) = .ok report →
          ∀ issue ∈ report.issues, issue.place.head? = some (.str "revision") := by
  have hschemas : Sample.compiler.buildSchemas Sample.pages none =
    .ok [(.str "Page", Sample.page)] := by decide
  have hnone : (Collection.ofSchema Sample.page).answer?
    (Sample.noon, .object [("title", .int 1)]) = none := by decide
  have hanswer : (Collection.ofSchema Sample.page).answer? (Sample.noon, Sample.draft) =
      some [(.str "title", .str "Home"), (.str "revision", .int 0),
        (.str "_id", .str Sample.noon.id)] := by decide
  obtain ⟨hdocuments, hall⟩ := stored_keeps_inserted hschemas List.mem_cons_self Sample.edits
  obtain ⟨hinsert, table, own, htable, hown, hkeeps⟩ :=
    hall (Sample.edits.take 1) _ _ [] _ rfl hanswer
  obtain rfl := Except.ok.inj htable
  obtain rfl : [(.str "revision", .int 0)] = own := Except.ok.inj hown
  refine ⟨hschemas, _, ?_, hinsert, hkeeps.supplied (.str "title") (by decide) (by decide) _ rfl,
    ?_⟩
  · rw [hdocuments, Sample.edits, List.filterMap_cons_none hnone, List.filterMap_cons_some hanswer,
      List.filterMap_nil]
  · intro report hreport issue hissue
    obtain ⟨key, -, hkey, hplace⟩ := hkeeps.findings report hreport issue hissue
    rw [hplace, List.mem_singleton.mp hkey]

/-- The page was inserted as a draft, is stored as revision zero, and would be refused if it were
inserted as it is stored. -/
theorem page_loses_revision :
    (Sample.compiler.buildSchemas Sample.pages none).map (fun schemas =>
      schemas.map fun entry =>
        ((Collection.ofSchema entry.2).insertAll [(Sample.noon, Sample.draft)]).documents.map
          fun stored => (Entries.get? stored (.str "revision"),
            ((Collection.ofSchema entry.2).validate (.map stored)).map Report.isValid)) =
      .ok [[(some (.int 0), .ok false)]] := by
  decide

end ApiStore
