import ApiStore.Proofs.Build.Form
import ApiStore.Proofs.JsonSchema.Conformance
/-
`PassThrough.lean` -- options that no JSON Schema takes notice of.

An override may carry options that mean nothing to the compiler and have no keyword in JSON
Schema. They are handed on to the engine, and are laid over what a property compiled to. To
a single field they add entries that are not looked at. A marker becomes the type of a
field, which asks for the same. But a table of several fields takes an option for a field
more, so such an option has to be one that allows everything, and must not stand in the
place of a field (`Value.Takes`).
-/
set_option autoImplicit false

namespace ApiStore

open JsonSchema (issues ofValue ofOptions)

/-! ## 1. Options without a meaning -/

/-- The options that have a keyword in JSON Schema. -/
def keywordOptions : List String := JsonSchema.optionKeywords.map (·.1)

/-- The entries of an override that mean something to the compiler or to JSON Schema. -/
def meaningfulOptions : List String := ["type", "ref", "required"] ++ keywordOptions

/-- Options without a meaning, under texts that occur once. -/
structure Entries.PassThrough (options : Entries Value) : Prop where
  texts : options.TextKeys
  nodup : options.keys.Nodup
  meaningless : ∀ s ∈ meaningfulOptions, .str s ∉ options.keys

/-- A value allows everything, taken for a compiled field, and is not required. -/
structure Value.Free (v : Value) : Prop where
  allows : ∀ w, issues (ofValue v) w = .ok []
  isRequired : JsonSchema.isRequired v = false

/-- Options can be laid over a compiled value without a change of what it allows. A table of several
fields takes them for fields, so they have to be free there and must not stand in the place of
one. -/
def Value.Takes (options : Entries Value) : Value → Prop
  | .map fields =>
    ApiStore.isField fields = true ∨ ∀ option ∈ options, option.2.Free ∧
      option.1 ∉ Entries.keys fields
  | _ => True

theorem Entries.overlay_eq_append {α : Type} {base upper : Entries α} (htexts : upper.TextKeys)
    (hnodup : upper.keys.Nodup) (hfresh : ∀ k ∈ upper.keys, k ∉ base.keys) :
    base.overlay upper = base ++ upper := by
  induction upper generalizing base with
  | nil => exact (List.append_nil base).symm
  | cons entry rest ih =>
    obtain ⟨k, v⟩ := entry
    obtain ⟨⟨s, rfl⟩, hrest⟩ := List.forall_mem_cons.mp htexts
    obtain ⟨hk, hothers⟩ := List.nodup_cons.mp hnodup
    obtain ⟨hs, hfresh⟩ := List.forall_mem_cons.mp hfresh
    have hbase : base.insert (.str s) v = base ++ [(.str s, v)] := insert_of_not_mem_keys hs v
    rw [overlay_cons, hbase, ih hrest hothers, List.append_assoc, List.singleton_append]
    intro k hmem
    rw [keys, List.map_append, List.mem_append, not_or]
    refine ⟨hfresh k hmem, ?_⟩
    rintro hself
    obtain rfl := List.mem_singleton.mp hself
    exact hk hmem

/-- Tables with the same options have the same keywords of options. -/
theorem ofOptions_congr {fields others : Entries Value}
    (h : ∀ s ∈ keywordOptions, Entries.get? fields (.str s) = Entries.get? others (.str s)) :
    ofOptions fields = ofOptions others := by
  unfold ofOptions
  have hall : ∀ option ∈ JsonSchema.optionKeywords,
      Entries.get? fields (.str option.1) = Entries.get? others (.str option.1) :=
    fun option hoption => h _ (List.mem_map_of_mem hoption)
  generalize JsonSchema.optionKeywords = options at hall ⊢
  induction options with
  | nil => rfl
  | cons option rest ih =>
    obtain ⟨s, keyword⟩ := option
    obtain ⟨hoption, hrest⟩ := List.forall_mem_cons.mp hall
    rw [List.filterMap_cons, List.filterMap_cons, ih hrest]
    dsimp only
    rw [hoption]

namespace JsonSchema

/-- Single fields that agree on their type and on their options have the same keywords. -/
theorem ofValue_congr_of_isField {fields others : Entries Value} (hf : isField fields = true)
    (h : ∀ s ∈ "type" :: keywordOptions, Entries.get? fields (.str s) = Entries.get? others
      (.str s)) :
    ofValue (.map fields) = ofValue (.map others) := by
  obtain ⟨type, hget, htable⟩ := exists_type_of_isField hf
  have htype : Entries.get? fields (.str "type") = Entries.get? others (.str "type") :=
    h "type" List.mem_cons_self
  have hf' : isField others = true := by
    rw [isField, ← htype]
    exact hf
  rw [ofValue, ofValue, if_pos hf, if_pos hf', ofTypeEntry_eq hget htable,
    ofTypeEntry_eq (htype.symm.trans hget) htable,
    ofOptions_congr fun s hs => h s (List.mem_cons_of_mem _ hs)]

/-- The schemas of properties that allow everything, after those of others, find nothing more. -/
theorem propertyIssues_append_free {schemas free : List (Scalar × List Keyword)}
    (h : ∀ property ∈ free, ∀ w, issues property.2 w = .ok []) (entries : Entries Value) :
    propertyIssues (schemas ++ free) entries = propertyIssues schemas entries := by
  induction schemas with
  | nil =>
    induction free with
    | nil => rfl
    | cons property rest ih =>
      obtain ⟨key, schema⟩ := property
      obtain ⟨hfirst, hrest⟩ := List.forall_mem_cons.mp h
      have hnone : presentIssues schema (Entries.get? entries key) = .ok [] :=
        presentIssues_eq_nil_iff.mpr fun w _ => hfirst w
      rw [List.nil_append, propertyIssues_cons, ← List.nil_append rest, ih hrest, hnone]
      rfl
  | cons property rest ih =>
    obtain ⟨key, schema⟩ := property
    rw [List.cons_append, propertyIssues_cons, propertyIssues_cons, ih]

/-- Tables with the same required names, whose properties find the same, find the same. -/
theorem issues_ofProperties_congr {fields others : Entries Value}
    {schemas schemas' : List (Scalar × List Keyword)}
    (hrequired : requiredNames fields = requiredNames others)
    (hproperties : ∀ entries, propertyIssues schemas entries = propertyIssues schemas' entries)
    (v : Value) :
    issues (ofProperties fields schemas) v = issues (ofProperties others schemas') v := by
  have hkeyword : keywordIssues (.properties schemas) v = keywordIssues
      (.properties schemas') v := by
    unfold keywordIssues
    cases v with
    | map entries => exact hproperties entries
    | _ => rfl
  unfold ofProperties
  rw [hrequired, issues_append, issues_append]
  simp only [issues, hkeyword]

end JsonSchema

/-! ## 2. Laid over a compiled value -/

namespace Entries.PassThrough

variable {options : Entries Value} (h : options.PassThrough)
include h

/-- Laid over a table, the options leave what means something. -/
theorem get?_overlay (fields : Entries Value) {s : String} (hs : s ∈ meaningfulOptions) :
    Entries.get? (fields.overlay options) (.str s) = Entries.get? fields (.str s) :=
  Entries.get?_overlay_of_not_mem_keys fields (h.meaningless s hs)

theorem isField_overlay (fields : Entries Value) :
    isField (fields.overlay options) = isField fields := by
  unfold isField
  rw [h.get?_overlay fields (by decide)]

/-- The keywords of a single field stay. -/
theorem ofValue_overlay {fields : Entries Value} (hf : isField fields = true) :
    ofValue (.map (fields.overlay options)) = ofValue (.map fields) := by
  refine (JsonSchema.ofValue_congr_of_isField hf fun s hs => (h.get?_overlay fields ?_).symm).symm
  rcases List.mem_cons.mp hs with rfl | hoption
  · exact List.mem_cons_self
  · exact List.mem_append_right _ hoption

/-- What several fields find is found with free options after them. -/
theorem issues_append {fields : Entries Value} (hf : isField fields = false)
    (hfree : ∀ option ∈ options, option.2.Free ∧ option.1 ∉ fields.keys) (v : Value) :
    issues (ofValue (.map (fields.overlay options))) v = issues (ofValue (.map fields)) v := by
  have happend : fields.overlay options = fields ++ options := by
    refine overlay_eq_append h.texts h.nodup fun k hk => ?_
    obtain ⟨option, hoption, rfl⟩ := List.mem_map.mp hk
    exact (hfree option hoption).2
  rw [ofValue, ofValue, h.isField_overlay, hf, if_neg Bool.false_ne_true, if_neg Bool.false_ne_true,
    happend]
  refine JsonSchema.issues_ofProperties_congr ?_ (fun entries => ?_) v
  · have hnone : JsonSchema.requiredNames options = [] := by
      rw [JsonSchema.requiredNames, List.map_eq_nil_iff, List.filter_eq_nil_iff]
      intro option hoption
      simp [(hfree option hoption).1.isRequired]
    rw [JsonSchema.requiredNames, List.filter_append, List.map_append, ← JsonSchema.requiredNames,
      ← JsonSchema.requiredNames, hnone, List.append_nil]
  · rw [JsonSchema.ofEntries_eq_map, List.map_append, ← JsonSchema.ofEntries_eq_map]
    refine JsonSchema.propertyIssues_append_free ?_ entries
    rw [List.forall_mem_map]
    exact fun option hoption => (hfree option hoption).1.allows

/-- **Laid over a compiled property that takes them, the options change nothing** that its JSON
Schema finds. -/
theorem issues_overlay {compiled : Compiled} (hform : compiled.form ≠ .dropped)
    (htakes : compiled.toValue.Takes options) (v : Value) :
    issues (ofValue (.map (compiled.base.overlay options))) v =
    issues (ofValue compiled.toValue) v := by
  cases compiled with
  | dropped => exact absurd rfl hform
  | table fields =>
    cases hf : isField fields with
    | true => exact congrArg (issues · v) (h.ofValue_overlay hf)
    | false => exact h.issues_append hf (htakes.resolve_left (by simp [hf])) v
  | marker items =>
    -- The marker has become the type of a field, which has the keywords of its type and no others.
    have hmarker : ofValue (.map [(.str "type", .list items)]) = ofValue (.list items) := rfl
    exact congrArg (issues · v) ((h.ofValue_overlay rfl).trans hmarker)

end Entries.PassThrough

end ApiStore
