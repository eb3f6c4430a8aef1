import ApiStore.Proofs.JsonSchema.PassThrough
import ApiStore.Proofs.Passage
import ApiStore.Proofs.Rewriting
/-
`PassThrough.lean` -- options that are passed through.

An override may consist of options that mean nothing to the compiler and have no keyword in
JSON Schema, such as `index` or `select`. They are for the engine. Written down at a property
that had no override, they leave the document one that compiles, and the JSON Schema of the
property finds what it found before.

**Where they do more.** The override of an array's items stands for the whole property, so that
options on the items are what is left of them, and options on the array take the place of an
override that the items have. A property that compiled to several fields gets the options for
further fields. And a configuration may let overrides stand under a key where the document
says something else (`compile_options_disturb`).
-/
set_option autoImplicit false

namespace ApiStore

open Outcome (Related)
open JsonSchema (issues ofValue)

/-! ## 1. Adding an override -/

/-- Options that mean nothing to the compiler are read as an override of options only. -/
theorem Entries.PassThrough.ofPayload {options : Entries Value} (h : options.PassThrough) :
    Extension.ofPayload options = .ok ⟨none, none, options⟩ := by
  have hnone : ∀ s ∈ ["type", "ref"], optionalText options s = .ok none := by
    intro s hs
    have hmeaningful : s ∈ meaningfulOptions := (by decide : ["type", "ref"] ⊆ meaningfulOptions) hs
    rw [optionalText, Entries.get?_str_eq_none_iff.mpr (h.meaningless s hmeaningful)]
  have hall : optionsOf options = options := by
    refine List.filter_eq_self.mpr fun option hoption => ?_
    have hkey : ∀ s ∈ meaningfulOptions, option.1 ≠ .str s :=
      fun s hs heq => h.meaningless s hs (heq ▸ List.mem_map_of_mem hoption)
    simp [hkey "type" (by decide), hkey "ref" (by decide)]
  rw [Extension.ofPayload, hnone "type" (by decide), hnone "ref" (by decide), hall,
    Misfit.ofKeys_eq_nil h.texts, h.texts.spelled]

/-- The keys under which an override would be taken for something else besides. -/
def takenKeys : List String := ["$ref", "format", "items", "properties", "default"]

/-- Whether a node of these entries says what it is, and has no override. -/
def takesOverride (key : String) (raw : Entries Value) : Bool :=
  entry raw key = .null && (Entries.contains raw (.str "$ref") || entry raw "type" ≠ .null)

/-- Adds options as an override to the node at a place. -/
def adding (key : String) (options : Entries Value) (target : List Scalar) : Rewriting where
  own place raw := if place = target && takesOverride key raw then raw.insert (.str key)
    (.map options) else raw
  keeps _ := true
  spares _ := false

section Nodes

variable {key : String} {options : Entries Value} {target : List Scalar} {raw : Entries Value}

theorem adding_cases (key : String) (options : Entries Value) (target place : List Scalar)
    (raw : Entries Value) :
    (adding key options target).own place raw = raw ∨
    (place = target ∧ takesOverride key raw = true ∧
      (adding key options target).own place raw = raw.insert (.str key) (.map options)) := by
  by_cases h : (place = target && takesOverride key raw) = true
  · obtain ⟨hplace, htakes⟩ := Bool.and_eq_true_iff.mp h
    exact .inr ⟨of_decide_eq_true hplace, htakes, if_pos h⟩
  · exact .inl (if_neg h)

/-- All else stays. -/
theorem get?_adding {s : String} (hs : key ≠ s) (place : List Scalar) :
    Entries.get? ((adding key options target).own place raw) (.str s) = Entries.get? raw
      (.str s) := by
  rcases adding_cases key options target place raw with hsame | ⟨-, -, hadded⟩
  · rw [hsame]
  · rw [hadded, Entries.get?_insert_str, if_neg (by simpa using hs)]

theorem entry_adding {s : String} (hs : key ≠ s) (place : List Scalar) :
    entry ((adding key options target).own place raw) s = entry raw s := by
  rw [entry, entry, get?_adding hs]

theorem readExtension_of_entry (h : entry raw key = .null) : readExtension key raw = .ok none := by
  rw [entry] at h
  unfold readExtension
  cases hget : Entries.get? raw (.str key) with
  | none => rfl
  | some v =>
    obtain rfl : v = .null := by simpa [hget] using h
    rfl

/-- The override of a node is read as it was, or as the one that was added. -/
theorem readExtension_adding (hoptions : options.PassThrough) (hkey : key ∉ ["items", "properties"])
    (root : Bool) (place : List Scalar) (raw : Entries Value) :
    Related CompileError.Alike (fun d e => e = d ∨
      (place = target ∧ d = none ∧ e = some ⟨none, none, options⟩))
      (readExtension key raw)
      (readExtension key ((adding key options target).own place
        ((adding key options target).parts root place raw))) := by
  have hparts : Entries.get? ((adding key options target).parts root place raw) (.str key) =
      Entries.get? raw (.str key) :=
    Rewriting.get?_parts_str (.inr hkey)
  rcases adding_cases key options target place
    ((adding key options target).parts root place raw) with
    hsame | ⟨hplace, htakes, hadded⟩
  · rw [hsame]
    exact (readExtension_alike hparts.symm).mono fun d e _ _ hde => .inl hde.symm
  · have hentry : entry raw key = .null := by
      rw [takesOverride, Bool.and_eq_true, decide_eq_true_eq, entry, hparts] at htakes
      exact htakes.1
    rw [hadded, readExtension_of_entry hentry, readExtension, Entries.get?_insert_str, if_pos rfl]
    dsimp only
    rw [hoptions.ofPayload]
    exact .ok (.inr ⟨hplace, rfl, rfl⟩)

/-- Adding an override changes nothing else, unless something else stands under its key. -/
theorem adding_carries (hoptions : options.PassThrough) (hkey : key ∉ takenKeys)
    (htarget : target.length ≠ 1) :
    (adding key options target).Carries key (Node.Added target options) := by
  have hparts : key ∉ ["items", "properties"] :=
    fun hmem => hkey ((by decide : ["items", "properties"] ⊆ takenKeys) hmem)
  have hother : ∀ s ∈ takenKeys, key ≠ s := by
    rintro s hs rfl
    exact hkey hs
  exact {
    refl _ _ := .inl rfl
    keeps _ hk := absurd hk (by simp [adding])
    textKeys place raw htexts := by
      rcases adding_cases key options target place raw with hsame | ⟨-, -, hadded⟩
      · rw [hsame]
        exact htexts
      · rw [hadded]
        exact htexts.insert _ _
    extension root place raw := by
      refine (readExtension_adding hoptions hparts root place raw).mono fun d e hd _ hde n hn => ?_
      obtain rfl := Except.ok.inj (hd.symm.trans (readFrom_of_readNode_map hn).extension)
      exact hde
    roots name raw := by
      refine (readExtension_adding hoptions hparts true [name] raw).mono fun d e _ _ hde => ?_
      rcases hde with hsame | ⟨hplace, -⟩
      · exact hsame.symm
      · exact absurd (congrArg List.length hplace).symm htarget
    pointer place raw := by
      rw [get?_adding (hother "$ref" (by decide))]
      cases Entries.get? raw (.str "$ref") with
      | none => exact .none
      | some v => exact .some (.same v)
    words place raw href s hs := by
      by_cases hsame : key = s
      · subst hsame
        rcases adding_cases key options target place raw with hkept | ⟨-, htakes, -⟩
        · rw [hkept]
          exact .same _
        · -- The key is that of types, so a node that takes an override has no type, and it has no
          -- pointer.
          obtain rfl : key = "type" := by
            simp only [wordKeys, List.mem_cons, List.not_mem_nil, or_false] at hs
            exact hs.resolve_right (hother "format" (by decide))
          simp [takesOverride, Entries.contains, href] at htakes
      · rw [entry_adding hsame]
        exact .same _
    required place raw href := by
      by_cases hsame : key = "required"
      · subst hsame
        rcases adding_cases "required" options target place raw with hkept | ⟨-, htakes, hadded⟩
        · rw [hkept]
          exact .inl rfl
        · have hnull : entry raw "required" = .null := by
            rw [takesOverride, Bool.and_eq_true, decide_eq_true_eq] at htakes
            exact htakes.1
          have htable : entry (raw.insert (.str "required") (.map options)) "required" =
              .map options := by
            rw [entry, Entries.get?_insert_str, if_pos rfl]
            rfl
          rw [hadded, hnull, htable]
          exact .inr fun _ => ⟨by simp, by simp⟩
      · rw [entry_adding hsame]
        exact .inl rfl
    parts place raw _ s hs :=
      get?_adding (hother s ((by decide : ["items", "properties", "default"] ⊆ takenKeys) hs))
        place }

end Nodes

/-- The JSON Schema of a compiled value goes together with the one of the value under the options,
if it takes them. -/
theorem Entries.PassThrough.passes {options : Entries Value} (h : options.PassThrough) :
    Value.Passes options fun v w => v.Takes options →
      ∀ x, issues (ofValue w) x = issues (ofValue v) x where
  refl _ _ _ := rfl
  laid _ hform htakes := h.issues_overlay hform htakes

/-! ## 2. Documents -/

/-- A path in a definition of a document leads to a property that is compiled and for which no
override counts. -/
def Document.Declares (document : Entries Value) (key name : String) (path : List Step) : Prop :=
  ∃ definitions node property, extract (.map document) key = .ok definitions ∧
    Entries.get? definitions (.str name) = some node ∧
      (∃ last, path.getLast? = some (.property last)) ∧
    node.at? path = some property ∧ property.override? = none ∧ property.form ≠ .dropped

/-- The compiled field at the end of a path in a schema. -/
def fieldAt? (schemas : Entries Schema) (name : String) (path : List Step) : Option Value :=
  (Entries.get? schemas (.str name)).bind fun schema => (Value.map schema.fields).at? path

/-- A document with options as an override at a path in a definition. -/
def Document.withOptions (document : Entries Value) (key : String) (options : Entries Value)
    (name : String) (path : List Step) : Entries Value :=
    (adding key options (.str name :: Step.place path)).document document

/-- The definitions of a document are read with the override as they are without it, but for the
override. -/
theorem Document.extract_withOptions {key : String} (hkey : key ∉ takenKeys)
    {options : Entries Value} (hoptions : options.PassThrough) {document : Entries Value}
    (hspelled : Document.IsSpelled document) (name : String) {path : List Step} (hpath : path ≠ [])
    {ds : Definitions} (hds : extract (.map document) key = .ok ds) :
    ∃ es, extract (.map (withOptions document key options name path)) key = .ok es ∧
      Definitions.Paired (Node.Added (.str name :: Step.place path) options) ds es := by
  have htarget : (.str name :: Step.place path : List Scalar).length ≠ 1 := by
    cases path with
    | nil => exact absurd rfl hpath
    | cons step rest => cases step <;> simp [Step.place_cons, Step.keys]
  have hextract := (adding_carries hoptions hkey htarget).extract_paired hspelled
    (Rewriting.rawDefinitions_document _ _)
  rw [hds] at hextract
  exact hextract.exists_of_ok

/-- In the schema of a definition that declares a property, the field of the property goes together
with what it becomes with the override. -/
theorem Definitions.Paired.fieldAt?_agree {options : Entries Value} {R : Value → Value → Prop}
    (hR : Value.Passes options R) {name : String} {path : List Step} {ds es : Definitions}
    (h : Definitions.Paired (Node.Added (.str name :: Step.place path) options) ds es)
    {c : Compiler} {schemas others : Entries Schema}
    (hschemas : c.buildSchemas ds none = .ok schemas)
    (hothers : c.buildSchemas es none = .ok others) {n property : Node}
    (hn : Entries.get? ds (.str name) = some n)
    (hlast : ∃ last, path.getLast? = some (.property last)) (hat : n.at? path = some property)
    (hoverride : property.override? = none) (hform : property.form ≠ .dropped) {v : Value}
    (hv : fieldAt? schemas name path = some v) :
    ∃ w, fieldAt? others name path = some w ∧ R v w := by
  have hget := h.get? (.str name)
  rw [hn] at hget
  cases hm : Entries.get? es (.str name) with
  | none =>
    rw [hm] at hget
    cases hget
  | some m =>
    obtain ⟨schema, hschema, hfields⟩ := Compiler.exists_schema_of_buildSchemas hschemas hn
    obtain ⟨other, hother, hfields'⟩ := Compiler.exists_schema_of_buildSchemas hothers hm
    rw [fieldAt?, hschema] at hv
    rw [fieldAt?, hother]
    exact h.buildFields_agreeAt hR c hn hm hlast
      ⟨property, hat, hoverride, hform⟩ hfields hfields' v hv

/-- **Options are passed through.** A document that compiles still does when options without a
meaning are added as an override to a property or to items. And where they are added to a property
for which no override counted, the JSON Schema of its field finds at every value what it found
before, if the field is one that takes the options. The configured key is none of those under which
something else stands that is read or handed on. -/
theorem compile_passes_over {config : Config} (hkey : config.extensionKey ∉ takenKeys)
    {options : Entries Value} (hoptions : options.PassThrough) {document : Entries Value}
    (hspelled : Document.IsSpelled document) {schemas : Entries Schema}
    (h : Store.compileSpec config (.map document) = .ok schemas) (name : String) {path : List Step}
    (hpath : path ≠ []) :
    ∃ others,
      Store.compileSpec config (.map
        (Document.withOptions document config.extensionKey options name path)) = .ok others ∧
      (Document.Declares document config.extensionKey name path →
        ∀ v, fieldAt? schemas name path = some v → v.Takes options →
          ∃ w, fieldAt? others name path = some w ∧
            ∀ x, issues (ofValue w) x = issues (ofValue v) x) := by
  obtain ⟨c, hcompiler, h⟩ := Outcome.bind_eq_ok_iff.mp h
  obtain ⟨ds, hds, hschemas⟩ := Outcome.bind_eq_ok_iff.mp h
  have hconfig : c.config.extensionKey = config.extensionKey := by
    rw [Compiler.config_of_ofConfig (Outcome.mapError_eq_ok_iff.mp hcompiler)]
  rw [Compiler.extract, hconfig] at hds
  obtain ⟨es, hes, hpaired⟩ := Document.extract_withOptions hkey hoptions hspelled name hpath hds
  obtain ⟨others, hothers⟩ := hpaired.exists_buildSchemas c hschemas
  refine ⟨others, ?_, ?_⟩
  · refine Outcome.bind_eq_ok_iff.mpr ⟨c, hcompiler, Outcome.bind_eq_ok_iff.mpr ⟨es, ?_, hothers⟩⟩
    rw [Compiler.extract, hconfig]
    exact hes
  · rintro ⟨definitions, n, property, hdefinitions, hn, hlast, hat, hoverride, hform⟩ v hv htakes
    obtain rfl := Except.ok.inj (hds.symm.trans hdefinitions)
    obtain ⟨w, hw, hvw⟩ :=
      hpaired.fieldAt?_agree hoptions.passes hschemas hothers hn hlast hat hoverride hform hv
    exact ⟨w, hw, hvw htakes⟩

namespace Sample

/-- Definitions of an order with one property. -/
def orderOf (name : String) (property : Value) : Entries Value :=
  [(.str "definitions", .object [("Order", .object [
    ("type", .str "object"), ("properties", .object [(name, property)])])])]

/-- Rides with a length, of which more may be said. -/
def rides (more : List (String × Value)) : Value :=
  .object [("type", .str "array"), ("items", .object [
  ("type", .str "object"), ("properties", .object [
    ("length", .object ([("type", .str "integer")] ++ more))])])]

/-- Two options for an engine. -/
def engineOptions : Entries Value := [(.str "index", .bool true), (.str "select", .bool false)]

/-- The schema of an order with rides. -/
def ridesSchema : Entries Schema :=
  [(.str "Order", ⟨"Order", [(.str "rides", .object [("type", .list [
  .object [("length", .object [("type", .str "Number")])]])])], []⟩)]

/-- Where the length of a ride stands. -/
def toLength : List Step := [.property "rides", .items, .property "length"]

end Sample

/-- The length of a ride is a number, indexed or not. -/
theorem compile_passes_over_length :
    Document.withOptions (Sample.orderOf "rides" (Sample.rides [])) defaultExtensionKey
        Sample.engineOptions "Order" Sample.toLength =
      Sample.orderOf "rides" (Sample.rides [(defaultExtensionKey, .map Sample.engineOptions)]) ∧
    ∃ others w, Store.compileSpec .initial
        (.map (Sample.orderOf "rides"
          (Sample.rides [(defaultExtensionKey, .map Sample.engineOptions)]))) = .ok others ∧
      fieldAt? others "Order" Sample.toLength = some w ∧
      ∀ x, issues (ofValue w) x = issues (ofValue (.object [("type", .str "Number")])) x := by
  have hadded : Document.withOptions (Sample.orderOf "rides" (Sample.rides [])) defaultExtensionKey
      Sample.engineOptions "Order" Sample.toLength =
      Sample.orderOf "rides" (Sample.rides [(defaultExtensionKey, .map Sample.engineOptions)]) := by
        decide +kernel
  have hoptions : Sample.engineOptions.PassThrough :=
    ⟨by simp [Entries.TextKeys, Sample.engineOptions], by decide, by decide⟩
  have hbefore : Store.compileSpec .initial (.map (Sample.orderOf "rides" (Sample.rides []))) =
      .ok Sample.ridesSchema := by
    decide +kernel
  have hspelled : Document.IsSpelled (Sample.orderOf "rides" (Sample.rides [])) :=
    Document.isSpelled_of_isJson (by decide)
  have hdeclares : Document.Declares
    (Sample.orderOf "rides" (Sample.rides [])) defaultExtensionKey "Order"
      Sample.toLength := by
    refine ⟨_, _, _, rfl, rfl, ⟨_, rfl⟩, rfl, rfl, ?_⟩
    decide
  have hpath : Sample.toLength ≠ [] := by decide
  refine ⟨hadded, ?_⟩
  rw [← hadded]
  obtain ⟨others, hothers, hfield⟩ :=
    compile_passes_over (by decide) hoptions hspelled hbefore "Order" hpath
  obtain ⟨w, hw, hissues⟩ := hfield hdeclares (.object [("type", .str "Number")]) rfl (Or.inl rfl)
  exact ⟨others, w, hothers, hw, hissues⟩

/-- Whether the JSON Schema of a compiled field accepts a value; nothing if there is no such
field. -/
def accepts? (config : Config) (document : Entries Value) (name : String) (path : List Step)
    (x : Value) : Option Bool :=
  (Store.compileSpec config (.map document)).toOption.bind fun schemas =>
    (fieldAt? schemas name path).map fun v => decide (issues (ofValue v) x = .ok [])

namespace Sample

/-- Options without a meaning, added to an order at a property or below it, change whether the field
of the property accepts a value, or leave no field. -/
def Disturbs (config : Config) (options : Entries Value) (name : String) (property : Value)
    (below : List Step) (x : Value) : Prop :=
  options.PassThrough ∧ (Value.map (orderOf name property)).isJson = true ∧
    (accepts? config (orderOf name property) "Order" [.property name] x).isSome = true ∧
    accepts? config
        (Document.withOptions (orderOf name property) config.extensionKey options "Order"
          (.property name :: below))
        "Order" [.property name] x ≠
      accepts? config (orderOf name property) "Order" [.property name] x

/-- Says that a field is indexed. -/
def index : Entries Value := [(.str "index", .bool true)]

/-- Tags, which are texts and may have an override. -/
def tags (override : List (String × Value)) : Value :=
  .object [("type", .str "array"), ("items", .object ([("type", .str "string")] ++ override))]

/-- An address with a street. -/
def address : Value :=
  .object [("type", .str "object"),
    ("properties", .object [("street", .object [("type", .str "string")])])]

/-- A property of a type, of which nothing else is said. -/
def plain (type : String) : Value := .object [("type", .str type)]

/-- Stops of which nothing is known, in rides that are anything. -/
def stops : Value := .object [("type", .str "array"),
    ("items", .object [("type", .str "object"), ("items", .object []),
  ("properties", .object [("stops", plain "array")])])]

/-- Overrides stand under a key, and an object may be anything. -/
def under (key : String) : Config :=
  { Config.initial with extensionKey := key, typeAliases := [("object", StorageType.mixed.name)] }

/-- Whether an empty order is valid; nothing if orders are not compiled. -/
def emptyIsValid? (config : Config) (document : Entries Value) : Option Bool :=
  (Store.compileSpec config (.map document)).toOption.bind fun schemas =>
    (Entries.get? schemas (.str "Order")).map fun schema =>
      ((Collection.ofSchema schema).check (.map [])).toOption.any (·.isValid)

end Sample

theorem Entries.PassThrough.singleton {s : String} (hs : s ∉ meaningfulOptions) (v : Value) :
    Entries.PassThrough [(.str s, v)] where
  texts := .singleton s v
  nodup := List.nodup_singleton _
  meaningless t ht hmem := hs (by rw [← Scalar.str.inj (List.mem_singleton.mp hmem)]; exact ht)

/-- Options on the items of an array are all that its items are, and so are options beside an
override of the items. An address has options for fields, which are like its streets. Under some
keys options are refused, as a pointer, a format, properties or items, and under another they are a
default, which is no text. -/
theorem compile_options_disturb :
    Sample.Disturbs .initial Sample.index "tags" (Sample.tags []) [.items] (.list [.str "new"]) ∧
    Sample.Disturbs .initial Sample.index "tags"
      (Sample.tags [(defaultExtensionKey, .object [("type", .str "String")])])
      [] (.list [.str "new"]) ∧
    Sample.Disturbs .initial [(.str "street", .bool true)] "address" Sample.address []
      (.object [("street", .int 5)]) ∧
    Sample.Disturbs .initial [(.str "index", .str "Number")] "address" Sample.address []
      (.object [("index", .bool true)]) ∧
    Sample.Disturbs (Sample.under "$ref") Sample.index "note" (Sample.plain "string") [] (.str "") ∧
    Sample.Disturbs (Sample.under "format") Sample.index "note" (Sample.plain "string") []
      (.str "") ∧
    Sample.Disturbs (Sample.under "properties") Sample.index "note" (Sample.plain "object") []
      (.object []) ∧
    Sample.Disturbs (Sample.under "items") [(.str "$ref", .int 5)] "rides" Sample.stops
      [.items, .property "stops"] (.list []) ∧
    Sample.emptyIsValid? (Sample.under "default") (Sample.orderOf "note" (Sample.plain "string")) =
      some true ∧
    Sample.emptyIsValid? (Sample.under "default")
      (Document.withOptions (Sample.orderOf "note" (Sample.plain "string")) "default" Sample.index
        "Order" [.property "note"]) = some false := by
  have hindex : ∀ v : Value, Entries.PassThrough [(.str "index", v)] := .singleton (by decide)
  refine ⟨⟨hindex _, ?_⟩, ⟨hindex _, ?_⟩, ⟨.singleton (by decide) _, ?_⟩, ⟨hindex _, ?_⟩,
    ⟨hindex _, ?_⟩, ⟨hindex _, ?_⟩, ⟨hindex _, ?_⟩, ⟨.singleton (by decide) _, ?_⟩, ?_, ?_⟩
  all_goals decide +kernel

end ApiStore
