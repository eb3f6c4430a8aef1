import ApiStore.Document
import ApiStore.Proofs.Outcome
import ApiStore.Proofs.Value
/-
`Reading.lean` -- reading a document of JSON is no fault.

Two kinds of failure can come out of reading a document: a compile error, which says what is
wrong with it, and a fault, which says that the reader itself was handed something that it
cannot hold. `Yields p x` says that the second kind does not happen: either `x` is a value
with the property `p`, or it is a compile error. It passes through a chain of steps like a
precondition, with what one step yields being what the next one starts from.

**Keys.** The one thing that the records of the reader ask of their parts is that keys be
texts. In JSON they are, so the check of the keys never refuses anything. That is all that
is used of JSON here; what a document says may be as wrong as it likes.

**Shapes.** `Node.ReadAs` says once what a table can be read as: one case for each shape, with
all that the reader has looked at on the way to it. What is known of nodes that were read
comes from there, and not from the text of the reader.
-/
set_option autoImplicit false

namespace ApiStore

/-! ## 1. Failing with compile errors only -/

/-- An outcome is a value with a property, or a compile error. -/
inductive Yields {α : Type} (p : α → Prop) : Except Failure α → Prop
  | ok {a : α} (h : p a) : Yields p (.ok a)
  | compile (e : CompileError) : Yields p (.error (.compile e))

namespace Yields

variable {α β : Type} {p : α → Prop} {q : β → Prop}

/-- Two steps yield what the second one yields on whatever the first one yields. -/
theorem bind {x : Except Failure α} {f : α → Except Failure β} (hx : Yields p x)
    (hf : ∀ a, p a → Yields q (f a)) :
    Yields q (x >>= f) := by
  cases hx with
  | ok ha => exact hf _ ha
  | compile e => exact .compile e

/-- What yields values with a property yields values with any weaker one. -/
theorem mono {r : α → Prop} {x : Except Failure α} (hx : Yields p x) (h : ∀ a, p a → r a) :
    Yields r x := by
  cases hx with
  | ok ha => exact .ok (h _ ha)
  | compile e => exact .compile e

/-- The outcome of a step that knows compile errors only. -/
theorem mapError {x : Except CompileError α} (h : ∀ a, x = .ok a → p a) :
    Yields p (x.mapError .compile) := by
  cases x with
  | ok a => exact .ok (h a rfl)
  | error e => exact .compile e

/-- Reporting an offence as that of a property leaves it a compile error. -/
theorem underProperty {x : Except Failure α} (hx : Yields p x) (key : Scalar) (raw : Value) :
    Yields p (x.mapError (ApiStore.underProperty key raw)) := by
  cases hx with
  | ok ha => exact .ok ha
  | compile e => exact .compile (.property key raw e)

end Yields

/-! ## 2. Keys that are texts -/

namespace Misfit

/-- Keys that are texts are no misfits. -/
theorem ofKeys_eq_nil {α : Type} {entries : Entries α} (h : entries.TextKeys)
    (place : List String) :
    ofKeys place entries = [] := by
  rw [ofKeys, List.filterMap_eq_nil_iff]
  intro entry hentry
  obtain ⟨s, hs⟩ := h entry hentry
  simp only [hs, textOf]

end Misfit

/-- A record whose keys are texts passes the check of its keys. -/
theorem checkKeys_eq_ok {raw : Entries Value} {properties : Entries Node} (hraw : raw.TextKeys)
    (hproperties : properties.TextKeys) (record : String) :
      checkKeys record raw properties = .ok () := by
  rw [checkKeys, Misfit.ofKeys_eq_nil hraw, Misfit.ofKeys_eq_nil hproperties]
  rfl

/-! ## 3. Overrides -/

/-- The options of an override have texts for keys. -/
def Extension.IsSpelled (e : Extension) : Prop := e.options.TextKeys

/-- A node's override, if it has one, has texts for keys. -/
def Node.IsSpelled (node : Node) : Prop := ∀ e, node.extension = some e → e.IsSpelled

/-- An override with texts for keys is spelled as it is read. -/
theorem Extension.ofPayload_isSpelled {payload : Entries Value} (h : payload.TextKeys)
    {e : Extension} (he : Extension.ofPayload payload = .ok e) : e.IsSpelled := by
  have hoptions : (optionsOf payload).TextKeys :=
    fun entry hentry => h entry (List.mem_filter.mp hentry).1
  unfold Extension.ofPayload at he
  simp only [] at he
  split at he
  · obtain rfl := Except.ok.inj he
    rw [IsSpelled, hoptions.spelled]
    exact hoptions
  · cases he

/-- So is the override of a node of JSON. -/
theorem readExtension_isSpelled {raw : Entries Value} (h : ∀ e ∈ raw, e.2.isJson = true)
    {key : String} {found : Option Extension} (hfound : readExtension key raw = .ok found) :
    ∀ e, found = some e →
      e.IsSpelled := by
  rintro e rfl
  unfold readExtension at hfound
  split at hfound
  · cases hfound
  · cases hfound
  · rename_i payload hget
    have hpayload : Entries.TextKeys payload :=
      (Value.isJson_map_iff.mp (h _ (Entries.mem_of_get?_str hget))).1
    split at hfound
    · rename_i made hmade
      cases hfound
      exact Extension.ofPayload_isSpelled hpayload hmade
    · cases hfound
  · cases hfound

/-! ## 4. What a table is read as -/

/-- A text that may be missing, as a value: null stands for none. -/
def Value.ofText? : Option String → Value
  | none => .null
  | some s => .str s

/-- Whether a node is an object: it says so, or it is a definition that has properties and no
type. -/
def isObjectNode (root : Bool) (raw : Entries Value) : Bool :=
  entry raw "type" = .str "object" ||
    (root && entry raw "type" = .null && Entries.contains raw (.str "properties"))

/-- What counts as an object is not said to be an array. -/
theorem type_ne_array_of_isObjectNode {root : Bool} {raw : Entries Value}
    (h : isObjectNode root raw = true) :
    entry raw "type" ≠ .str "array" := by
  intro harray
  simp [isObjectNode, harray] at h

/-- What a table with an override becomes, from what its parts become: one case for each shape. -/
inductive Node.ReadAs (key : String) (root : Bool) (raw : Entries Value) (e : Option Extension) :
    Node → Prop
  | reference {pointer : String} (href : Entries.get? raw (.str "$ref") = some (.str pointer)) :
    ReadAs key root raw e (.reference ⟨Misfit.spelled raw, e, entry raw "default"⟩ pointer)
  | array {items : Node} (href : Entries.get? raw (.str "$ref") = none)
    (htype : entry raw "type" = .str "array") (hitems : readItems key raw = .ok items) :
    ReadAs key root raw e (.array ⟨Misfit.spelled raw, e, entry raw "default"⟩ items)
  | object {properties : Entries Node} {required : List String}
    (href : Entries.get? raw (.str "$ref") = none) (hobject : isObjectNode root raw = true)
    (hproperties : readProperties key raw = .ok properties)
    (hrequired : readRequired raw = .ok required) :
    ReadAs key root raw e (.object ⟨Misfit.spelled raw, e, entry raw "default"⟩
      (named properties) required)
  | primitive {type : String} {format : Option String}
    (href : Entries.get? raw (.str "$ref") = none) (hobject : isObjectNode root raw = false)
    (htype : entry raw "type" = .str type) (harray : type ≠ "array")
    (hformat : entry raw "format" = .ofText? format) :
    ReadAs key root raw e (.primitive ⟨Misfit.spelled raw, e, entry raw "default"⟩ type format)
  | any (href : Entries.get? raw (.str "$ref") = none) (hobject : isObjectNode root raw = false)
    (htype : entry raw "type" = .null) :
      ReadAs key root raw e (.any ⟨Misfit.spelled raw, e, entry raw "default"⟩)

section Shapes

variable {key : String} {root : Bool} {raw : Entries Value} {n : Node}

/-- What is read from a table is read in one of these ways. -/
theorem readAs_of_readNode (h : readNode key root (.map raw) = .ok n) :
    ∃ e, readExtension key raw = .ok e ∧ n.ReadAs key root raw e := by
  -- Whatever the check of the keys says, it does not change the node.
  have hchecked : ∀ {x : Except Failure Unit} {m : Node}, (x >>= fun _ => pure m) = .ok n →
      m = n := by
    intro x m hx
    obtain ⟨_, -, hm⟩ := Outcome.bind_eq_ok_iff.mp hx
    exact Except.ok.inj hm
  rw [readNode] at h
  obtain ⟨e, he, h⟩ := Outcome.bind_eq_ok_iff.mp h
  refine ⟨e, Outcome.mapError_eq_ok_iff.mp he, ?_⟩
  dsimp only at h
  -- The cases are the reader's own, in its order: a pointer, an array, an object, no type, a leaf.
  split at h
  · obtain rfl := hchecked h
    exact .reference ‹_›
  · cases h
  · rename_i href
    split at h
    · obtain ⟨items, hitems, h⟩ := Outcome.bind_eq_ok_iff.mp h
      obtain rfl := hchecked h
      exact .array href ‹_› hitems
    · rename_i harray
      split at h
      · obtain ⟨properties, hproperties, h⟩ := Outcome.bind_eq_ok_iff.mp h
        obtain ⟨required, hrequired, h⟩ := Outcome.bind_eq_ok_iff.mp h
        obtain rfl := hchecked h
        exact .object href ‹_› hproperties (Outcome.mapError_eq_ok_iff.mp hrequired)
      · rename_i hobject
        have hobject : isObjectNode root raw = false := by simpa [isObjectNode] using hobject
        split at h
        · obtain rfl := hchecked h
          exact .any href hobject ‹_›
        · rename_i type htype
          have hne : type ≠ "array" := by
            rintro rfl
            exact harray htype
          split at h
          · obtain rfl := hchecked h
            exact .primitive href hobject htype hne ‹_›
          · obtain rfl := hchecked h
            exact .primitive href hobject htype hne ‹_›
          · cases h
        · cases h

/-- Where all keys are texts, what is read in one of these ways is what is read from the table. -/
theorem readNode_of_readAs (htexts : raw.TextKeys)
    (hnames : ∀ nodes : Entries Node, readProperties key raw = .ok nodes → nodes.TextKeys)
    {e : Option Extension} (he : readExtension key raw = .ok e) (h : n.ReadAs key root raw e) :
    readNode key root (.map raw) = .ok n := by
  have hkeys : ∀ record, checkKeys record raw [] = .ok () := checkKeys_eq_ok htexts .nil
  rw [readNode, Outcome.bind_eq_ok_iff]
  refine ⟨e, Outcome.mapError_eq_ok_iff.mpr he, ?_⟩
  cases h with
  | reference href =>
    simp only [href, hkeys]
    rfl
  | array href htype hitems =>
    simp only [href, if_pos htype, hitems, hkeys]
    rfl
  | object href hobject hproperties hrequired =>
    have harray := type_ne_array_of_isObjectNode hobject
    have hchecked : ∀ record, checkKeys record raw _ = .ok () :=
      checkKeys_eq_ok htexts (hnames _ hproperties)
    rw [isObjectNode] at hobject
    simp only [href, if_neg harray, if_pos hobject, hproperties, hrequired]
    exact Outcome.bind_eq_ok_iff.mpr
      ⟨_, rfl, Outcome.bind_eq_ok_iff.mpr ⟨_, rfl, by rw [hchecked]; rfl⟩⟩
  | @primitive type format href hobject htype harray hformat =>
    have harray : entry raw "type" ≠ .str "array" := by simpa [htype] using harray
    rw [isObjectNode] at hobject
    simp only [href, if_neg harray, hobject, Bool.false_eq_true, if_false]
    simp only [htype, hformat, hkeys]
    cases format <;> rfl
  | any href hobject htype =>
    have harray : entry raw "type" ≠ .str "array" := by simp [htype]
    rw [isObjectNode] at hobject
    simp only [href, if_neg harray, hobject, Bool.false_eq_true, if_false]
    simp only [htype, hkeys]
    rfl

end Shapes

/-! ## 5. Nodes -/

section Nodes

variable {key : String}

/-- A table becomes a node, if its items and its properties do. -/
theorem readNode_map_yields {raw : Entries Value} (h : (Value.map raw).isJson = true) (root : Bool)
    (hitems : Yields Node.IsSpelled (readItems key raw))
    (hproperties : Yields Entries.TextKeys (readProperties key raw)) :
    Yields Node.IsSpelled (readNode key root (.map raw)) := by
  obtain ⟨htexts, -, hvalues⟩ := Value.isJson_map_iff.mp h
  have hkeys : ∀ record, Yields (fun _ => True) (checkKeys record raw []) := fun record => by
    rw [checkKeys_eq_ok htexts .nil]
    exact .ok trivial
  unfold readNode
  refine Yields.bind (.mapError fun _ => readExtension_isSpelled hvalues)
    fun extension hextension => ?_
  dsimp only
  -- The cases are the reader's own, in its order: a pointer, an array, an object, no type, a leaf.
  split
  · exact (hkeys _).bind fun _ _ => .ok hextension
  · exact .compile _
  · split
    · exact hitems.bind fun items _ => (hkeys _).bind fun _ _ => .ok hextension
    · split
      · refine hproperties.bind fun properties hproperties => ?_
        refine Yields.bind (p := fun _ => True) (.mapError fun _ _ => trivial) fun required _ => ?_
        rw [checkKeys_eq_ok htexts hproperties]
        exact .ok hextension
      · split
        · exact (hkeys _).bind fun _ _ => .ok hextension
        · split
          · exact (hkeys _).bind fun _ _ => .ok hextension
          · exact (hkeys _).bind fun _ _ => .ok hextension
          · exact .compile _
        · exact .compile _

mutual

/-- A value of JSON becomes a node. -/
theorem readNode_yields (root : Bool) : (v : Value) → v.isJson = true →
    Yields Node.IsSpelled (readNode key root v)
  | .map raw, h =>
    have hvalues := (Value.isJson_map_iff.mp h).2.2
    readNode_map_yields h root (readItems_yields raw hvalues) (readProperties_yields raw hvalues)
  | .scalar _, _ | .list _, _ | .set _, _ | .pair _ _, _ => by
    rw [readNode]
    · exact .compile _
    · exact nofun

/-- The items of an array become a node. -/
theorem readItems_yields : (entries : List (Scalar × Value)) → (∀ e ∈ entries, e.2.isJson = true) →
    Yields Node.IsSpelled (readItems key entries)
  | [], _ => .ok nofun
  | (k, v) :: rest, h => by
    obtain ⟨hv, hrest⟩ := List.forall_mem_cons.mp h
    rw [readItems]
    split
    · exact readNode_yields false v hv
    · exact readItems_yields rest hrest

/-- The properties of an object become nodes under texts. -/
theorem readProperties_yields : (entries : List (Scalar × Value)) →
    (∀ e ∈ entries, e.2.isJson = true) → Yields Entries.TextKeys (readProperties key entries)
  | [], _ => .ok .nil
  | (k, v) :: rest, h => by
    obtain ⟨hv, hrest⟩ := List.forall_mem_cons.mp h
    unfold readProperties
    split
    · cases v with
      | map properties =>
        obtain ⟨htexts, -, hvalues⟩ := Value.isJson_map_iff.mp hv
        exact readEach_yields properties htexts hvalues
      | _ =>
        dsimp only
        split
        · exact .compile _
        · exact .ok .nil
    · exact readProperties_yields rest hrest

/-- Properties become nodes under the same texts. -/
theorem readEach_yields : (properties : List (Scalar × Value)) → Entries.TextKeys properties →
    (∀ e ∈ properties, e.2.isJson = true) → Yields Entries.TextKeys (readEach key properties)
  | [], _, _ => .ok .nil
  | (k, v) :: rest, htexts, h => by
    obtain ⟨hv, hrest⟩ := List.forall_mem_cons.mp h
    obtain ⟨⟨s, rfl⟩, hothers⟩ := List.forall_mem_cons.mp htexts
    rw [readEach]
    split
    · exact readEach_yields rest hothers hrest
    · refine ((readNode_yields false v hv).underProperty _ v).bind fun node _ => ?_
      refine (readEach_yields rest hothers hrest).bind fun others ho => ?_
      exact .ok ((Entries.TextKeys.singleton s node).append ho)

end

end Nodes

/-! ## 6. Definitions -/

/-- Definitions under given names, with texts for the keys of their overrides. -/
structure Definitions.Named (names : List Scalar) (definitions : Definitions) : Prop where
  keys : definitions.keys = names
  isSpelled : ∀ d ∈ definitions, d.2.IsSpelled

/-- The definitions that are read are named as they are in the document. -/
theorem readDefinitions_yields {key : String} {raw : Entries Value}
    (h : ∀ e ∈ raw, e.2.isJson = true) :
    Yields (Definitions.Named raw.keys) (readDefinitions key raw) := by
  induction raw with
  | nil => exact .ok ⟨rfl, nofun⟩
  | cons entry rest ih =>
    obtain ⟨name, v⟩ := entry
    obtain ⟨hv, hrest⟩ := List.forall_mem_cons.mp h
    refine (readNode_yields true v hv).bind fun node hnode => (ih hrest).bind fun others ho =>
      .ok ?_
    exact ⟨congrArg (name :: ·) ho.keys, List.forall_mem_cons.mpr ⟨hnode, ho.isSpelled⟩⟩

/-- What stands under a text in a table of JSON is of JSON, and so is what is read as null there. -/
theorem entry_isJson {raw : Entries Value} (h : (Value.map raw).isJson = true) (key : String) :
    (entry raw key).isJson = true := by
  rw [entry]
  cases hget : Entries.get? raw (.str key) with
  | none => rfl
  | some v => exact (Value.isJson_map_iff.mp h).2.2 _ (Entries.mem_of_get?_str hget)

namespace Document

/-- The definitions of a document of JSON are a value of JSON. -/
theorem definitionsEntry_isJson {document : Entries Value}
    (h : (Value.map document).isJson = true) :
    (definitionsEntry document).isJson = true := by
  unfold definitionsEntry
  split
  · split
    · rename_i components hcomponents
      exact entry_isJson (hcomponents ▸ entry_isJson h "components") "schemas"
    · rfl
  · exact entry_isJson h "definitions"

/-- The raw definitions of a document of JSON are a table of JSON. -/
theorem isJson_of_rawDefinitions {document raw : Entries Value}
    (h : (Value.map document).isJson = true) (hraw : rawDefinitions document = .ok raw) :
    (Value.map raw).isJson = true := by
  unfold rawDefinitions at hraw
  split at hraw
  · cases hraw
  · rename_i entries hentries
    obtain rfl := Except.ok.inj hraw
    exact hentries ▸ definitionsEntry_isJson h
  · cases hraw

/-- A document of JSON yields a definition for every raw definition in it. -/
theorem extract_yields {document : Entries Value} (h : (Value.map document).isJson = true)
    (key : String) :
    Yields (fun definitions => ∃ raw, rawDefinitions document = .ok raw ∧
      (Value.map raw).isJson = true ∧
      Definitions.Named raw.keys definitions) (extract (.map document) key) := by
  have hload : Yields (document = ·) (load (.map document)) := .ok rfl
  refine hload.bind ?_
  rintro _ rfl
  refine Yields.bind (p := fun raw => rawDefinitions document = .ok raw)
    (.mapError fun _ hraw => hraw) fun raw hraw => ?_
  have hjson := isJson_of_rawDefinitions h hraw
  exact (readDefinitions_yields (Value.isJson_map_iff.mp hjson).2.2).mono fun definitions hd =>
    ⟨raw, hraw, hjson, hd⟩

end Document

end ApiStore
