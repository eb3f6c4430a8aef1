import ApiStore.Proofs.Pairing
/-
`Rewriting.lean` -- documents that are rewritten node by node.

A rewriting goes through the nodes of a document where the reader goes, into the items of
arrays and the properties of objects, and changes the entries of every node that it comes
to. It may leave properties out, and it may spare an entry, which is then left as it stands
with all that is in it. Erasing what is not looked at and moving pointers from one root to
the other are both of this kind.

**What is paired.** The nodes that are read before and after a rewriting are compared one by one.
They have the same shapes; how their overrides go together is left open, for a rewriting may
be about nothing else (`Node.Paired`). A rewriting that pairs what is read where it stands
pairs whole documents (`Rewriting.Carries.carried`). Keys have to be texts wherever a node is
read (`Document.IsSpelled`), for bytes that spell a text are taken for it after the reading.

**What a rewriting has to respect.** A node is read from its override, its pointer and a few
parts, so a rewriting that leaves the override alone, keeps the name that a pointer leads to
and, where there is none, the parts, is one that the reader cannot see (`Rewriting.Respects`):
it pairs every override with itself. Such a document compiles like the one it was made from
(`Rewriting.Respects.compileSpec_alike`): the nodes that come out are alike, and those compile
alike. The override is the reason why some entries have to be spared. A configuration may
name any key for overrides, also one of the keys under which the parts of a node stand, and
then a part that is rewritten is an override that is rewritten.
-/
set_option autoImplicit false

namespace ApiStore

open Outcome (Related)

/-! ## 1. Rewriting -/

/-- Changes the values of a key. -/
def Entries.modify {α : Type} (entries : Entries α) (key : Scalar) (f : α → α) : Entries α :=
  entries.map fun (k, v) => (k, if k = key then f v else v)

/-- Changes the entries of a table; what is no table stays. -/
def Value.onTable (f : Entries Value → Entries Value) : Value → Value
  | .map entries => .map (f entries)
  | v => v

/-- What becomes of the nodes of a document. -/
structure Rewriting where
  /-- What becomes of the entries of a node at a place, when its items or properties have been
  rewritten. -/
  own : List Scalar → Entries Value → Entries Value
  /-- Whether a property is kept. -/
  keeps : Scalar → Bool
  /-- Whether the entry of a key is left as it is, with all that is in it. -/
  spares : Scalar → Bool

namespace Rewriting

variable (r : Rewriting)

mutual

/-- Rewrites a node at a place; `root` tells whether the node is a definition. -/
def node (root : Bool) (place : List Scalar) : Value → Value
  | .map raw =>
    .map (r.own place
      (if Entries.contains raw (.str "$ref") then raw
      else if entry raw "type" = .str "array" then items place raw
      else if isObjectNode root raw then properties place raw
      else raw))
  | v => v

/-- Rewrites the items of an array among its entries. -/
def items (place : List Scalar) : List (Scalar × Value) → List (Scalar × Value)
  | [] => []
  | (k, v) :: rest =>
    (k, if k = .str "items" && !r.spares k then node false
      (place ++ [k]) v else v) :: items place rest

/-- Rewrites the properties of an object among its entries. -/
def properties (place : List Scalar) : List (Scalar × Value) → List (Scalar × Value)
  | [] => []
  | (k, v) :: rest =>
    (k, if k = .str "properties" && !r.spares k then table
      (place ++ [k]) v else v) :: properties place rest

/-- Rewrites a table of properties; what is no table stays. -/
def table (place : List Scalar) : Value → Value
  | .map raw => .map (each place raw)
  | v => v

/-- Rewrites properties one after another, without those that are not kept. -/
def each (place : List Scalar) : List (Scalar × Value) → List (Scalar × Value)
  | [] => []
  | (k, v) :: rest =>
    if r.keeps k then (k, node false (place ++ [k]) v) :: each place rest else each place rest

end

/-- What becomes of the entries of a node when its items or properties are rewritten. -/
def parts (root : Bool) (place : List Scalar) (raw : Entries Value) : Entries Value :=
  if Entries.contains raw (.str "$ref") then raw
  else if entry raw "type" = .str "array" then r.items place raw
  else if isObjectNode root raw then r.properties place raw
  else raw

/-- A table is rewritten in its parts first, and then by itself. -/
theorem node_map (root : Bool) (place : List Scalar) (raw : Entries Value) :
    r.node root place (.map raw) = .map (r.own place (r.parts root place raw)) := by
  rw [node, parts]

/-- Rewrites every definition of a definition map. -/
def definitions (raw : Entries Value) : Entries Value :=
  raw.map fun (name, v) => (name, r.node true [name] v)

/-- Rewrites every definition of a document, under either root. -/
def document (document : Entries Value) : Entries Value :=
  (document.modify (.str "definitions") (Value.onTable r.definitions)).modify (.str "components")
    (Value.onTable fun components => components.modify (.str "schemas")
      (Value.onTable r.definitions))

/-- The rewriting that spares the entry of a key. -/
def sparing (key : String) : Rewriting := { r with spares := fun k => k == .str key }

end Rewriting

/-! ## 2. Keys that are texts -/

/-- The tables of a value that stand where nodes are read, and those of properties, have texts for
keys. -/
inductive Value.IsSpelled : Value → Prop
  | table {raw : Entries Value} (keys : raw.TextKeys)
    (items : ∀ v, Entries.get? raw (.str "items") = some v → IsSpelled v)
    (names : ∀ properties, Entries.get? raw (.str "properties") = some (.map properties) →
      Entries.TextKeys properties)
    (properties : ∀ properties, Entries.get? raw (.str "properties") = some (.map properties) →
      ∀ property ∈ properties, IsSpelled property.2) : IsSpelled (.map raw)
  | other {v : Value} (h : ∀ raw, v ≠ .map raw) : IsSpelled v

namespace Value

/-- A table is spelled out if its keys are texts, and its items and properties are. -/
theorem isSpelled_map_iff {raw : Entries Value} :
    (Value.map raw).IsSpelled ↔ raw.TextKeys ∧
    (∀ v, Entries.get? raw (.str "items") = some v → v.IsSpelled) ∧
      ∀ properties, Entries.get? raw (.str "properties") = some (.map properties) →
        Entries.TextKeys properties ∧ ∀ property ∈ properties, property.2.IsSpelled := by
  constructor
  · intro h
    cases h with
    | table keys items names properties =>
      exact ⟨keys, items, fun ps hps => ⟨names ps hps, properties ps hps⟩⟩
    | other h => exact absurd rfl (h raw)
  · rintro ⟨keys, items, properties⟩
    exact .table keys items (fun ps hps => (properties ps hps).1) fun ps hps =>
      (properties ps hps).2

/-- Induction along the reader, which comes from a table to its items and to its properties. -/
theorem nodeInduction {P : Value → Prop}
    (table : ∀ raw : Entries Value, (∀ v, Entries.get? raw (.str "items") = some v → P v) →
      (∀ properties, Entries.get? raw (.str "properties") = some (.map properties) →
        ∀ property ∈ properties, P property.2) → P (.map raw))
    (other : ∀ v : Value, (∀ raw, v ≠ .map raw) → P v) (v : Value) : P v := by
  -- The properties of a table stand two levels below it, so the induction carries the entries
  -- along.
  have hboth : P v ∧ ∀ entries, v = .map entries → ∀ entry ∈ entries, P entry.2 := by
    induction v using Value.induction with
    | map raw ih =>
      refine ⟨table raw ?_ ?_, ?_⟩
      · exact fun items hget => (ih _ (Entries.mem_of_get?_str hget)).1
      · exact fun properties hget => (ih _ (Entries.mem_of_get?_str hget)).2 properties rfl
      · rintro entries ⟨⟩ entry hentry
        exact (ih entry hentry).1
    | scalar s => exact ⟨other _ (by simp), by simp⟩
    | list items _ => exact ⟨other _ (by simp), by simp⟩
    | set members => exact ⟨other _ (by simp), by simp⟩
    | pair first second _ _ => exact ⟨other _ (by simp), by simp⟩
  exact hboth.1

/-- In JSON all keys are texts. -/
theorem isSpelled_of_isJson (v : Value) : v.isJson = true → v.IsSpelled := by
  induction v using nodeInduction with
  | table raw hitems hproperties =>
    intro hjson
    obtain ⟨htexts, -, hvalues⟩ := isJson_map_iff.mp hjson
    refine isSpelled_map_iff.mpr ⟨htexts, fun v hget => ?_, fun properties hget => ?_⟩
    · exact hitems v hget (hvalues _ (Entries.mem_of_get?_str hget))
    · obtain ⟨hnames, -, hjsons⟩ := isJson_map_iff.mp (hvalues _ (Entries.mem_of_get?_str hget))
      exact ⟨hnames, fun property hmem => hproperties properties hget property hmem
        (hjsons property hmem)⟩
  | other v hv => exact fun _ => .other hv

end Value

/-- The nodes of a document have texts for keys. -/
def Document.IsSpelled (document : Entries Value) : Prop :=
  ∀ raw, Document.rawDefinitions document = .ok raw → ∀ definition ∈ raw, definition.2.IsSpelled

/-- A document of JSON is spelled out. -/
theorem Document.isSpelled_of_isJson {document : Entries Value}
    (h : (Value.map document).isJson = true) :
    Document.IsSpelled document := fun _ hraw definition hmem =>
  Value.isSpelled_of_isJson _ ((Value.isJson_map_iff.mp
    (isJson_of_rawDefinitions h hraw)).2.2 definition hmem)

/-- Properties become nodes under the same texts. -/
theorem textKeys_of_readEach {key : String} {properties : Entries Value} (h : properties.TextKeys)
    {nodes : Entries Node} (hnodes : readEach key properties = .ok nodes) : nodes.TextKeys := by
  induction properties generalizing nodes with
  | nil =>
    cases hnodes
    exact .nil
  | cons property rest ih =>
    obtain ⟨k, v⟩ := property
    obtain ⟨⟨s, rfl⟩, hrest⟩ := List.forall_mem_cons.mp h
    rw [readEach] at hnodes
    split at hnodes
    · exact ih hrest hnodes
    · obtain ⟨node, -, hnodes⟩ := Outcome.bind_eq_ok_iff.mp hnodes
      obtain ⟨others, hothers, hnodes⟩ := Outcome.bind_eq_ok_iff.mp hnodes
      obtain rfl := Except.ok.inj hnodes
      exact (Entries.TextKeys.singleton s node).append (ih hrest hothers)

/-- Properties are read with the texts that they have for keys. -/
theorem textKeys_of_readProperties {key : String} {raw : Entries Value}
    (h : ∀ properties, Entries.get? raw (.str "properties") = some (.map properties) →
      Entries.TextKeys properties)
    {nodes : Entries Node} (hnodes : readProperties key raw = .ok nodes) : nodes.TextKeys := by
  rw [readProperties_eq] at hnodes
  split at hnodes
  · exact textKeys_of_readEach (h _ ‹_›) hnodes
  · split at hnodes
    · cases hnodes
    · cases hnodes
      exact .nil
  · cases hnodes
    exact .nil

/-! ## 3. What the reader cannot see -/

/-- A modification is seen under its own name only. -/
theorem Entries.get?_modify_str {α : Type} (entries : Entries α) (s t : String) (f : α → α) :
    get? (modify entries (.str s) f)
      (.str t) = if s = t then (get? entries (.str t)).map f else get? entries (.str t) := by
  induction entries with
  | nil => simp [modify]
  | cons entry rest ih =>
    obtain ⟨k, v⟩ := entry
    rw [modify, List.map_cons, ← modify, get?, get?, ih]
    by_cases hk : k = .str t
    · subst hk
      by_cases hs : s = t
      · simp [hs]
      · simp [hs, Ne.symm hs]
    · simp [hk]

/-- It leaves the keys. -/
theorem Entries.TextKeys.modify {α : Type} {entries : Entries α} (h : entries.TextKeys) (k : Scalar)
    (f : α → α) :
    (entries.modify k f).TextKeys :=
  List.forall_mem_map.mpr fun entry hentry => h entry hentry

/-- A rewriting that a reader of overrides under `key` cannot see. -/
structure Rewriting.Respects (r : Rewriting) (key : String) : Prop where
  spares : r.spares (.str key) = true ∨ key ∉ ["items", "properties"]
  keeps : ∀ k, r.keeps k = false → isReserved k = true
  textKeys : ∀ place {raw : Entries Value}, raw.TextKeys → (r.own place raw).TextKeys
  extension : ∀ place raw, Related CompileError.Alike Eq (readExtension key raw)
    (readExtension key (r.own place raw))
  pointer : ∀ place raw,
    Option.Rel Repointed (Entries.get? raw (.str "$ref"))
      (Entries.get? (r.own place raw) (.str "$ref"))
  parts : ∀ place raw, Entries.get? raw (.str "$ref") = none → ∀ s ∈ partKeys,
    Entries.get? (r.own place raw) (.str s) = Entries.get? raw (.str s)

namespace Rewriting

/-- The items of an array are rewritten where they stand. -/
theorem items_eq (r : Rewriting) (place : List Scalar) (raw : Entries Value) :
    r.items place raw = Entries.modify raw (.str "items") fun v =>
      if r.spares (.str "items") then v else r.node false (place ++ [.str "items"]) v := by
  induction raw with
  | nil => rfl
  | cons entry rest ih =>
    obtain ⟨k, v⟩ := entry
    rw [items, ih, Entries.modify, Entries.modify, List.map_cons]
    by_cases hk : k = .str "items"
    · subst hk
      cases r.spares (.str "items") <;> simp
    · simp [hk]

/-- The properties of an object are rewritten where they stand. -/
theorem properties_eq (r : Rewriting) (place : List Scalar) (raw : Entries Value) :
    r.properties place raw = Entries.modify raw (.str "properties") fun v =>
      if r.spares (.str "properties") then v else r.table (place ++ [.str "properties"]) v := by
  induction raw with
  | nil => rfl
  | cons entry rest ih =>
    obtain ⟨k, v⟩ := entry
    rw [properties, ih, Entries.modify, Entries.modify, List.map_cons]
    by_cases hk : k = .str "properties"
    · subst hk
      cases r.spares (.str "properties") <;> simp
    · simp [hk]

section Parts

variable {r : Rewriting} {root : Bool} {place : List Scalar} {raw : Entries Value}

/-- One entry of a node changes at most, its items or its properties, and only if it is not
spared. -/
theorem parts_cases (r : Rewriting) (root : Bool) (place : List Scalar) (raw : Entries Value) :
    r.parts root place raw = raw ∨ ∃ t ∈ ["items", "properties"], ∃ f : Value → Value,
      r.parts root place raw = raw.modify (.str t) fun v =>
        if r.spares (.str t) then v else f v := by
  unfold parts
  rw [items_eq, properties_eq]
  split
  · exact .inl rfl
  · split
    · exact .inr ⟨"items", by simp, _, rfl⟩
    · split
      · exact .inr ⟨"properties", by simp, _, rfl⟩
      · exact .inl rfl

/-- To rewrite the parts of a table leaves its keys. -/
theorem parts_textKeys (h : raw.TextKeys) : (r.parts root place raw).TextKeys := by
  rcases r.parts_cases root place raw with hsame | ⟨t, -, f, hmodify⟩
  · rw [hsame]
    exact h
  · rw [hmodify]
    exact h.modify _ _

/-- What is spared, or is neither items nor properties, stays. -/
theorem get?_parts_str {s : String} (h : r.spares (.str s) = true ∨ s ∉ ["items", "properties"]) :
    Entries.get? (r.parts root place raw) (.str s) = Entries.get? raw (.str s) := by
  rcases r.parts_cases root place raw with hsame | ⟨t, ht, f, hmodify⟩
  · rw [hsame]
  · rw [hmodify, Entries.get?_modify_str]
    by_cases hts : t = s
    · -- The entry that may change is the one looked at, so it must be spared.
      subst hts
      simp [h.resolve_right (absurd ht)]
    · exact if_neg hts

/-- So no entry comes or goes. -/
theorem contains_parts (s : String) :
    Entries.contains (r.parts root place raw) (.str s) = Entries.contains raw (.str s) := by
  rcases r.parts_cases root place raw with hsame | ⟨t, -, f, hmodify⟩
  · rw [hsame]
  · rw [hmodify, Entries.contains, Entries.get?_modify_str]
    split
    · exact Option.isSome_map
    · rfl

variable (href : Entries.get? raw (.str "$ref") = none)
include href

/-- The items of an array are rewritten, unless they are spared. -/
theorem get?_parts_items (htype : entry raw "type" = .str "array") :
    Entries.get? (r.parts root place raw) (.str "items") = (Entries.get? raw (.str "items")).map
      fun v =>
      if r.spares (.str "items") then v else r.node false (place ++ [.str "items"]) v := by
  rw [parts, if_neg (by simp [Entries.contains, href]), if_pos htype, items_eq,
    Entries.get?_modify_str, if_pos rfl]

/-- The properties of an object are rewritten, unless they are spared. -/
theorem get?_parts_properties (hobject : isObjectNode root raw = true) :
    Entries.get? (r.parts root place raw) (.str "properties") =
      (Entries.get? raw (.str "properties")).map fun v =>
      if r.spares (.str "properties") then v else r.table (place ++ [.str "properties"]) v := by
  have htype : entry raw "type" ≠ .str "array" := by
    intro harray
    simp [isObjectNode, harray] at hobject
  rw [parts, if_neg (by simp [Entries.contains, href]), if_neg htype, if_pos hobject, properties_eq,
    Entries.get?_modify_str, if_pos rfl]

end Parts

/-- A rewriting that pairs what is read from a document with what is read from the document that it
becomes, where overrides are read under `key` and `Own` says how they go together. -/
structure Carries (r : Rewriting) (key : String) (Own : OverrideChange) : Prop where
  refl : ∀ place n, Own place n n.extension
  keeps : ∀ k, r.keeps k = false → isReserved k = true
  textKeys : ∀ place {raw : Entries Value}, raw.TextKeys → (r.own place raw).TextKeys
  extension : ∀ root place raw, Related CompileError.Alike
    (fun _ e => ∀ n, readNode key root (.map raw) = .ok n → Own place n e)
    (readExtension key raw) (readExtension key (r.own place (r.parts root place raw)))
  roots : ∀ name raw, Related CompileError.Alike Eq (readExtension key raw)
    (readExtension key (r.own [name] (r.parts true [name] raw)))
  pointer : ∀ place raw,
    Option.Rel Repointed (Entries.get? raw (.str "$ref"))
      (Entries.get? (r.own place raw) (.str "$ref"))
  words : ∀ place raw, Entries.get? raw (.str "$ref") = none → ∀ s ∈ wordKeys,
    Retabled (entry raw s) (entry (r.own place raw) s)
  required : ∀ place raw, Entries.get? raw (.str "$ref") = none →
    Unlisted (entry raw "required") (entry (r.own place raw) "required")
  parts : ∀ place raw, Entries.get? raw (.str "$ref") = none →
    ∀ s ∈ ["items", "properties", "default"],
    Entries.get? (r.own place raw) (.str s) = Entries.get? raw (.str s)

/-- What the reader cannot see leaves the overrides as they are. -/
theorem Respects.carries {r : Rewriting} {key : String} (h : r.Respects key) :
    r.Carries key Node.Kept := by
  have hread : ∀ root place raw, Related CompileError.Alike Eq (readExtension key raw)
      (readExtension key (r.own place (r.parts root place raw))) := by
    intro root place raw
    have hparts : Entries.get? (r.parts root place raw) (.str key) = Entries.get? raw (.str key) :=
      get?_parts_str h.spares
    exact .trans .trans (readExtension_alike hparts.symm) (h.extension place _)
  exact {
    refl := fun _ _ => rfl
    keeps := h.keeps
    textKeys := h.textKeys
    extension := fun root place raw => (hread root place raw).mono fun _ _ hraw _ heq n hn =>
      (Except.ok.inj ((readFrom_of_readNode_map hn).extension.symm.trans hraw)).trans heq
    roots := fun name raw => hread true [name] raw
    pointer := h.pointer
    words := by
      intro place raw href s hs
      rw [entry, entry, h.parts place raw href s ((by decide : ∀ s ∈ wordKeys, s ∈ partKeys) s hs)]
      exact .same _
    required := by
      intro place raw href
      rw [entry, entry, h.parts place raw href "required" (by decide)]
      exact .inl rfl
    parts := fun place raw href s hs =>
      h.parts place raw href s
        ((by decide : ∀ s ∈ ["items", "properties", "default"], s ∈ partKeys) s hs) }

/-- What a value is read as is paired with what the value is read as that it is rewritten to. -/
def Carried (r : Rewriting) (key : String) (Own : OverrideChange) (v : Value) : Prop :=
  v.IsSpelled → ∀ root place,
    Related Failure.Alike (Node.Paired Own place) (readNode key root v)
      (readNode key root (r.node root place v))

namespace Carries

variable {r : Rewriting} {key : String} {Own : OverrideChange} (h : r.Carries key Own)
include h

/-- The items of an array are paired if they are carried. -/
theorem readItems_parts {place : List Scalar} {raw other : Entries Value}
    (hspelled : ∀ items, Entries.get? raw (.str "items") = some items → items.IsSpelled)
    (hitems : ∀ items, Entries.get? raw (.str "items") = some items → r.Carried key Own items)
    (hother : Entries.get? other (.str "items") = (Entries.get? raw (.str "items")).map fun v =>
      if r.spares (.str "items") then v else r.node false place v) :
    Related Failure.Alike (Node.Paired Own place) (readItems key raw) (readItems key other) := by
  rw [readItems_eq, readItems_eq, hother]
  cases hget : Entries.get? raw (.str "items") with
  | none => exact .ok (.refl h.refl _ _)
  | some items =>
    cases r.spares (.str "items") with
    | true => exact .refl .same (fun n => Node.Paired.refl h.refl n _) _
    | false => exact hitems items hget (hspelled items hget) false _

/-- Properties that are carried are paired. -/
theorem readEach_each {properties : Entries Value} (htexts : properties.TextKeys)
    (hspelled : ∀ property ∈ properties, property.2.IsSpelled)
    (hcarried : ∀ property ∈ properties, r.Carried key Own property.2) (place : List Scalar) :
    Related Failure.Alike (NamedPaired Own place) (readEach key properties)
      (readEach key (r.each place properties)) := by
  induction properties with
  | nil => exact .ok ⟨.nil, .nil⟩
  | cons property rest ih =>
    obtain ⟨k, v⟩ := property
    obtain ⟨⟨s, rfl⟩, htexts'⟩ := List.forall_mem_cons.mp htexts
    obtain ⟨hv, hspelled'⟩ := List.forall_mem_cons.mp hspelled
    obtain ⟨hfirst, hcarried'⟩ := List.forall_mem_cons.mp hcarried
    have hrest := ih htexts' hspelled' hcarried'
    rw [readEach, each]
    cases hreserved : isReserved (.str s) with
    | true =>
      -- A reserved property is not read, whether it is kept or not.
      rw [if_pos rfl]
      split
      · rw [readEach, hreserved, if_pos rfl]
        exact hrest
      · exact hrest
    | false =>
      have hkeeps : r.keeps (.str s) = true := by
        by_contra hleft
        exact absurd (h.keeps _ (Bool.eq_false_of_not_eq_true hleft)) (by simp [hreserved])
      rw [if_neg Bool.false_ne_true, if_pos hkeeps, readEach, hreserved, if_neg Bool.false_ne_true]
      refine ((hfirst hv false _).mapError fun _ _ hde => hde.underProperty _ _ _).bind
        fun n m hnode => ?_
      refine hrest.bind fun ps qs hothers => .ok
        ⟨(Entries.TextKeys.singleton s n).append hothers.texts, ?_⟩
      exact .cons ⟨rfl, hnode⟩ hothers.pairs

/-- The properties of an object are paired if they are carried. -/
theorem readProperties_parts {place : List Scalar} {raw other : Entries Value}
    (hspelled : ∀ properties, Entries.get? raw (.str "properties") = some (.map properties) →
      Entries.TextKeys properties ∧ ∀ property ∈ properties, property.2.IsSpelled)
    (hcarried : ∀ properties, Entries.get? raw (.str "properties") = some (.map properties) →
      ∀ property ∈ properties, r.Carried key Own property.2)
    (hother : Entries.get? other (.str "properties") = (Entries.get? raw (.str "properties")).map
      fun v => if r.spares (.str "properties") then v else r.table place v) :
    Related Failure.Alike (NamedPaired Own place) (readProperties key raw)
      (readProperties key other) := by
  cases hspares : r.spares (.str "properties") with
  | true =>
    have hsame : readProperties key other = readProperties key raw := by
      simp [readProperties_eq, hother, hspares]
    rw [hsame]
    refine .self fun nodes hnodes => .refl h.refl ?_
    exact textKeys_of_readProperties (fun properties hget => (hspelled properties hget).1) hnodes
  | false =>
    rw [readProperties_eq, readProperties_eq, hother, hspares]
    cases hproperties : Entries.get? raw (.str "properties") with
    | none => exact .ok (.refl h.refl .nil)
    | some v =>
      cases v with
      | map properties =>
        obtain ⟨htexts, hvalues⟩ := hspelled properties hproperties
        exact h.readEach_each htexts hvalues (hcarried properties hproperties) place
      | _ =>
        refine .self fun nodes hnodes => .refl h.refl ?_
        dsimp only at hnodes
        split at hnodes
        · cases hnodes
        · cases hnodes
          exact .nil

/-- A table is carried if its items are, and its properties. -/
theorem carried_map {raw : Entries Value}
    (hitems : ∀ items, Entries.get? raw (.str "items") = some items → r.Carried key Own items)
    (hproperties : ∀ properties, Entries.get? raw (.str "properties") = some (.map properties) →
      ∀ property ∈ properties, r.Carried key Own property.2) : r.Carried key Own (.map raw) := by
  intro hspelled root place
  obtain ⟨htexts, hitemsSpelled, hpropertiesSpelled⟩ := Value.isSpelled_map_iff.mp hspelled
  have hraw : ∀ s, r.spares (.str s) = true ∨ s ∉ ["items", "properties"] →
      Entries.get? (r.parts root place raw) (.str s) = Entries.get? raw (.str s) :=
        fun s => get?_parts_str
  rw [node_map]
  refine readNode_map_paired htexts (h.textKeys place (parts_textKeys htexts))
    (h.extension root place raw) ?_ ?_
  · exact hraw "$ref" (.inr (by simp)) ▸ h.pointer place _
  · -- Without a pointer the parts are what is read, and only two of them may have been rewritten.
    intro href
    have href' := (hraw "$ref" (.inr (by simp))).trans href
    have hpart : ∀ s ∈ ["items", "properties", "default"],
      Entries.get? (r.own place (r.parts root place raw)) (.str s) =
        Entries.get? (r.parts root place raw) (.str s) := h.parts place _ href'
    constructor
    case words =>
      intro s hs
      have hentry : entry (r.parts root place raw) s = entry raw s := by
        rw [entry, entry, hraw s (.inr
          ((by decide : ∀ s ∈ wordKeys, s ∉ ["items", "properties"]) s hs))]
      exact hentry ▸ h.words place _ href' s hs
    case required =>
      have hentry : entry (r.parts root place raw) "required" = entry raw "required" := by
        rw [entry, entry, hraw "required" (.inr (by decide))]
      exact hentry ▸ h.required place _ href'
    case default => rw [entry, entry, hpart "default" (by decide),
      hraw "default" (.inr (by decide))]
    case contains =>
      have hcontains : Entries.contains (r.parts root place raw) (.str "properties") = _ :=
        contains_parts "properties"
      rw [← hcontains, Entries.contains, Entries.contains, hpart "properties" (by decide)]
    case items =>
      intro htype
      exact h.readItems_parts hitemsSpelled hitems
        ((hpart "items" (by decide)).trans (get?_parts_items href htype))
    case properties =>
      intro hobject
      exact h.readProperties_parts hpropertiesSpelled hproperties
        ((hpart "properties" (by decide)).trans (get?_parts_properties href hobject))

omit h in
/-- What is no table is not rewritten. -/
theorem node_of_ne_map {v : Value} (hv : ∀ raw, v ≠ .map raw) (root : Bool) (place : List Scalar) :
    r.node root place v = v := by
  rw [node]
  exact hv

/-- So it is carried as it is. -/
theorem carried_of_ne_map {v : Value} (hv : ∀ raw, v ≠ .map raw) : r.Carried key Own v := by
  intro _ root place
  rw [node_of_ne_map hv]
  exact .refl .same (fun n => Node.Paired.refl h.refl n _) _

/-- **What is read is paired** with what is read of a document that is rewritten. -/
theorem carried (v : Value) : r.Carried key Own v := by
  induction v using Value.nodeInduction with
  | table raw hitems hproperties => exact h.carried_map hitems hproperties
  | other v hv => exact h.carried_of_ne_map hv

/-- A definition is paired with the one that it is rewritten to, and has the same override. -/
theorem carried_root (v : Value) (hspelled : v.IsSpelled) (name : Scalar) :
    Related Failure.Alike (fun n m => Node.Paired Own [name] n m ∧ n.extension = m.extension)
      (readNode key true v) (readNode key true (r.node true [name] v)) := by
  refine (h.carried v hspelled true [name]).mono fun n m hn hm hnm => ⟨hnm, ?_⟩
  obtain ⟨raw, rfl, hread⟩ := readFrom_of_readNode hn
  rw [node_map] at hm
  have hroot := h.roots name raw
  rw [hread.extension, (readFrom_of_readNode_map hm).extension] at hroot
  cases hroot with
  | ok heq => exact heq

/-- Definitions are paired with those that they are rewritten to. -/
theorem readDefinitions_definitions {raw : Entries Value} (hspelled : ∀ e ∈ raw, e.2.IsSpelled) :
    Related Failure.Alike (Definitions.Paired Own) (readDefinitions key raw)
      (readDefinitions key (r.definitions raw)) := by
  induction raw with
  | nil => exact .ok .nil
  | cons entry rest ih =>
    obtain ⟨name, v⟩ := entry
    obtain ⟨hv, hrest⟩ := List.forall_mem_cons.mp hspelled
    refine (h.carried_root v hv name).bind fun n m hnode => ?_
    exact (ih hrest).bind fun ds es hothers => .ok (.cons ⟨rfl, hnode⟩ hothers)

end Carries

end Rewriting

/-! ## 4. Documents that compile alike -/

/-- A modification that leaves null is seen under its own name only, in an entry that may be
missing as well. -/
theorem entry_modify (raw : Entries Value) (s t : String) {f : Value → Value}
    (hf : f .null = .null) :
    entry (raw.modify (.str s) f) t = if s = t then f (entry raw t) else entry raw t := by
  rw [entry, Entries.get?_modify_str, entry]
  split
  · cases Entries.get? raw (.str t) with
    | none => exact hf.symm
    | some v => rfl
  · rfl

/-- The definitions of a document that is rewritten are its definitions, rewritten. -/
theorem Rewriting.rawDefinitions_document (r : Rewriting) (document : Entries Value) :
    Document.rawDefinitions (r.document document) =
      (Document.rawDefinitions document).map r.definitions := by
  have hentry : Document.definitionsEntry (r.document document) =
      (Document.definitionsEntry document).onTable r.definitions := by
    have hdefinitions : entry (r.document document) "definitions" =
        (entry document "definitions").onTable r.definitions := by
      rw [Rewriting.document, entry_modify _ _ _ rfl, if_neg (by decide), entry_modify _ _ _ rfl,
        if_pos rfl]
    have hcomponents : entry (r.document document) "components" =
      (entry document "components").onTable
        fun components => components.modify (.str "schemas") (Value.onTable r.definitions) := by
      rw [Rewriting.document, entry_modify _ _ _ rfl, if_pos rfl, entry_modify _ _ _ rfl,
        if_neg (by decide)]
    unfold Document.definitionsEntry
    rw [hdefinitions, hcomponents]
    cases entry document "definitions" with
    | scalar s =>
      cases s with
      | null =>
        cases entry document "components" with
        | map components => exact (entry_modify _ _ _ rfl).trans (if_pos rfl)
        | _ => rfl
      | _ => rfl
    | _ => rfl
  unfold Document.rawDefinitions
  rw [hentry]
  cases Document.definitionsEntry document with
  | scalar s => cases s <;> rfl
  | _ => rfl

/-- Two compilations end in the same schemas, or in compile errors that are alike. -/
def EndAlike (x y : Except Failure (Entries Schema)) : Prop :=
  (∃ schemas, x = .ok schemas ∧ y = .ok schemas) ∨
    ∃ d e, x = .error (.compile d) ∧ y = .error (.compile e) ∧ CompileError.Alike d e

/-- Compilations with related outcomes end alike. -/
theorem EndAlike.of_related {p : Entries Schema → Prop} {x y : Except Failure (Entries Schema)}
    (hx : Yields p x) (h : Related Failure.Alike Eq x y) : EndAlike x y := by
  cases hx with
  | ok _ =>
    cases h with
    | ok heq => exact .inl ⟨_, rfl, heq ▸ rfl⟩
  | compile d =>
    cases h with
    | error hde =>
      cases hde with
      | same => exact .inr ⟨d, d, rfl, rfl, .refl d⟩
      | compile hde => exact .inr ⟨d, _, rfl, rfl, hde⟩

/-- Two compilations that end in different schemas do not. -/
theorem not_endAlike_of_ne {x y : Except Failure (Entries Schema)} {a b : Entries Schema}
    (hx : x = .ok a) (hy : y = .ok b) (hne : a ≠ b) : ¬ EndAlike x y := by
  rintro (⟨schemas, hsame, hother⟩ | ⟨_, _, hfails, -⟩)
  · rw [hx] at hsame
    rw [hy] at hother
    exact hne ((Except.ok.inj hsame).trans (Except.ok.inj hother).symm)
  · rw [hx] at hfails
    cases hfails

namespace Sample

/-- A configuration that lets overrides stand under the key of properties. -/
def underProperties : Config := { Config.initial with extensionKey := "properties" }

end Sample

/-- A compiler keeps the configuration that it was made from. -/
theorem Compiler.config_of_ofConfig {config : Config} {c : Compiler} (h : ofConfig config = .ok c) :
    c.config = config := by
  obtain ⟨_, -, rfl⟩ := Outcome.map_eq_ok_iff.mp h
  rfl

namespace Rewriting

variable {r : Rewriting} {config : Config} {document other : Entries Value}

/-- The definitions of two documents are paired if those of one are those of the other,
rewritten. -/
theorem Carries.extract_paired {key : String} {Own : OverrideChange} (h : r.Carries key Own)
    (hspelled : Document.IsSpelled document)
    (hraw : Document.rawDefinitions other = (Document.rawDefinitions document).map r.definitions) :
    Related Failure.Alike (Definitions.Paired Own) (Document.extract (.map document) key)
      (Document.extract (.map other) key) := by
  change Related Failure.Alike (Definitions.Paired Own)
    ((Document.rawDefinitions document).mapError .compile >>= readDefinitions key)
    ((Document.rawDefinitions other).mapError .compile >>= readDefinitions key)
  rw [hraw]
  cases hdefinitions : Document.rawDefinitions document with
  | error e => exact .error (.same _)
  | ok raw => exact h.readDefinitions_definitions (hspelled raw hdefinitions)

/-- Two documents compile alike if the definitions of one are those of the other, rewritten, and
definitions that are paired by the rewriting make the same schemas. -/
theorem compileSpec_related
    (h : ∀ c, Compiler.ofConfig config = .ok c → ∃ Own : OverrideChange,
      r.Carries config.extensionKey Own ∧ ∀ ds es, Definitions.Paired Own ds es →
      Related Failure.Alike Eq (c.buildSchemas ds none) (c.buildSchemas es none))
    (hspelled : Document.IsSpelled document)
    (hraw : Document.rawDefinitions other = (Document.rawDefinitions document).map r.definitions) :
    Related Failure.Alike Eq (Store.compileSpec config (.map document))
      (Store.compileSpec config (.map other)) := by
  unfold Store.compileSpec
  cases hcompiler : Compiler.ofConfig config with
  | error e => exact .error (.same _)
  | ok c =>
    obtain ⟨Own, hcarries, hbuild⟩ := h c hcompiler
    have hextract := hcarries.extract_paired hspelled hraw
    rw [← Compiler.config_of_ofConfig hcompiler] at hextract
    exact hextract.bind hbuild

/-- **Two documents compile alike** if the definitions of one are those of the other, rewritten
where the reader does not look. -/
theorem Respects.compileSpec_alike (h : r.Respects config.extensionKey)
    (hjson : (Value.map document).isJson = true)
    (hraw : Document.rawDefinitions other = (Document.rawDefinitions document).map r.definitions) :
    EndAlike (Store.compileSpec config (.map document))
      (Store.compileSpec config (.map other)) := by
  refine .of_related (Store.compileSpec_yields config hjson) ?_
  refine Rewriting.compileSpec_related (fun _ _ => ?_) (Document.isSpelled_of_isJson hjson) hraw
  exact ⟨_, h.carries, fun _ _ hpaired => Likeness.buildSchemas_same hpaired.same none⟩

end Rewriting

end ApiStore
