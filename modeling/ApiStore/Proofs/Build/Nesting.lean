import ApiStore.Proofs.Build.Target
import ApiStore.Proofs.JsonSchema.PassThrough
import ApiStore.Proofs.Likeness
/-
`Nesting.lean` -- arrays around a node, to any depth.

An array of something is a list type of what that compiles to. So a property that is an array
of arrays of a node should compile if the node does by itself, and its JSON Schema should ask
for nested lists in which everything is what the node by itself asks for. For the types of the
document and for anonymous objects that is so, to any depth (`buildProperty_nested`). A
pointer is looked for in a node and in the items of an array, and not further down: in one
array it is followed like the pointer alone, and in two or more it is taken for a node that has
no type, so that nothing compiles, wherever it may lead.

**What does not matter.** A default and the mark of a required field are entries of the field.
The keywords that are made of them allow everything, so they are left out of the comparison at
once (`ofValue_markRequired`, `issues_withDefault_typed`).
-/
set_option autoImplicit false

namespace ApiStore

open Outcome (Related)

/-! ## 1. Nested arrays and nested lists -/

namespace Node

/-- Arrays around a node, one in another: one for each of the facts, the outermost first. -/
def nested : List Facts → Node → Node
  | [], leaf => leaf
  | facts :: inner, leaf => .array facts (nested inner leaf)

/-- A primitive, an object or a pointer that has no override of its own. -/
inductive IsBare : Node → Prop
  | primitive {facts : Facts} (h : facts.extension = none) (type : String)
    (format : Option String) :
    IsBare (.primitive facts type format)
  | object {facts : Facts} (h : facts.extension = none) (properties : List (String × Node))
    (required : List String) :
    IsBare (.object facts properties required)
  | reference {facts : Facts} (h : facts.extension = none) (pointer : String) :
    IsBare (.reference facts pointer)

end Node

/-- A value in so many markers. -/
def Value.wrapped : Nat → Value → Value
  | 0, t => t
  | depth + 1, t => .list [wrapped depth t]

/-- Lists nested to a depth, with values of a kind in the innermost ones. -/
def Value.NestedList (p : Value → Prop) : Nat → Value → Prop
  | 0, v => p v
  | depth + 1, v => ∃ items, v = .list items ∧ ∀ item ∈ items, NestedList p depth item

/-- What an array compiles to accepts the lists, nested to a depth, of what a node by itself
compiles to accepts. -/
def Compiled.AcceptsLists (depth : Nat) (nested alone : Compiled) : Prop :=
  ∀ v, JsonSchema.accepts (JsonSchema.ofValue nested.toValue) v = .ok true ↔
    v.NestedList (fun w => JsonSchema.accepts (JsonSchema.ofValue alone.toValue) w = .ok true) depth

/-! ## 2. What the JSON Schemas of fields find -/

namespace JsonSchema

theorem accepts_eq_true_iff {schema : JsonSchema} {v : Value} :
    accepts schema v = .ok true ↔ issues schema v = .ok [] := by
  rw [accepts, Outcome.map_eq_ok_iff]
  constructor
  · rintro ⟨found, hfound, hempty⟩
    rw [hfound, List.isEmpty_iff.mp hempty]
  · intro h
    exact ⟨[], h, rfl⟩

/-- A marker accepts the lists in which everything is accepted by what it is around. -/
theorem accepts_list_iff {t v : Value} : accepts (ofValue (.list [t])) v = .ok true ↔
    ∃ items, v = .list items ∧ ∀ item ∈ items, accepts (ofValue t) item = .ok true := by
  simp only [accepts_eq_true_iff]
  have hkeywords : ofValue (.list [t]) = [.type (.str "array"), .items (ofValue t)] := rfl
  rw [hkeywords, issues_eq_nil_iff, List.forall_mem_cons, List.forall_mem_singleton,
    (type_array_decides v).2]
  constructor
  · rintro ⟨⟨items, rfl⟩, hitems⟩
    exact ⟨items, rfl, eachItem_eq_nil_iff.mp hitems⟩
  · rintro ⟨items, rfl, hitems⟩
    exact ⟨⟨items, rfl⟩, eachItem_eq_nil_iff.mpr hitems⟩

/-- Markers in each other accept nested lists. -/
theorem accepts_wrapped_iff (t : Value) (depth : Nat) (v : Value) :
    accepts (ofValue (t.wrapped depth)) v = .ok true ↔
    v.NestedList (fun w => accepts (ofValue t) w = .ok true) depth := by
  -- The induction is on the depth; a marker more asks for a list around what was accepted before.
  induction depth generalizing v with
  | zero => exact Iff.rfl
  | succ depth ih =>
    rw [Value.wrapped, accepts_list_iff, Value.NestedList]
    simp only [ih]

/-- Keywords that find nothing in any value can be left out. -/
theorem issues_append_silent {schema silent : List Keyword} {v : Value}
    (h : issues silent v = .ok []) :
    issues (schema ++ silent) v = issues schema v := by
  rw [issues_append, h]
  cases issues schema v with
  | error e => rfl
  | ok found => exact congrArg Except.ok (List.append_nil found)

/-- A field of a type that is no table finds what its type does, whatever its default is. -/
theorem issues_withDefault_typed {t : Value} (ht : ∀ inner, t ≠ .map inner) (default v : Value) :
    issues (ofValue (.map (BuildRules.withDefault default (BuildRules.typed t)))) v =
      issues (ofValue t) v := by
  have hget : Entries.get? (BuildRules.withDefault default (BuildRules.typed t)) (.str "type") =
      some t := by
    unfold BuildRules.withDefault
    split <;> rfl
  have hfield : isField (BuildRules.withDefault default (BuildRules.typed t)) = true := by
    rw [isField, hget]
    cases t with
    | map inner => exact absurd rfl (ht inner)
    | _ => rfl
  rw [ofValue, if_pos hfield, ofTypeEntry_eq hget ht]
  refine issues_append_silent ?_
  unfold BuildRules.withDefault
  split <;> rfl

/-- The mark of a required field is no matter for the values that the field is checked with. -/
theorem ofValue_markRequired (required : Bool) (compiled : Compiled) :
    ofValue (BuildRules.markRequired required compiled).toValue = ofValue compiled.toValue := by
  unfold BuildRules.markRequired
  split
  · split
    · rename_i fields hmarked
      obtain ⟨-, hfield⟩ := Bool.and_eq_true_iff.mp hmarked
      refine (ofValue_congr_of_isField hfield fun s hs => ?_).symm
      rw [Entries.get?_insert_str, if_neg]
      -- The mark stands under a key that no keyword is made of.
      have hmark : "required" ∉ "type" :: keywordOptions := by decide
      rintro ⟨⟩
      exact hmark hs
    · rfl
  · rfl

end JsonSchema

/-! ## 3. Nodes by themselves -/

namespace Node

variable {leaf : Node} (hleaf : leaf.IsBare)
include hleaf

theorem IsBare.extension_eq_none : leaf.extension = none := by
  cases hleaf <;> assumption

theorem IsBare.hasItemOverride_eq_false : leaf.hasItemOverride = false := by
  cases hleaf <;> rfl

variable {outer : List Facts} (houter : ∀ facts ∈ outer, facts.extension = none)
include houter

theorem nested_extension_eq_none : (nested outer leaf).extension = none := by
  cases outer with
  | nil => exact hleaf.extension_eq_none
  | cons facts inner => exact houter facts List.mem_cons_self

theorem nested_hasItemOverride_eq_false : (nested outer leaf).hasItemOverride = false := by
  cases outer with
  | nil => exact hleaf.hasItemOverride_eq_false
  | cons facts inner =>
    have hitems := nested_extension_eq_none hleaf fun f hf => houter f (List.mem_cons_of_mem _ hf)
    rw [nested, hasItemOverride, hitems, Option.isSome_none]

end Node

namespace BuildRules

variable (rules : BuildRules) (owner : Scalar) (key : String) {leaf : Node}

/-- A property without overrides is what its shape compiles to, marked if it is required. -/
theorem buildProperty_eq_of_plain {node : Node} (he : node.extension = none)
    (hi : node.hasItemOverride = false) (required : Bool) :
    rules.buildProperty owner required key node =
      ((rules.buildPlain owner key node).map (markRequired required)).mapError
      (.property (.str key) node.raw) := by
  rw [buildProperty, hi, if_neg Bool.false_ne_true]
  cases rules.buildPlain owner key node with
  | error e => rfl
  | ok plain =>
    simp only [withOverride, he]
    rfl

theorem buildProperty_nested_eq (hleaf : leaf.IsBare) {outer : List Facts}
    (houter : ∀ facts ∈ outer, facts.extension = none) (required : Bool) :
    rules.buildProperty owner required key (.nested outer leaf) =
      ((rules.buildPlain owner key (.nested outer leaf)).map (markRequired required)).mapError
        (.property (.str key) (Node.nested outer leaf).raw) :=
  rules.buildProperty_eq_of_plain owner key (Node.nested_extension_eq_none hleaf houter)
    (Node.nested_hasItemOverride_eq_false hleaf houter) required

/-- The items of nested arrays have the type of the innermost ones, in as many markers. -/
theorem itemType_nested (outer : List Facts) :
    rules.itemType owner (.nested outer leaf) = (rules.itemType owner leaf).map
      (Value.wrapped outer.length) := by
  induction outer with
  | nil => cases h : rules.itemType owner leaf <;> simp [Node.nested, h, Except.map, Value.wrapped]
  | cons facts inner ih =>
    rw [Node.nested, itemType, ih]
    cases rules.itemType owner leaf <;> rfl

/-- An array of anything but a pointer is a field of a list type. -/
theorem buildPlain_nested {inner : List Facts} (hp : (Node.nested inner leaf).ownPointer? = none)
    (facts : Facts) :
    rules.buildPlain owner key (.nested (facts :: inner) leaf) =
      (rules.itemType (.str key) leaf).map fun t =>
      .table (withDefault facts.default (typed (t.wrapped (inner.length + 1)))) := by
  rw [Node.nested, buildPlain, hp, if_neg (by simp), itemType_nested]
  cases rules.itemType (.str key) leaf <;> rfl

/-- What a node by itself compiles to accepts what its type as an item does, unless it is a
pointer. -/
theorem buildPlain_related_itemType (hleaf : leaf.IsBare) (hp : leaf.ownPointer? = none) :
    Related Eq (fun plain t => ∀ v, JsonSchema.accepts (JsonSchema.ofValue plain.toValue) v =
      JsonSchema.accepts (JsonSchema.ofValue t) v) (rules.buildPlain owner key leaf)
        (rules.itemType (.str key) leaf) := by
  cases hleaf with
  | primitive _ type format =>
    rw [buildPlain, itemType, leafType]
    cases storageType _ type format with
    | error e => exact .error rfl
    | ok t =>
      have htable : ∀ inner, t.toValue ≠ .map inner := by
        intro inner h
        cases h
      refine .ok fun v => ?_
      rw [JsonSchema.accepts, Compiled.toValue, JsonSchema.issues_withDefault_typed htable]
      rfl
  | object _ properties required =>
    rw [buildPlain, itemType]
    cases rules.buildProperties (.str key) required properties with
    | error e => exact .error rfl
    | ok fields => exact .ok fun v => rfl
  | reference _ pointer => cases hp

/-- A pointer in an array is a marker around what the pointer alone leads to. -/
theorem buildPlain_array_related (facts own : Facts) (pointer : String) :
    Related Eq (fun marker alone => marker.toValue = .list [alone.toValue])
      (rules.buildPlain owner key (.array facts (.reference own pointer)))
      (rules.buildPlain owner key (.reference own pointer)) := by
  have hitems : (Node.reference own pointer).ownPointer?.isSome = true := rfl
  rw [buildPlain, if_pos hitems, buildPlain, resolve, resolve]
  cases ht : Pointer.parse? pointer with
  | none =>
    rw [Reference.describe_unknown rfl ht, Reference.describe_unknown rfl ht]
    exact .error rfl
  | some target =>
    rw [Reference.describe_eq false rfl ht, Reference.describe_eq false rfl ht]
    -- Whether there are many is no matter for where the pointer leads.
    have hfollow := Related.refl (E := Eq) (R := Eq) (fun _ => rfl) (fun _ => rfl)
      (rules.follow owner ⟨owner == .str target, target, true⟩)
    refine hfollow.bind ?_
    rintro fields _ rfl
    exact .ok rfl

/-- A reference leads somewhere if it is circular, or if its target can be copied. -/
theorem exists_follow_iff (target : String) (many : Bool) :
    (∃ fields, rules.follow owner ⟨owner == .str target, target, many⟩ = .ok fields) ↔
      owner = .str target ∨ ∃ fields, rules.expand owner target = .ok fields := by
  rw [follow]
  by_cases howner : owner = .str target
  · rw [if_pos (by simpa using howner)]
    exact iff_of_true ⟨_, rfl⟩ (.inl howner)
  · rw [if_neg (by simpa using howner)]
    exact (or_iff_right howner).symm

/-- A pointer alone compiles if it leads to its owner, or to what can be copied. -/
theorem buildPlain_reference_iff (facts : Facts) (pointer : String) :
    (∃ plain, rules.buildPlain owner key (.reference facts pointer) = .ok plain) ↔
      ∃ target, Pointer.parse? pointer = some target ∧
        (owner = .str target ∨ ∃ fields, rules.expand owner target = .ok fields) := by
  rw [buildPlain, resolve]
  cases ht : Pointer.parse? pointer with
  | none =>
    rw [Reference.describe_unknown rfl ht]
    constructor
    · rintro ⟨plain, hplain⟩
      cases hplain
    · rintro ⟨target, htarget, -⟩
      cases htarget
  | some target =>
    rw [Reference.describe_eq false rfl ht]
    constructor
    · rintro ⟨plain, hplain⟩
      obtain ⟨r, hr, hplain⟩ := Outcome.bind_eq_ok_iff.mp hplain
      obtain rfl := Except.ok.inj hr
      obtain ⟨fields, hfields, -⟩ := Outcome.bind_eq_ok_iff.mp hplain
      exact ⟨target, rfl, (rules.exists_follow_iff owner target _).mp ⟨fields, hfields⟩⟩
    · rintro ⟨_, ⟨⟩, hleads⟩
      obtain ⟨fields, hfields⟩ := (rules.exists_follow_iff owner target _).mpr hleads
      exact ⟨_, Outcome.bind_eq_ok_iff.mpr
        ⟨_, rfl, Outcome.bind_eq_ok_iff.mpr ⟨fields, hfields, rfl⟩⟩⟩

/-- Under two or more arrays a pointer has no type. -/
theorem buildPlain_nested_reference (facts second own : Facts) (inner : List Facts)
    (pointer : String) :
    rules.buildPlain owner key (.nested (facts :: second :: inner) (.reference own pointer)) =
      .error (.unknownType (entry own.raw "type") (.map own.raw)) := by
  -- The items of the outermost array are an array, so the pointer is reached as the type of an
  -- item.
  rw [rules.buildPlain_nested owner key rfl, itemType]
  rfl

/-- Arrays around a node that is no pointer compile if the node does by itself, and accept nested
lists of what it accepts. -/
theorem buildPlain_nested_related (hleaf : leaf.IsBare) (hp : leaf.ownPointer? = none)
    (outer : List Facts) :
    Related Eq (Compiled.AcceptsLists outer.length)
      (rules.buildPlain owner key (.nested outer leaf))
      (rules.buildPlain owner key leaf) := by
  cases outer with
  | nil => exact .refl (fun _ => rfl) (fun _ _ => Iff.rfl) _
  | cons facts inner =>
    have hitems : (Node.nested inner leaf).ownPointer? = none := by
      cases inner with
      | nil => exact hp
      | cons _ _ => rfl
    -- Both are compared with the type of the node as an item.
    have halone := rules.buildPlain_related_itemType owner key hleaf hp
    rw [rules.buildPlain_nested owner key hitems]
    generalize rules.buildPlain owner key leaf = alone at halone ⊢
    generalize rules.itemType (.str key) leaf = type at halone ⊢
    cases halone with
    | error h => exact .error h.symm
    | @ok alone t h =>
      have htable : ∀ entries, t.wrapped (inner.length + 1) ≠ .map entries := by
        intro entries heq
        cases heq
      refine .ok fun v => ?_
      rw [JsonSchema.accepts, Compiled.toValue, JsonSchema.issues_withDefault_typed htable,
        ← JsonSchema.accepts, JsonSchema.accepts_wrapped_iff]
      simp only [h]
      rfl

/-- An array around a pointer compiles if the pointer does, and accepts lists of what that
accepts. -/
theorem buildPlain_array_reference_related (facts own : Facts) (pointer : String) :
    Related Eq (Compiled.AcceptsLists 1)
      (rules.buildPlain owner key (.array facts (.reference own pointer)))
      (rules.buildPlain owner key (.reference own pointer)) := by
  refine (rules.buildPlain_array_related owner key facts own pointer).mono
    fun marker alone _ _ hmarker v => ?_
  rw [hmarker]
  exact JsonSchema.accepts_list_iff

/-- **Arrays around a node.** They compile if and only if the node does, and accept the lists nested
as deep in which everything is what the node accepts, unless the node is a pointer and there are two
of them or more. -/
theorem buildProperty_nested_related (hleaf : leaf.IsBare) {outer : List Facts}
    (houter : ∀ facts ∈ outer, facts.extension = none)
    (hpointer : leaf.ownPointer? = none ∨ outer.length ≤ 1) (required : Bool) :
    Related (fun _ _ => True) (Compiled.AcceptsLists outer.length)
      (rules.buildProperty owner required key (.nested outer leaf))
      (rules.buildProperty owner required key leaf) := by
  have hplain : Related Eq (Compiled.AcceptsLists outer.length)
    (rules.buildPlain owner key (.nested outer leaf))
      (rules.buildPlain owner key leaf) := by
    -- A pointer takes another way through the compiler than anything else, so the two are told
    -- apart first.
    by_cases hp : leaf.ownPointer? = none
    · exact rules.buildPlain_nested_related owner key hleaf hp outer
    · have hlength : outer.length ≤ 1 := hpointer.resolve_left hp
      cases hleaf with
      | reference _ pointer =>
        cases outer with
        | nil => exact .refl (fun _ => rfl) (fun _ _ => Iff.rfl) _
        | cons facts inner =>
          obtain rfl : inner = [] := by simpa using hlength
          exact rules.buildPlain_array_reference_related owner key facts _ pointer
      | _ => exact absurd rfl hp
  rw [rules.buildProperty_nested_eq owner key hleaf houter,
    rules.buildProperty_eq_of_plain owner key hleaf.extension_eq_none
    hleaf.hasItemOverride_eq_false]
  refine (hplain.map fun nested alone h => ?_).mapError fun _ _ _ => trivial
  simp only [Compiled.AcceptsLists, JsonSchema.ofValue_markRequired]
  exact h

end BuildRules

/-! ## 4. Arrays of all depths -/

/-- **Arrays of what compiles compile, and accept nested lists.** Let a property be so many arrays,
one in another, around a primitive, an anonymous object or a pointer, none of them with an override.
If the innermost node is no pointer, or in one array at most, then the property compiles if and only
if that node compiles by itself under the same name; and its JSON Schema accepts the lists that are
nested as deep and hold what the JSON Schema of that node accepts, and nothing else. A pointer by
itself compiles if and only if it leads to its owner or to a definition of which a copy can be made
within the limit. But in two arrays or more it is refused as a node without a known type, wherever
it leads. -/
theorem buildProperty_nested (overrides : OverrideRules) (definitions : Definitions) (limit : Int)
    (levels : Nat) (owner : Scalar) (required : Bool) (key : String) {leaf : Node}
    (hleaf : leaf.IsBare) {outer : List Facts} (houter : ∀ facts ∈ outer, facts.extension = none) :
    let build := (rulesWithin overrides definitions limit levels).buildProperty owner required key
    (leaf.ownPointer? = none ∨ outer.length ≤ 1 →
      ((∃ nested, build (.nested outer leaf) = .ok nested) ↔ ∃ alone, build leaf = .ok alone) ∧
      ∀ nested alone, build (.nested outer leaf) = .ok nested → build leaf = .ok alone →
        nested.AcceptsLists outer.length alone) ∧
    ∀ own pointer, leaf = .reference own pointer →
      ((∃ alone, build leaf = .ok alone) ↔
        ∃ target, Pointer.parse? pointer = some target ∧
          (owner = .str target ∨
            ∃ fields, expansion overrides definitions limit levels owner target = .ok fields)) ∧
      (2 ≤ outer.length →
        build (.nested outer leaf) =
          .error (.property (.str key) (Node.nested outer leaf).raw
            (.unknownType (entry own.raw "type") (.map own.raw)))) := by
  refine ⟨fun hpointer => ?_, ?_⟩
  · have hrelated :=
      (rulesWithin overrides definitions limit levels).buildProperty_nested_related owner key hleaf
      houter hpointer required
    refine ⟨hrelated.exists_ok_iff, fun nested alone hnested halone => ?_⟩
    rw [hnested, halone] at hrelated
    exact hrelated.of_ok
  · rintro own pointer rfl
    constructor
    · rw [BuildRules.buildProperty_eq_of_plain _ _ _ hleaf.extension_eq_none
        hleaf.hasItemOverride_eq_false]
      simp only [Outcome.mapError_eq_ok_iff]
      refine Iff.trans ?_ ((rulesWithin overrides definitions limit levels).buildPlain_reference_iff
        owner key own pointer)
      exact Outcome.exists_map_eq_ok_iff
    · intro hdeep
      -- Two arrays are enough for the pointer not to be seen.
      obtain ⟨facts, rest, rfl⟩ := List.exists_cons_of_length_pos (Nat.zero_lt_of_lt hdeep)
      obtain ⟨second, inner, rfl⟩ := List.exists_cons_of_length_pos (Nat.lt_of_succ_lt_succ hdeep)
      rw [BuildRules.buildProperty_nested_eq _ _ _ hleaf houter,
        BuildRules.buildPlain_nested_reference]
      rfl

namespace Sample

/-- A cell, which has a name. -/
def cell : Node := record [("name", leaf "string")] []

def cells : Definitions := [(.str "Cell", cell)]

/-- What the property `cells` of a grid compiles to. -/
def gridCells : Node → Except CompileError Compiled :=
  (rulesWithin settings cells 32 32).buildProperty (.str "Grid") true "cells"

end Sample

/-- Three arrays of anonymous cells compile, and so does one of pointers to a cell; two arrays of
pointers do not. -/
theorem buildProperty_nested_cells :
    (∃ cube cell,
      Sample.gridCells (.nested (List.replicate 3 Node.empty.facts) Sample.cell) = .ok cube ∧
      Sample.gridCells Sample.cell = .ok cell ∧ cube.AcceptsLists 3 cell) ∧
    (∃ row cell,
      Sample.gridCells (.nested [Node.empty.facts] (Sample.link "#/definitions/Cell")) = .ok row ∧
      Sample.gridCells (Sample.link "#/definitions/Cell") = .ok cell ∧ row.AcceptsLists 1 cell) ∧
    Sample.gridCells (.nested (List.replicate 2 Node.empty.facts)
        (Sample.link "#/definitions/Cell")) =
      .error (.property (.str "cells") (.map []) (.unknownType .null (.map []))) := by
  have hplain : ∀ count, ∀ facts ∈ List.replicate count Node.empty.facts,
      facts.extension = none := by
    intro count facts hmem
    rw [List.eq_of_mem_replicate hmem]
    rfl
  have hnested := fun {leaf : Node} (hleaf : leaf.IsBare) count =>
    buildProperty_nested Sample.settings Sample.cells 32 32 (.str "Grid") true "cells" hleaf
      (hplain count)
  have hcell := hnested (show Sample.cell.IsBare from .object rfl _ _) 3
  have hlink := hnested (show (Sample.link "#/definitions/Cell").IsBare from .reference rfl _)
  refine ⟨?_, ?_, ?_⟩
  · obtain ⟨hcompiles, haccepts⟩ := hcell.1 (.inl rfl)
    have halone : Sample.gridCells Sample.cell =
      .ok (.table [(.str "name", .object [("type", .str "String")])]) := rfl
    obtain ⟨cube, hcube⟩ := hcompiles.mpr ⟨_, halone⟩
    exact ⟨cube, _, hcube, halone, haccepts cube _ hcube halone⟩
  · obtain ⟨hcompiles, haccepts⟩ := (hlink 1).1 (.inr le_rfl)
    have hleads := ((hlink 1).2 _ _ rfl).1
    obtain ⟨cell, hcell⟩ := hleads.mpr
      ⟨"Cell", by decide, .inr ⟨[(.str "name", .object [("type", .str "String")])], rfl⟩⟩
    obtain ⟨row, hrow⟩ := hcompiles.mpr ⟨cell, hcell⟩
    exact ⟨row, cell, hrow, hcell, haccepts row cell hrow hcell⟩
  · exact ((hlink 2).2 _ _ rfl).2 le_rfl

namespace Sample

/-- A raw array of what is given, and so many of them in another. -/
def arrays : Nat → Value → Value
  | 0, v => v
  | depth + 1, v => .object [("type", .str "array"), ("items", arrays depth v)]

/-- A document with a cell, and a grid that has cells. -/
def grid (cells : Value) : Value := .object [("definitions", .object [
  ("Cell", .object [("type", .str "object"),
    ("properties", .object [("name", .object [("type", .str "string")])])]),
  ("Grid", .object [("type", .str "object"), ("properties", .object [("cells", cells)])])])]

/-- The pointer to the cell. -/
def toCell : Value := .object [("$ref", .str "#/definitions/Cell")]

end Sample

/-- A grid compiles whose cells are pointers, arrays of pointers, or arrays of arrays of texts; but
not one whose cells are arrays of arrays of pointers. -/
theorem nested_pointers_are_refused :
    (Store.compileSpec .initial (Sample.grid Sample.toCell)).isOk = true ∧
    (Store.compileSpec .initial (Sample.grid (Sample.arrays 1 Sample.toCell))).isOk = true ∧
    (Store.compileSpec .initial
      (Sample.grid (Sample.arrays 2 (.object [("type", .str "string")])))).isOk = true ∧
    (Store.compileSpec .initial (Sample.grid (Sample.arrays 2 Sample.toCell))).isOk = false := by
  decide +kernel

end ApiStore
