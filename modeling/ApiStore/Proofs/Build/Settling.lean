import ApiStore.Proofs.Build.Likeness
/-
`Settling.lean` -- overrides whose types are looked up beforehand.

What an override is worth is its payload, and the payload depends on the override, on the
pointer next to it and on the table of type names. So all overrides of a document can be
settled before it is compiled: each is replaced by one that has its payload for options and
names neither a type nor a target. An override whose type is not known has no payload and
stays, so that it is reported when the compiler comes to it.

**Settling changes nothing** in what is compiled (`buildNode_settled`). Two documents whose
overrides settle to the same are therefore alike as far as the compiler is concerned, however
different the names in them are.
-/
set_option autoImplicit false

namespace ApiStore

/-! ## 1. Overrides -/

namespace OverrideRules

variable (rules : OverrideRules)

/-- An override with its payload for options; one that has no payload stays. -/
def settle (pointer : Option String) (e : Extension) : Extension :=
  match rules.payload .null e pointer with
  | .ok payload => { type := none, ref := none, options := payload }
  | .error _ => e

variable {rules}

/-- The raw data of a node is in the report only. -/
theorem payload_of_ok {raw : Value} {e : Extension} {pointer : Option String}
    {payload : Entries Value} (h : rules.payload raw e pointer = .ok payload) (other : Value) :
      rules.payload other e pointer = .ok payload := by
  unfold OverrideRules.payload at h ⊢
  cases htype : e.type with
  | none =>
    rw [htype] at h
    exact h
  | some name =>
    rw [htype] at h
    dsimp only at h ⊢
    by_cases hmark : name = referenceMark
    · rw [if_pos hmark] at h ⊢
      exact h
    · rw [if_neg hmark] at h ⊢
      cases hget : rules.types.get? name with
      | none =>
        rw [hget] at h
        cases h
      | some type =>
        rw [hget] at h
        exact h

/-- A settled override has the payload that it had. -/
theorem payload_settle (raw : Value) (e : Extension) (pointer : Option String) :
    rules.payload raw (rules.settle pointer e) pointer = rules.payload raw e pointer := by
  unfold settle
  split
  · rename_i payload hpayload
    exact (payload_of_ok hpayload raw).symm
  · rfl

/-- Pointers that are written down as one name settle an override alike. -/
theorem settle_alike {p q : Option String} (h : Option.Rel Pointer.Alike p q) :
    rules.settle p = rules.settle q := by
  have hname : pointerName? p = pointerName? q := by
    cases h with
    | none => rfl
    | some hpq => exact hpq.name?
  funext e
  unfold settle OverrideRules.payload
  rw [hname]

end OverrideRules

/-! ## 2. Nodes -/

/-- Facts with their override settled. -/
def Facts.settled (rules : OverrideRules) (pointer : Option String) (f : Facts) : Facts :=
  { f with extension := f.extension.map (rules.settle pointer) }

namespace Node

mutual

/-- A node with all its overrides settled. -/
def settled (rules : OverrideRules) : Node → Node
  | .primitive facts type format => .primitive (facts.settled rules none) type format
  | .array facts items => .array (facts.settled rules items.ownPointer?) (settled rules items)
  | .object facts properties required =>
    .object (facts.settled rules none) (settledProperties rules properties) required
  | .reference facts pointer => .reference (facts.settled rules (some pointer)) pointer
  | .any facts => .any (facts.settled rules none)

/-- Properties with all their overrides settled. -/
def settledProperties (rules : OverrideRules) : List (String × Node) → List (String × Node)
  | [] => []
  | (key, node) :: rest => (key, settled rules node) :: settledProperties rules rest

end

variable {rules : OverrideRules} (n : Node)

/-- A node whose overrides are settled has the raw data that it had. -/
@[simp] theorem raw_settled : (n.settled rules).raw = n.raw := by
  cases n <;> rfl

/-- It has the pointer of its own that it had, if it had one. -/
@[simp] theorem ownPointer?_settled : (n.settled rules).ownPointer? = n.ownPointer? := by
  cases n <;> rfl

/-- So it points to where it pointed, by itself or with its items. -/
@[simp] theorem pointer?_settled : (n.settled rules).pointer? = n.pointer? := by
  cases n with
  | array facts items => exact ownPointer?_settled items
  | _ => rfl

/-- Its own override is the settled one. -/
@[simp] theorem extension_settled :
    (n.settled rules).extension = n.extension.map (rules.settle n.pointer?) := by
  cases n <;> rfl

/-- Its items have an override if they had one. -/
@[simp] theorem hasItemOverride_settled :
    (n.settled rules).hasItemOverride = n.hasItemOverride := by
  cases n with
  | array facts items =>
    rw [settled, hasItemOverride, hasItemOverride, extension_settled, Option.isSome_map]
  | _ => rfl

/-- It makes no difference whether a node is settled before it is copied or after that. -/
theorem forCopy_settled : (n.settled rules).forCopy = n.forCopy.settled rules := by
  cases n <;> rfl

/-- A settled node is described as the same reference. -/
theorem describe_settled (owner : Scalar) (inArray : Bool) :
    Reference.describe (n.settled rules) owner inArray = Reference.describe n owner inArray := by
  unfold Reference.describe
  rw [pointer?_settled, raw_settled]
  cases n <;> rfl

end Node

/-- The override that counts for a node has the payload that it had. -/
theorem OverrideRules.resolve_settled (rules : OverrideRules) (n : Node) :
    rules.resolve (n.settled rules) = rules.resolve n := by
  have hcounts : (n.settled rules).override? = n.override?.map fun (e, p) =>
      (rules.settle p e, p) := by
    unfold Node.override?
    rw [Node.extension_settled, Node.pointer?_settled]
    cases n.extension with
    | some e => rfl
    | none =>
      cases n with
      | array facts items =>
        rw [Node.settled]
        dsimp only [Option.map_none]
        rw [Node.extension_settled, Node.pointer?_settled]
        cases items.extension <;> rfl
      | _ => rfl
  unfold OverrideRules.resolve
  rw [hcounts, Node.raw_settled]
  cases n.override? with
  | none => rfl
  | some found =>
    obtain ⟨e, pointer⟩ := found
    dsimp only [Option.map_some]
    rw [OverrideRules.payload_settle]

/-! ## 3. The walk -/

namespace BuildRules

variable {overrides : OverrideRules} {f : Scalar → String → Except CompileError (Entries Value)}

/-- A settled override has the payload that it had. -/
theorem resolve_settled (owner : Scalar) (n : Node) (inArray : Bool) :
    resolve ⟨overrides, f⟩ owner (n.settled overrides) inArray = resolve
      ⟨overrides, f⟩ owner n inArray := by
  rw [resolve, resolve, Node.describe_settled]

/-- Whatever a property is apart from its overrides, it is that with settled ones as well. -/
theorem buildProperty_settled (owner : Scalar) (required : Bool) (key : String) (n : Node)
    (hplain : buildPlain ⟨overrides, f⟩ owner key (n.settled overrides) = buildPlain
      ⟨overrides, f⟩ owner key n) :
    buildProperty ⟨overrides, f⟩ owner required key (n.settled overrides) =
      buildProperty ⟨overrides, f⟩ owner required key n := by
  unfold buildProperty withOverride OverrideRules.arrayOf OverrideRules.merge
  simp only [hplain, Node.hasItemOverride_settled, Node.raw_settled, Node.extension_settled,
    Option.isSome_map, OverrideRules.resolve_settled]

mutual

/-- A node compiles to what it compiles to with its overrides settled. -/
theorem build_settled (owner : Scalar) : (n : Node) →
    build ⟨overrides, f⟩ owner (n.settled overrides) = build ⟨overrides, f⟩ owner n
  | .object _ properties required => by
    rw [Node.settled, build, build]
    exact buildProperties_settled owner required properties
  | .array facts items => by
    have hresolve : resolve ⟨overrides, f⟩ owner
        (Node.settled overrides (.array facts items)) true = _ :=
      resolve_settled owner (.array facts items) true
    rw [Node.settled] at hresolve ⊢
    rw [build, build, Node.ownPointer?_settled, hresolve, itemType_settled owner items]
    rfl
  | .primitive facts type format => by
    rw [Node.settled, build, build]
    rfl
  | .reference facts pointer => rfl
  | .any _ => rfl

/-- The items of an array have the type that they had. -/
theorem itemType_settled (owner : Scalar) : (n : Node) →
    itemType ⟨overrides, f⟩ owner (n.settled overrides) = itemType ⟨overrides, f⟩ owner n
  | .array _ items => by rw [Node.settled, itemType, itemType, itemType_settled owner items]
  | .object _ properties required => by
    rw [Node.settled, itemType, itemType, buildProperties_settled owner required properties]
  | .primitive facts type format => rfl
  | .reference facts pointer => rfl
  | .any facts => rfl

/-- Apart from its overrides a property is what it was. -/
theorem buildPlain_settled (owner : Scalar) (key : String) : (n : Node) →
    buildPlain ⟨overrides, f⟩ owner key (n.settled overrides) = buildPlain
      ⟨overrides, f⟩ owner key n
  | .object _ properties required => by
    rw [Node.settled, buildPlain, buildPlain,
      buildProperties_settled (.str key) required properties]
  | .array facts items => by
    have hresolve : resolve ⟨overrides, f⟩ owner
        (Node.settled overrides (.array facts items)) false = _ :=
      resolve_settled owner (.array facts items) false
    rw [Node.settled] at hresolve ⊢
    rw [buildPlain, buildPlain, Node.ownPointer?_settled, hresolve,
      itemType_settled (.str key) items]
    rfl
  | .primitive facts type format => rfl
  | .reference facts pointer => rfl
  | .any _ => rfl

/-- So are the properties of an object, one after another. -/
theorem buildProperties_settled (owner : Scalar) (required : List String) :
    (properties : List (String × Node)) →
    buildProperties ⟨overrides, f⟩ owner required (Node.settledProperties overrides properties) =
      buildProperties ⟨overrides, f⟩ owner required properties
  | [] => rfl
  | (key, node) :: rest => by
    have hrest := buildProperties_settled owner required rest
    rw [Node.settledProperties]
    cases hk : reservedNames.contains key with
    | true =>
      rw [buildProperties_cons_reserved _ owner required _ _ hk,
        buildProperties_cons_reserved _ owner required _ _ hk,
        hrest]
    | false =>
      rw [buildProperties_cons _ owner required _ _ hk,
        buildProperties_cons _ owner required _ _ hk, hrest,
        buildProperty_settled owner _ key node (buildPlain_settled owner key node)]

end

end BuildRules

/-! ## 4. Definition maps -/

/-- Definitions with all their overrides settled. -/
def Definitions.settled (rules : OverrideRules) (definitions : Definitions) : Definitions :=
  definitions.mapValues (Node.settled rules)

/-- The definition under a name is the settled one. -/
theorem get?_settled (rules : OverrideRules) (definitions : Definitions) (name : Scalar) :
    Entries.get? (definitions.settled rules) name = (Entries.get? definitions name).map
      (Node.settled rules) := by
  induction definitions with
  | nil => rfl
  | cons definition rest ih =>
    obtain ⟨k, n⟩ := definition
    rw [Definitions.settled, Entries.mapValues, List.map_cons, ← Entries.mapValues,
      ← Definitions.settled, Entries.get?, Entries.get?, ih]
    split <;> rfl

/-- Copies of definitions are what they are with all overrides settled. The induction is on the
levels left. -/
theorem expansion_settled (overrides : OverrideRules) (definitions : Definitions) (limit : Int)
    (levels : Nat) :
    expansion overrides (definitions.settled overrides) limit levels =
      expansion overrides definitions limit levels := by
  induction levels with
  | zero =>
    funext owner target
    rw [expansion, expansion, get?_settled]
    cases Entries.get? definitions (.str target) <;> rfl
  | succ levels ih =>
    funext owner target
    rw [expansion, expansion, get?_settled]
    cases Entries.get? definitions (.str target) with
    | none => rfl
    | some definition =>
      dsimp only [Option.map_some]
      rw [ih, Node.forCopy_settled, BuildRules.build_settled]

/-- **Settling changes nothing.** -/
theorem buildNode_settled (overrides : OverrideRules) (definitions : Definitions)
    (start : BuildStart) (node : Node) :
    buildNode overrides (definitions.settled overrides) start (node.settled overrides) =
      buildNode overrides definitions start node := by
  unfold buildNode
  dsimp only
  rw [expansion_settled, BuildRules.build_settled]

end ApiStore
