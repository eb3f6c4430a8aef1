import ApiStore.Proofs.Build.Source
import ApiStore.Proofs.Build.Stray
import ApiStore.Proofs.Pointer
import ApiStore.Store
/-
`Target.lean` -- where pointers lead, and the references that are made of them.

A document that compiles has no dangling pointers, as far as pointers are followed. Every
pointer that the compiler comes to, in any definition and at any depth, leads to a definition
(`Compiler.leads_of_buildSchemas`); where one does not, the document fails, and if nothing was
wrong before, the pointer is the root cause (`Compiler.root_undefined_iff`). Nothing is said
here about a pointer to the name of the property whose object it stands in: that property is
its owner then, and no look-up is made.

**What becomes of a pointer.** What a pointer leads to (`Led`) is the stub of its target or the
target's own compiled form, and the entry of a property is made of that alone (`MadeOf`): it is
put into a list for an array, marked if it is required, and an override is laid over it. So
the `ref` of the entry can be told for every override that does not name one: it is the one
that the pointer led to, or for a reference by identity the pointer without its roots, which is
the name of the target.

**A reference without a definition** is made where the items of an array have an override. It
stands for the whole property then, so that the pointer of the items is not followed, and its
target is written down as the pointer spells it.
-/
set_option autoImplicit false

namespace ApiStore

/-! ## 1. What a pointer leads to -/

section Leads

variable {overrides : OverrideRules} {definitions : Definitions} {limit : Int} {levels : Nat}

/-- The need for a pointer is met only if it leads somewhere. -/
theorem Need.leads {owner : Scalar} {pointer : String}
    (h : (Need.pointer owner pointer).offence? (rulesWithin overrides definitions limit levels) =
      none) :
    ∃ target, Pointer.parse? pointer = some target ∧
      (owner ≠ .str target → .str target ∈ definitions.keys) := by
  cases hp : Pointer.parse? pointer with
  | none => simp [Need.offence?, hp] at h
  | some target =>
    refine ⟨target, rfl, fun howner => ?_⟩
    by_contra htarget
    rw [Need.offence?_undefined hp howner htarget] at h
    cases h

/-- What an owner is led to by a pointer, with some levels of copies left. Unless the owner is the
target, the target is a definition. Where it is one, its owner is led to its stub, and any other to
its compiled form, with one level less. -/
structure Led (overrides : OverrideRules) (definitions : Definitions) (limit : Int) (levels : Nat)
    (owner : Scalar) (pointer target : String) (led : Entries Value) : Prop where
  parses : Pointer.parse? pointer = some target
  defined : owner ≠ .str target → .str target ∈ definitions.keys
  stub : owner = .str target → .str target ∈ definitions.keys → led = Reference.stub target
  copy : owner ≠ .str target → ∃ rest definition, levels = rest + 1 ∧
    Entries.get? definitions (.str target) = some definition ∧
    (rulesWithin overrides definitions limit rest).build (.str target) definition.forCopy = .ok led
  /-- Only a line end comes between the target and the pointer without its roots. -/
  spelled : '\n' ∉ pointer.toList → Pointer.stripRoots pointer = target

theorem BuildRules.led_of_point {owner : Scalar} {pointer : String} {led : Entries Value}
    (h : (rulesWithin overrides definitions limit levels).point owner pointer = .ok led) :
    ∃ target, Led overrides definitions limit levels owner pointer target led := by
  obtain ⟨target, hp, ⟨rfl, rfl⟩ | ⟨howner, rest, definition, hlevels, hdefinition, hbuild⟩⟩ :=
    point_cases h
  · exact ⟨target, hp, fun hne => absurd rfl hne, fun _ _ => rfl, fun hne => absurd rfl hne,
      Pointer.stripRoots_of_parse? hp⟩
  · exact ⟨target, hp, fun _ => Entries.exists_get?_str_iff.mp ⟨definition, hdefinition⟩,
      fun heq => absurd heq howner, fun _ => ⟨rest, definition, hlevels, hdefinition, hbuild⟩,
      Pointer.stripRoots_of_parse? hp⟩

end Leads

/-! ## 2. Overrides that name no target -/

/-- An override that leaves the `ref` to what it is laid over, and to the pointer next to it. -/
structure Extension.LeavesRef (e : Extension) : Prop where
  ref : e.ref = none
  options : .str "ref" ∉ e.options.keys

/-- An override that was read does, if it names no target. A key called `ref` is none of its
options. -/
theorem Extension.leavesRef_of_ofPayload {payload : Entries Value} (h : payload.TextKeys)
    {e : Extension} (he : Extension.ofPayload payload = .ok e) (href : e.ref = none) :
    e.LeavesRef := by
  refine ⟨href, ?_⟩
  have hoptions : (optionsOf payload).TextKeys :=
    fun entry hentry => h entry (List.mem_filter.mp hentry).1
  unfold Extension.ofPayload at he
  simp only [hoptions.spelled] at he
  split at he
  · obtain rfl := Except.ok.inj he
    intro hkey
    obtain ⟨entry, hentry, heq⟩ := List.mem_map.mp hkey
    have hkept := (List.mem_filter.mp hentry).2
    simp [heq] at hkept
  · cases he

section Payloads

variable {overrides : OverrideRules} {raw : Value} {e : Extension} {pointer : String}
  {payload : Entries Value}

/-- The payload of such an override ends with the pointer without its roots, if it marks a reference
by identity, and otherwise has no `ref` at all. -/
theorem OverrideRules.payload_cases (h : overrides.payload raw e (some pointer) = .ok payload)
    (he : e.LeavesRef) (hp : pointer ≠ "") :
    (e.type = some referenceMark ∧ ∃ marked : Entries Value, .str "ref" ∉ marked.keys ∧
      payload = marked ++ [(.str "ref", .str (Pointer.stripRoots pointer))]) ∨
    (e.type ≠ some referenceMark ∧ .str "ref" ∉ payload.keys) := by
  have hname : pointerName? (some pointer) = some (Pointer.stripRoots pointer) := by
    rw [pointerName?, if_neg (by simpa using hp)]
  have htyped : ∀ type : Value, .str "ref" ∉
      (Entries.insert e.options (.str "type") type).keys := by
    intro type
    rw [Entries.mem_keys_insert_of_ne (by decide)]
    exact he.options
  simp only [OverrideRules.payload, he.ref, hname] at h
  cases htype : e.type with
  | none =>
    simp only [htype, Except.ok.injEq] at h
    exact .inr ⟨(Option.some_ne_none _).symm, h ▸ he.options⟩
  | some name =>
    simp only [htype] at h
    by_cases hmark : name = referenceMark
    · simp only [if_pos hmark, Except.ok.injEq] at h
      refine .inl ⟨congrArg some hmark, _, htyped StorageType.objectId.toValue, ?_⟩
      rw [← h, Entries.insert_of_not_mem_keys (htyped _)]
    · rw [if_neg hmark] at h
      refine .inr ⟨fun heq => hmark (Option.some.inj heq), ?_⟩
      cases hbound : overrides.types.get? name with
      | none => simp [hbound] at h
      | some type =>
        simp only [hbound, Except.ok.injEq] at h
        exact h ▸ htyped _

/-- An override that says no type has none in its payload. -/
theorem OverrideRules.type_not_mem_payload
    (h : overrides.payload raw e (some pointer) = .ok payload) (htype : e.type = none)
    (hoptions : .str "type" ∉ e.options.keys) :
      .str "type" ∉ payload.keys := by
  simp only [OverrideRules.payload, htype, Except.ok.injEq] at h
  subst h
  cases e.ref with
  | none => exact hoptions
  | some ref =>
    rw [Entries.mem_keys_insert_of_ne (by decide)]
    exact hoptions

theorem Entries.get?_overlay_append_singleton {α : Type} (base upper : Entries α) (s : String)
    (v : α) :
    get? (base.overlay (upper ++ [(.str s, v)])) (.str s) = some v := by
  rw [overlay, List.foldl_append, List.foldl_cons, List.foldl_nil, get?_insert_str, if_pos rfl]

/-- Laid over a table, the payload decides on the `ref` for a reference by identity, and otherwise
leaves it as it is. -/
theorem OverrideRules.ref_of_overlay (h : overrides.payload raw e (some pointer) = .ok payload)
    (he : e.LeavesRef) (hp : pointer ≠ "") (base : Entries Value) :
    Entries.get? (base.overlay payload) (.str "ref") =
      if e.type = some referenceMark then some (.str (Pointer.stripRoots pointer))
      else Entries.get? base (.str "ref") := by
  rcases payload_cases h he hp with ⟨hmark, marked, -, rfl⟩ | ⟨hmark, hfree⟩
  · rw [if_pos hmark, Entries.get?_overlay_append_singleton]
  · rw [if_neg hmark, Entries.get?_overlay_of_not_mem_keys base hfree]

/-- Alone it has the `ref` of a reference by identity, or none. -/
theorem OverrideRules.ref_of_payload (h : overrides.payload raw e (some pointer) = .ok payload)
    (he : e.LeavesRef) (hp : pointer ≠ "") :
    Entries.get? payload (.str "ref") =
      if e.type = some referenceMark then some (.str (Pointer.stripRoots pointer)) else none := by
  rcases payload_cases h he hp with ⟨hmark, marked, hfree, rfl⟩ | ⟨hmark, hfree⟩
  · rw [if_pos hmark, Entries.get?_append, Entries.get?_str_eq_none_iff.mpr hfree]
    rfl
  · rw [if_neg hmark, Entries.get?_str_eq_none_iff.mpr hfree]

end Payloads

/-! ## 3. Properties of an object -/

/-- How a property that carries a pointer is made of what the pointer leads to. -/
structure MadeOf (overrides : OverrideRules) (required : Bool) (node : Node) (pointer : String)
    (led : Entries Value) (compiled : Compiled) : Prop where
  /-- Without an override it is just that, in a list for an array. -/
  bare : node.extension = none →
    compiled = BuildRules.markRequired required (.ofTable node.isArray led)
  /-- With an override it is a table, and what the override says is laid over that. -/
  laid : ∀ e, node.extension = some e →
    ∃ payload, overrides.payload node.raw e (some pointer) = .ok payload ∧
      compiled = .table ((BuildRules.markRequired required
        (.ofTable node.isArray led)).base.overlay payload)
  /-- If the override names no target, the table has that of the pointer for a reference by
  identity, and otherwise what the pointer led to. The list of an array has no `ref` of its own. -/
  ref : ∀ e, node.extension = some e → e.LeavesRef → ∃ entries, compiled = .table entries ∧
    Entries.get? entries (.str "ref") =
      if e.type = some referenceMark then some (.str (Pointer.stripRoots pointer))
      else if node.isArray then none else Entries.get? led (.str "ref")
  /-- If the override says no type, the list of an array is still there. -/
  items : node.isArray = true → ∀ e, node.extension = some e → e.type = none →
    .str "type" ∉ e.options.keys →
    ∃ entries, compiled = .table entries ∧
      Entries.get? entries (.str "type") = some (.list [.map led])

section Objects

variable {overrides : OverrideRules} {definitions : Definitions} {limit : Int} {levels : Nat}
  {owner : Scalar} {required : List String} {properties : List (String × Node)}
  {fields : Entries Value}

/-- Marked or not, what a pointer leads to has its own `ref`, and a list of it has none. -/
theorem BuildRules.ref_of_markRequired (required many : Bool) (led : Entries Value) :
    Entries.get? (markRequired required (.ofTable many led)).base (.str "ref") =
      if many then none else Entries.get? led (.str "ref") := by
  cases many with
  | true => rfl
  | false =>
    rw [Compiled.ofTable, if_neg Bool.false_ne_true, markRequired, if_neg Bool.false_ne_true]
    split
    · rw [Compiled.base, Entries.get?_insert_str, if_neg (by decide)]
    · rfl

/-- A property whose override is laid over what its pointer led to is made of that. -/
theorem BuildRules.madeOf_of_withOverride {rules : BuildRules} {required : Bool} {node : Node}
    {pointer : String} {led : Entries Value} {compiled : Compiled}
    (hp : node.pointer? = some pointer) (hne : pointer ≠ "")
    (h : rules.withOverride node (markRequired required (.ofTable node.isArray led)) =
      .ok compiled) :
    MadeOf rules.overrides required node pointer led compiled := by
  have hlaid : ∀ e, node.extension = some e →
      ∃ payload, rules.overrides.payload node.raw e (some pointer) = .ok payload ∧
        compiled = .table ((markRequired required
          (.ofTable node.isArray led)).base.overlay payload) := by
    intro e he
    rw [withOverride, he, Option.isSome_some, if_pos rfl, OverrideRules.merge,
      Node.resolve_of_extension he, hp] at h
    obtain ⟨found, hfound, rfl⟩ := Outcome.map_eq_ok_iff.mp h
    obtain ⟨payload, hpayload, rfl⟩ := Outcome.map_eq_ok_iff.mp hfound
    exact ⟨payload, hpayload, rfl⟩
  refine ⟨fun hnone => ?_, hlaid, fun e he hleaves => ?_, fun hmany e he htype hoptions => ?_⟩
  · rw [withOverride, hnone] at h
    exact (Except.ok.inj h).symm
  · obtain ⟨payload, hpayload, rfl⟩ := hlaid e he
    exact ⟨_, rfl, by rw [OverrideRules.ref_of_overlay hpayload hleaves hne, ref_of_markRequired]⟩
  · obtain ⟨payload, hpayload, rfl⟩ := hlaid e he
    refine ⟨_, rfl, ?_⟩
    rw [Entries.get?_overlay_of_not_mem_keys _
      (OverrideRules.type_not_mem_payload hpayload htype hoptions), hmany]
    rfl

variable
  (h : (rulesWithin overrides definitions limit levels).buildProperties owner required properties =
    .ok fields)
  {key : String} {node : Node} (hmem : (key, node) ∈ properties)
  (hk : reservedNames.contains key = false) {pointer : String}
include h hmem hk

/-- **The pointer of a property is followed**, unless the items have an override, and the entry is
made of what it leads to. -/
theorem BuildRules.entry_of_pointer (hi : node.hasItemOverride = false)
    (hp : node.pointer? = some pointer) :
    ∃ target led compiled, Led overrides definitions limit levels owner pointer target led ∧
      MadeOf overrides (required.contains key) node pointer led compiled ∧
        (.str key, compiled.toValue) ∈ fields := by
  obtain ⟨compiled, hcompiled, hsub⟩ := mem_of_buildProperties h hmem hk
  have hform : compiled.form ≠ .dropped := buildProperty_form hcompiled ▸ Node.form_ne_dropped hp
  rw [buildProperty, Outcome.mapError_eq_ok_iff, hi] at hcompiled
  obtain ⟨plain, hplain, hoverride⟩ := Outcome.bind_eq_ok_iff.mp hcompiled
  rw [buildPlain_eq_point _ key hp] at hplain
  obtain ⟨led, hpoint, rfl⟩ := Outcome.map_eq_ok_iff.mp hplain
  obtain ⟨target, hled⟩ := led_of_point hpoint
  have hne : pointer ≠ "" := by
    rintro rfl
    have hempty : Pointer.parse? "" = none := by decide
    exact absurd hled.parses (by simp [hempty])
  exact ⟨target, led, compiled, hled, madeOf_of_withOverride hp hne hoverride,
    hsub (Compiled.mem_entries hform key)⟩

/-- The override of the items of an array stands for the property. The pointer next to it is written
down, and not followed. -/
theorem BuildRules.entry_of_item_override (hi : node.hasItemOverride = true) {e : Extension}
    (hoverride : node.override? = some (e, some pointer)) (hp : pointer ≠ "") :
    ∃ payload, overrides.payload node.raw e (some pointer) = .ok payload ∧
      (.str key, .list [.map payload]) ∈ fields ∧
      (e.LeavesRef → Entries.get? payload (.str "ref") =
        if e.type = some referenceMark then some (.str (Pointer.stripRoots pointer))
        else none) := by
  obtain ⟨compiled, hcompiled, hsub⟩ := mem_of_buildProperties h hmem hk
  rw [buildProperty, Outcome.mapError_eq_ok_iff, hi, if_pos rfl, OverrideRules.arrayOf,
    OverrideRules.resolve, hoverride] at hcompiled
  obtain ⟨found, hfound, rfl⟩ := Outcome.map_eq_ok_iff.mp hcompiled
  obtain ⟨payload, hpayload, rfl⟩ := Outcome.map_eq_ok_iff.mp hfound
  exact ⟨payload, hpayload, hsub (List.mem_singleton_self _),
    fun hleaves => OverrideRules.ref_of_payload hpayload hleaves hp⟩

end Objects

/-! ## 4. Definitions -/

/-- A definition that points to itself is the stub of its own name. -/
theorem BuildRules.build_of_self_pointer {rules : BuildRules} {name pointer : String} {node : Node}
    (hp : node.pointer? = some pointer) (ht : Pointer.parse? pointer = some name) :
    rules.build (.str name) node =
      .ok (if node.isArray then typed (.list [.map (Reference.stub name)])
        else Reference.stub name) := by
  cases node with
  | reference facts p =>
    rw [build, Reference.describe_eq false hp ht]
    simp [follow, bind, Except.bind, Node.isArray]
  | array facts items =>
    have hitems : items.ownPointer?.isSome = true := by
      rw [show items.ownPointer? = some pointer from hp, Option.isSome_some]
    rw [build, if_pos hitems, resolve, Reference.describe_eq true hp ht]
    simp [follow, bind, Except.bind, pure, Except.pure, Except.map, Compiled.ofTable,
      Compiled.toValue, Node.isArray]
  | primitive _ _ _ => cases hp
  | object _ _ _ => cases hp
  | any _ => cases hp

/-- A definition that carries a pointer is what the pointer leads to, or a single field with a list
of it. -/
theorem BuildRules.build_of_pointer {overrides : OverrideRules} {definitions : Definitions}
    {limit : Int} {levels : Nat} {owner : Scalar} {node : Node} {pointer : String}
    {fields : Entries Value} (hp : node.pointer? = some pointer)
    (h : (rulesWithin overrides definitions limit levels).build owner node = .ok fields) :
    ∃ target led, Led overrides definitions limit levels owner pointer target led ∧
      fields = if node.isArray then typed (.list [.map led]) else led := by
  rw [build_eq_point _ hp] at h
  obtain ⟨led, hpoint, rfl⟩ := Outcome.map_eq_ok_iff.mp h
  obtain ⟨target, hled⟩ := led_of_point hpoint
  exact ⟨target, led, hled, rfl⟩

/-- What an object requires is nothing to a definition that carries a pointer. -/
theorem Node.forCopy_of_pointer {node : Node} {pointer : String}
    (hp : node.pointer? = some pointer) :
    node.forCopy = node := by
  cases node with
  | object _ _ _ => cases hp
  | _ => rfl

/-- A copy of a definition that points to itself is that stub, too, wherever it is made. -/
theorem expansion_of_self_pointer (overrides : OverrideRules) {definitions : Definitions}
    (limit : Int) (levels : Nat) (owner : Scalar) {name pointer : String} {node : Node}
    (hnode : Entries.get? definitions (.str name) = some node) (hp : node.pointer? = some pointer)
    (ht : Pointer.parse? pointer = some name) :
    expansion overrides definitions limit (levels + 1) owner name =
      .ok (if node.isArray then BuildRules.typed (.list [.map (Reference.stub name)])
        else Reference.stub name) := by
  rw [expansion_succ _ _ _ _ _ hnode, Node.forCopy_of_pointer hp]
  exact BuildRules.build_of_self_pointer hp ht

/-- Where all definitions compile, every pointer that they come to names a definition, or another
owner that sees it. -/
theorem Compiler.leads_of_buildSchemas {c : Compiler} {definitions : Definitions}
    {schemas : Entries Schema} (h : c.buildSchemas definitions none = .ok schemas) {name : Scalar}
    (hname : name ∈ definitions.keys) {node : Node}
    (hnode : Entries.get? definitions name = some node) {owner : Scalar} {pointer : String}
    (hneed : .pointer owner pointer ∈ node.needs name) :
    ∃ target, Pointer.parse? pointer = some target ∧
      (.str target ∈ definitions.keys ∨ owner = .str target ∧ owner ≠ name) := by
  obtain ⟨fields, hfields⟩ := buildFields_of_buildSchemas h hname hnode
  have hmet := BuildRules.build_offence? (c.rules definitions) name node
  rw [← buildFields_eq, hfields, offence?_ok] at hmet
  obtain ⟨target, hp, hleads⟩ := Need.leads (List.findSome?_eq_none_iff.mp hmet.symm _ hneed)
  refine ⟨target, hp, or_iff_not_imp_left.mpr fun htarget => ?_⟩
  obtain rfl : owner = .str target := by
    by_contra howner
    exact htarget (hleads howner)
  exact ⟨rfl, fun heq => htarget (heq ▸ hname)⟩

/-- **Pointers lead to definitions.** Where all definitions compile, every pointer that is followed
in any of them, at any depth, can be read and names a definition, or an owner other than the
definition it stands in. A definition that points to itself is the stub of its own name, and so is
every copy of it; any other that carries a pointer is what the pointer leads to. In every object
that is compiled against the definitions, on whatever level of copies, a property that carries a
pointer is made of what the pointer leads to, with the `ref` of the target for an override that
marks a reference by identity and names none itself. Where the override is one of array items, the
target is written down as the pointer spells it. An undefined target is the root cause of a failure
exactly if the first definition to fail strays: a pointer to that target is the first thing that is
wrong with it, or with a copy that it leads to. -/
theorem pointers_lead_to_definitions (c : Compiler) (definitions : Definitions) :
    (∀ schemas, c.buildSchemas definitions none = .ok schemas →
      ∀ name ∈ definitions.keys, ∀ node, Entries.get? definitions name = some node →
        ∀ owner pointer, .pointer owner pointer ∈ node.needs name →
          ∃ target, Pointer.parse? pointer = some target ∧
            (.str target ∈ definitions.keys ∨ owner = .str target ∧ owner ≠ name)) ∧
    (∀ (name pointer : String) (node : Node),
      node.pointer? = some pointer → Pointer.parse? pointer = some name →
      c.buildFields definitions (.str name) node =
          .ok (if node.isArray then BuildRules.typed (.list [.map (Reference.stub name)])
            else Reference.stub name) ∧
        (Entries.get? definitions (.str name) = some node → ∀ limit levels owner,
          expansion c.overrides definitions limit (levels + 1) owner name =
            .ok (if node.isArray then BuildRules.typed (.list [.map (Reference.stub name)])
              else Reference.stub name))) ∧
    (∀ limit levels owner node pointer fields, node.pointer? = some pointer →
      (rulesWithin c.overrides definitions limit levels).build owner node = .ok fields →
        ∃ target led, Led c.overrides definitions limit levels owner pointer target led ∧
          fields = if node.isArray then BuildRules.typed (.list [.map led]) else led) ∧
    (∀ limit levels owner required properties fields,
      (rulesWithin c.overrides definitions limit levels).buildProperties owner required properties =
        .ok fields →
      ∀ key node pointer, (key, node) ∈ properties → reservedNames.contains key = false →
        (node.hasItemOverride = false → node.pointer? = some pointer →
          ∃ target led compiled, Led c.overrides definitions limit levels owner pointer target led ∧
            MadeOf c.overrides (required.contains key) node pointer led compiled ∧
            (.str key, compiled.toValue) ∈ fields) ∧
        (node.hasItemOverride = true → ∀ e, node.override? = some (e, some pointer) → pointer ≠ "" →
          ∃ payload, c.overrides.payload node.raw e (some pointer) = .ok payload ∧
            (.str key, .list [.map payload]) ∈ fields ∧
            (e.LeavesRef → Entries.get? payload (.str "ref") =
              if e.type = some referenceMark then some (.str (Pointer.stripRoots pointer))
              else none))) ∧
    ∀ target,
      (∃ e, c.buildSchemas definitions none = .error (.compile e) ∧
        e.root = .compile (.undefinedTarget target)) ↔
        ∃ before name after, definitions.keys = before ++ name :: after ∧
          (∀ n ∈ before, ∃ schema, c.buildSchema definitions n = .ok schema) ∧
          c.Strays definitions target name := by
  refine ⟨?_, ?_, ?_, ?_, fun target => Compiler.root_undefined_iff⟩
  · intro schemas h name hname node hnode owner pointer hneed
    exact Compiler.leads_of_buildSchemas h hname hnode hneed
  · intro name pointer node hp ht
    rw [Compiler.buildFields_eq]
    exact ⟨BuildRules.build_of_self_pointer hp ht,
      fun hnode limit levels owner =>
        expansion_of_self_pointer c.overrides limit levels owner hnode hp ht⟩
  · intro limit levels owner node pointer fields hp h
    exact BuildRules.build_of_pointer hp h
  · intro limit levels owner required properties fields h key node pointer hmem hk
    exact ⟨BuildRules.entry_of_pointer h hmem hk,
      fun hi e hoverride hp => BuildRules.entry_of_item_override h hmem hk hi hoverride hp⟩

namespace Sample

/-- A reference with an override. -/
def overridden (e : Extension) (pointer : String) : Node :=
  .reference { Node.empty.facts with extension := some e } pointer

/-- A pet has an owner by identity and runs with a pack. A person has a friend, which is indexed,
and a pack is just a pack. -/
def owned : Definitions :=
  [(.str "Pet",
      record [("owner", overridden ⟨some referenceMark, none, []⟩ "#/definitions/Person"),
        ("pack", link "#/definitions/Pack")] []),
    (.str "Person",
      record [("friend", overridden ⟨none, none, [(.str "index", .bool true)]⟩
        "#/definitions/Person")] []),
    (.str "Pack", link "#/definitions/Pack")]

/-- A visit of a pet that has an owner whom nobody knows. -/
def stray : Definitions :=
  [(.str "Visit", record [("pet", link "#/definitions/Pet")] []),
    (.str "Pet", record [("owner", link "#/definitions/Person")] [])]

end Sample

/-- All that is owned compiles, so the pointer to an owner names a definition. The friend of a
person is a stub for all that it is indexed, and a copy of the pack is one. A visit fails for the
owner of the pet, through a copy. -/
theorem pointers_lead_to_definitions_owned :
    (∃ schemas target, Sample.compiler.buildSchemas Sample.owned none = .ok schemas ∧
      Pointer.parse? "#/definitions/Person" = some target ∧ .str target ∈ Sample.owned.keys) ∧
    (∃ (fields : Entries Value) (compiled : Compiled) (entries : Entries Value),
      (rulesWithin Sample.compiler.overrides Sample.owned 32 32).buildProperties (.str "Person") []
          [("friend", Sample.overridden ⟨none, none, [(.str "index", .bool true)]⟩
            "#/definitions/Person")] = .ok fields ∧
      (.str "friend", compiled.toValue) ∈ fields ∧ compiled = .table entries ∧
      Entries.get? entries (.str "ref") = some (.str "Person")) ∧
    (∀ levels, expansion Sample.compiler.overrides Sample.owned 32 (levels + 1)
      (.str "Pet") "Pack" = .ok (Reference.stub "Pack")) ∧
    ∃ e, Sample.compiler.buildSchemas Sample.stray none = .error (.compile e) ∧
      e.root = .compile (.undefinedTarget "Person") := by
  obtain ⟨hleads, hself, -, hproperties, -⟩ :=
    pointers_lead_to_definitions Sample.compiler Sample.owned
  obtain ⟨-, -, -, -, hroot⟩ := pointers_lead_to_definitions Sample.compiler Sample.stray
  have hparse : Pointer.parse? "#/definitions/Person" = some "Person" := by decide
  refine ⟨?_, ?_, ?_, ?_⟩
  · obtain ⟨schemas, hschemas⟩ := Outcome.isOk_iff.mp
      (show (Sample.compiler.buildSchemas Sample.owned none).isOk = true by decide +kernel)
    obtain ⟨target, htarget, hdefined | ⟨-, hother⟩⟩ :=
      hleads schemas hschemas (.str "Pet") (by decide) _ rfl
      (.str "Pet") "#/definitions/Person" List.mem_cons_self
    · exact ⟨schemas, target, hschemas, htarget, hdefined⟩
    · exact absurd rfl hother
  · obtain ⟨fields, hfields⟩ := Outcome.isOk_iff.mp
      (show ((rulesWithin Sample.compiler.overrides Sample.owned 32 32).buildProperties
          (.str "Person") []
          [("friend", Sample.overridden ⟨none, none, [(.str "index", .bool true)]⟩
            "#/definitions/Person")]).isOk = true by decide +kernel)
    obtain ⟨target, led, compiled, hled, hmade, hmem⟩ :=
      (hproperties _ _ _ _ _ _ hfields "friend" _ "#/definitions/Person" List.mem_cons_self
        (by decide)).1 rfl rfl
    obtain rfl : "Person" = target := Option.some.inj (hparse.symm.trans hled.parses)
    have hread : Extension.ofPayload [(.str "index", .bool true)] =
      .ok ⟨none, none, [(.str "index", .bool true)]⟩ := rfl
    obtain ⟨entries, htable, href⟩ :=
      hmade.ref _ rfl (Extension.leavesRef_of_ofPayload (.singleton "index" _) hread rfl)
    rw [hled.stub rfl (by decide)] at href
    exact ⟨fields, compiled, entries, hfields, hmem, htable, href⟩
  · intro levels
    exact (hself "Pack" "#/definitions/Pack" _ rfl (by decide)).2 rfl 32 levels (.str "Pet")
  · have hvisit : (Sample.record [("pet", Sample.link "#/definitions/Pet")] []).needs
      (.str "Visit") = [] ++ .pointer (.str "Visit") "#/definitions/Pet" :: [] := rfl
    have hpet : (Sample.record [("owner", Sample.link "#/definitions/Person")] []).needs
      (.str "Pet") = [] ++ .pointer (.str "Pet") "#/definitions/Person" :: [] := rfl
    refine (hroot "Person").mpr ⟨[], .str "Visit", [.str "Pet"], rfl, nofun, _, rfl, ?_⟩
    exact .copy hvisit nofun (by decide) (by decide) rfl
      (.here hpet nofun hparse (by decide) (by decide))

namespace Sample

/-- A tree with a pointer to the name of the property that holds it. -/
def branching : Value :=
  .object [("definitions", .object [("Tree", .object [("properties", .object [
  ("branch", .object [("type", .str "object"),
    ("properties", .object [("next", .object [("$ref", .str "#/definitions/branch")])])])])])])]

/-- A kennel of dogs by identity. -/
def kennels : Value :=
  .object [("definitions", .object [("Kennel", .object [("properties", .object [
  ("dogs", .object [("type", .str "array"), ("items", .object [("$ref", .str "#/definitions/Dog"),
    (defaultExtensionKey, .object [("type", .str referenceMark)])])])])])])]

end Sample

/-- Two documents compile to references without a definition: the stub of an owner that is a
property, and the target of a pointer for which the override of array items stands. -/
theorem references_without_definition :
    (Document.definitionNames Sample.branching = .ok [.str "Tree"] ∧
      Store.compileSpec .initial Sample.branching =
        .ok [(.str "Tree",
          ⟨"Tree", [(.str "branch", .object [("next", .map (Reference.stub "branch"))])], []⟩)]) ∧
    Document.definitionNames Sample.kennels = .ok [.str "Kennel"] ∧
      Store.compileSpec .initial Sample.kennels =
        .ok [(.str "Kennel",
          ⟨"Kennel", [(.str "dogs", .list [.map (Reference.stub "Dog")])], []⟩)] := by
  decide +kernel

end ApiStore
