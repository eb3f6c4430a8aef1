import ApiStore.Proofs.Rewriting
/-
`WellFormed.lean` -- the raw nodes that can be read, and what is read from them.

The reader tries the shapes of a node in a fixed order, and looks at nothing that the shape
it comes to does not need. So a raw node is well formed in one of five ways, with conditions
on a few parts of it only: whatever stands beside a pointer is fine, properties that say
nothing are as good as none, and of reserved properties nothing is asked. `Value.WellFormed`
says that of a value, without a reader. `Node.Mirrors` says in the same way what node a
value of each shape is: its parts are the nodes of the value's parts, in their order.

**Both are what the reader does.** It reads a value of JSON exactly if the value is well
formed, and what it reads is the node that mirrors it. Both inductions are on the value. The
properties of a node stand two levels below it, so they carry the entries of a table along.
-/
set_option autoImplicit false

namespace ApiStore

/-! ## 1. Well-formed values -/

/-- What stands where a text may be missing: null or a text. -/
def Value.IsOptionalText (v : Value) : Prop := v = .null ∨ ∃ s, v = .str s

/-- What may stand under the key of overrides: nothing, null, or a table whose type and target are
texts, null or absent. -/
def Value.IsOverride (v : Value) : Prop :=
  v = .null ∨ ∃ payload, v = .map payload ∧ (entry payload "type").IsOptionalText ∧
    (entry payload "ref").IsOptionalText

/-- The entries of a table; a value that is no table has none. -/
def Value.tabled : Value → Entries Value
  | .map entries => entries
  | _ => []

/-- A raw node is well formed; `key` names the overrides, and `root` tells whether the node is a
definition. -/
inductive Value.WellFormed (key : String) : (root : Bool) → Value → Prop
  /-- A pointer is a text. Nothing else is asked but that the override is one. -/
  | reference {root : Bool} {raw : Entries Value} {pointer : String}
    (hoverride : (entry raw key).IsOverride)
    (href : Entries.get? raw (.str "$ref") = some (.str pointer)) : WellFormed key root (.map raw)
  /-- The items of an array are well formed, if it has any. -/
  | array {root : Bool} {raw : Entries Value} (hoverride : (entry raw key).IsOverride)
    (href : Entries.get? raw (.str "$ref") = none) (htype : entry raw "type" = .str "array")
    (hitems : ∀ items, Entries.get? raw (.str "items") = some items → WellFormed key false items) :
    WellFormed key root (.map raw)
  /-- The properties of an object are a table, if they say anything, and are well formed unless they
  are reserved; if its required names are a list, they are texts. -/
  | object {root : Bool} {raw : Entries Value} (hoverride : (entry raw key).IsOverride)
    (href : Entries.get? raw (.str "$ref") = none) (hobject : isObjectNode root raw = true)
    (htable : (entry raw "properties").isTruthy = true → ∃ properties,
      entry raw "properties" = .map properties)
    (hproperties : ∀ property ∈ (entry raw "properties").tabled, isReserved property.1 = false →
      WellFormed key false property.2)
    (hrequired : ∀ names, entry raw "required" = .list names → ∀ name ∈ names, ∃ s, name = .str s) :
    WellFormed key root (.map raw)
  /-- A node of any other type that is a text has a format that is a text, if it has one. -/
  | primitive {root : Bool} {raw : Entries Value} {type : String}
    (hoverride : (entry raw key).IsOverride) (href : Entries.get? raw (.str "$ref") = none)
    (hobject : isObjectNode root raw = false) (htype : entry raw "type" = .str type)
    (harray : type ≠ "array") (hformat : (entry raw "format").IsOptionalText) :
    WellFormed key root (.map raw)
  /-- Of a node without a type nothing is asked. -/
  | any {root : Bool} {raw : Entries Value} (hoverride : (entry raw key).IsOverride)
    (href : Entries.get? raw (.str "$ref") = none) (hobject : isObjectNode root raw = false)
    (htype : entry raw "type" = .null) : WellFormed key root (.map raw)

/-! ## 2. What a value is read as -/

/-- The override that stands under the key of overrides: its type and its target, and as options all
else. -/
inductive Extension.Of : Value → Option Extension → Prop
  | none : Of .null none
  | some {payload : Entries Value} {type ref : Option String}
    (htype : entry payload "type" = .ofText? type) (href : entry payload "ref" = .ofText? ref) :
      Of (.map payload) (some ⟨type, ref, optionsOf payload⟩)

/-- What a raw node says whatever its shape is. -/
structure Facts.Of (key : String) (entries : Entries Value) (facts : Facts) : Prop where
  raw : facts.raw = entries
  extension : Extension.Of (entry entries key) facts.extension
  default : facts.default = entry entries "default"

/-- The names that an object requires: those of a list, and none if there is no list. -/
inductive RequiredNames : Value → List String → Prop
  | listed (names : List String) : RequiredNames (.list (names.map .str)) names
  | unlisted {v : Value} (h : ∀ items, v ≠ .list items) : RequiredNames v []

namespace Node

mutual

/-- A node mirrors a raw node: shape by shape, with the nodes of its items and properties for its
parts. -/
inductive Mirrors (key : String) : (root : Bool) → Value → Node → Prop
  | reference {root : Bool} {raw : Entries Value} {facts : Facts} {pointer : String}
    (hfacts : facts.Of key raw) (href : Entries.get? raw (.str "$ref") = some (.str pointer)) :
      Mirrors key root (.map raw) (.reference facts pointer)
  | array {root : Bool} {raw : Entries Value} {facts : Facts} {items : Value} {node : Node}
    (hfacts : facts.Of key raw) (href : Entries.get? raw (.str "$ref") = none)
    (htype : entry raw "type" = .str "array")
    (hitems : Entries.get? raw (.str "items") = some items) (h : Mirrors key false items node) :
    Mirrors key root (.map raw) (.array facts node)
  /-- Items that are absent are a node that says nothing. -/
  | bare {root : Bool} {raw : Entries Value} {facts : Facts} (hfacts : facts.Of key raw)
    (href : Entries.get? raw (.str "$ref") = none) (htype : entry raw "type" = .str "array")
    (hitems : Entries.get? raw (.str "items") = none) :
      Mirrors key root (.map raw) (.array facts empty)
  | object {root : Bool} {raw : Entries Value} {facts : Facts} {properties : List (String × Node)}
    {required : List String} (hfacts : facts.Of key raw)
    (href : Entries.get? raw (.str "$ref") = none) (hobject : isObjectNode root raw = true)
    (htable : (entry raw "properties").isTruthy = true → ∃ properties,
      entry raw "properties" = .map properties)
    (hproperties : PropertiesMirror key (entry raw "properties").tabled properties)
    (hrequired : RequiredNames (entry raw "required") required) :
    Mirrors key root (.map raw) (.object facts properties required)
  | primitive {root : Bool} {raw : Entries Value} {facts : Facts} {type : String}
    {format : Option String} (hfacts : facts.Of key raw)
    (href : Entries.get? raw (.str "$ref") = none) (hobject : isObjectNode root raw = false)
    (htype : entry raw "type" = .str type) (harray : type ≠ "array")
    (hformat : entry raw "format" = .ofText? format) :
    Mirrors key root (.map raw) (.primitive facts type format)
  | any {root : Bool} {raw : Entries Value} {facts : Facts} (hfacts : facts.Of key raw)
    (href : Entries.get? raw (.str "$ref") = none) (hobject : isObjectNode root raw = false)
    (htype : entry raw "type" = .null) : Mirrors key root (.map raw) (.any facts)

/-- Properties mirror raw properties: under the same names in the same order, without those that are
reserved. -/
inductive PropertiesMirror (key : String) : Entries Value → List (String × Node) → Prop
  | nil : PropertiesMirror key [] []
  | reserved {k : Scalar} {v : Value} {raw : Entries Value} {properties : List (String × Node)}
    (hk : isReserved k = true) (rest : PropertiesMirror key raw properties) :
    PropertiesMirror key ((k, v) :: raw) properties
  | cons {name : String} {v : Value} {node : Node} {raw : Entries Value}
    {properties : List (String × Node)} (hk : isReserved (.str name) = false)
    (h : Mirrors key false v node) (rest : PropertiesMirror key raw properties) :
    PropertiesMirror key ((.str name, v) :: raw) ((name, node) :: properties)

end

end Node

/-! ## 3. Reading parts -/

section Parts

theorem Value.isOptionalText_iff {v : Value} : v.IsOptionalText ↔ ∃ t, v = .ofText? t := by
  constructor
  · rintro (rfl | ⟨s, rfl⟩)
    · exact ⟨none, rfl⟩
    · exact ⟨some s, rfl⟩
  · rintro ⟨_ | s, rfl⟩
    · exact .inl rfl
    · exact .inr ⟨s, rfl⟩

/-- A value of JSON is read as a text that may be missing if it is null or a text: there are no
bytes that spell one. -/
theorem optionalText_eq_ok_iff {payload : Entries Value} (h : (Value.map payload).isJson = true)
    {key : String} {t : Option String} :
    optionalText payload key = .ok t ↔ entry payload key = .ofText? t := by
  unfold optionalText entry
  cases hget : Entries.get? payload (.str key) with
  | none => cases t <;> simp [Value.ofText?]
  | some v =>
    have hv : v.isJson = true := (Value.isJson_map_iff.mp h).2.2 _ (Entries.mem_of_get?_str hget)
    cases v with
    | scalar s =>
      cases s with
      | null => cases t <;> simp [Value.ofText?]
      | str s => cases t <;> simp [Value.ofText?, Misfit.textOf]
      | bytes b => cases hv
      | _ => cases t <;> simp [Value.ofText?, Misfit.textOf]
    | _ => cases t <;> simp [Value.ofText?, Misfit.textOf]

/-- The override of a table of JSON is its type and target, if these are texts, null or absent. -/
theorem Extension.ofPayload_eq_ok_iff {payload : Entries Value}
    (h : (Value.map payload).isJson = true) {e : Extension} :
    Extension.ofPayload payload = .ok e ↔
      entry payload "type" = .ofText? e.type ∧ entry payload "ref" = .ofText? e.ref ∧
        e.options = optionsOf payload := by
  have htexts : (optionsOf payload).TextKeys := fun entry hentry =>
    (Value.isJson_map_iff.mp h).1 entry (List.mem_filter.mp hentry).1
  rw [← optionalText_eq_ok_iff h, ← optionalText_eq_ok_iff h]
  unfold Extension.ofPayload
  simp only [Misfit.ofKeys_eq_nil htexts, htexts.spelled]
  obtain ⟨type, ref, options⟩ := e
  -- The override is read if both texts are; the check of the keys has nothing to say any more.
  cases optionalText payload "type" with
  | error m => simp
  | ok t =>
    cases optionalText payload "ref" with
    | error m => simp
    | ok r => simp [eq_comm]

variable {raw : Entries Value} (h : (Value.map raw).isJson = true)
include h

/-- The override under the key of overrides is the one that stands there. -/
theorem readExtension_eq_ok_iff {key : String} {e : Option Extension} :
    readExtension key raw = .ok e ↔ Extension.Of (entry raw key) e := by
  have habsent : Except.ok none = (.ok e : Except CompileError _) ↔ Extension.Of .null e := by
    constructor
    · rintro ⟨⟩
      exact .none
    · rintro ⟨⟩
      rfl
  unfold readExtension entry
  cases hget : Entries.get? raw (.str key) with
  | none => exact habsent
  | some v =>
    have hv : v.isJson = true := (Value.isJson_map_iff.mp h).2.2 _ (Entries.mem_of_get?_str hget)
    dsimp only [Option.getD_some]
    -- Null stands for no override, a table is one if its parts are texts, and nothing else is.
    split
    · cases ‹some v = none›
    · obtain rfl := Option.some.inj ‹some v = some .null›
      exact habsent
    · rename_i payload heq
      obtain rfl := Option.some.inj heq
      constructor
      · intro hread
        split at hread
        · rename_i made hmade
          obtain rfl := Except.ok.inj hread
          obtain ⟨htype, href, hoptions⟩ := (Extension.ofPayload_eq_ok_iff hv).mp hmade
          have heta : made = ⟨made.type, made.ref, optionsOf payload⟩ := by rw [← hoptions]
          rw [heta]
          exact .some htype href
        · cases hread
      · intro hof
        cases hof with
        | @some _ type ref htype href =>
          have hmade : Extension.ofPayload payload = .ok ⟨type, ref, optionsOf payload⟩ :=
            (Extension.ofPayload_eq_ok_iff hv).mpr ⟨htype, href, rfl⟩
          rw [hmade]
    · rename_i hnull hmap heq
      obtain rfl := Option.some.inj heq
      constructor
      · intro hread
        cases hread
      · intro hof
        cases hof with
        | none => exact absurd rfl hnull
        | some => exact absurd rfl (hmap _)

omit h in
/-- A list is one of texts if it is the list of some texts. -/
theorem texts?_eq_some_iff {items : List Value} {names : List String} :
    texts? items = some names ↔ items = names.map .str := by
  -- The cases are those of the function: no text is left, a text comes first, or something else
  -- does.
  induction items using texts?.induct generalizing names with
  | case1 => cases names <;> simp [texts?]
  | case2 s rest ih =>
    rw [texts?, Option.map_eq_some_iff]
    constructor
    · rintro ⟨others, hothers, rfl⟩
      rw [ih.mp hothers]
      rfl
    · intro hsplit
      cases names with
      | nil => cases hsplit
      | cons name others =>
        obtain ⟨hname, hrest⟩ := List.cons.inj hsplit
        cases hname
        exact ⟨others, ih.mpr hrest, rfl⟩
  | case3 v rest hv =>
    constructor
    · intro h
      rw [texts?] at h
      · cases h
      · exact hv
    · intro hsplit
      cases names with
      | nil => cases hsplit
      | cons name others => exact absurd (List.cons.inj hsplit).1 (hv name)

omit h in
/-- The required names are those of a list of texts, and none where there is no list. -/
theorem readRequired_eq_ok_iff {names : List String} :
    readRequired raw = .ok names ↔ RequiredNames (entry raw "required") names := by
  unfold readRequired
  split
  · rename_i items hitems
    rw [hitems]
    constructor
    · intro hread
      split at hread
      · rename_i required htexts
        obtain rfl := Except.ok.inj hread
        rw [texts?_eq_some_iff.mp htexts]
        exact .listed _
      · cases hread
    · intro hnames
      cases hnames with
      | listed => rw [texts?_eq_some_iff.mpr rfl]
      | unlisted hno => exact absurd rfl (hno items)
  · rename_i hno
    constructor
    · rintro ⟨⟩
      exact .unlisted hno
    · intro hnames
      generalize entry raw "required" = v at hno hnames
      cases hnames with
      | listed names => exact absurd rfl (hno _)
      | unlisted => rfl

end Parts

/-! ## 4. Properties -/

section Properties

variable {key : String}

/-- Properties with their names for keys. -/
def keyed (properties : List (String × Node)) : Entries Node := properties.map (Prod.map .str id)

theorem keyed_textKeys (properties : List (String × Node)) : (keyed properties).TextKeys := by
  intro node hmem
  obtain ⟨property, -, rfl⟩ := List.mem_map.mp hmem
  exact ⟨property.1, rfl⟩

theorem named_keyed (properties : List (String × Node)) :
    named (keyed properties) = properties := by
  rw [named, (keyed_textKeys properties).spelled]
  induction properties with
  | nil => rfl
  | cons property rest ih => exact congrArg (property :: ·) ih

/-- Nodes whose keys are texts are the properties of these names. -/
theorem exists_keyed_of_textKeys {nodes : Entries Node} (h : nodes.TextKeys) :
    ∃ properties, nodes = keyed properties := by
  induction nodes with
  | nil => exact ⟨[], rfl⟩
  | cons node rest ih =>
    obtain ⟨k, n⟩ := node
    obtain ⟨⟨name, rfl⟩, hrest⟩ := List.forall_mem_cons.mp h
    obtain ⟨properties, rfl⟩ := ih hrest
    exact ⟨(name, n) :: properties, rfl⟩

/-- What is read from raw properties is what mirrors them, if that holds of each of them. -/
theorem readEach_eq_ok_iff {raw : Entries Value} (htexts : raw.TextKeys)
    (h : ∀ property ∈ raw, ∀ n, readNode key false property.2 = .ok n ↔
      n.Mirrors key false property.2)
    {properties : List (String × Node)} :
    readEach key raw = .ok (keyed properties) ↔ Node.PropertiesMirror key raw properties := by
  induction raw generalizing properties with
  | nil =>
    constructor
    · intro hread
      cases properties with
      | nil => exact .nil
      | cons _ _ => cases hread
    · intro hmirror
      cases hmirror
      rfl
  | cons property rest ih =>
    obtain ⟨k, v⟩ := property
    obtain ⟨⟨name, rfl⟩, hnames⟩ := List.forall_mem_cons.mp htexts
    obtain ⟨hv, hrest⟩ := List.forall_mem_cons.mp h
    replace ih := @ih hnames hrest
    rw [readEach]
    -- A reserved property is passed over on both sides, whatever it is.
    by_cases hk : isReserved (.str name) = true
    · rw [if_pos hk, ih]
      constructor
      · exact .reserved hk
      · intro hmirror
        cases hmirror with
        | reserved _ hothers => exact hothers
        | cons hk' => exact absurd hk (by simp [hk'])
    · rw [if_neg hk]
      constructor
      · intro hread
        obtain ⟨node, hnode, hread⟩ := Outcome.bind_eq_ok_iff.mp hread
        obtain ⟨others, hothers, heq⟩ := Outcome.bind_eq_ok_iff.mp hread
        cases properties with
        | nil => cases heq
        | cons property properties =>
          obtain ⟨hfirst, hlater⟩ := List.cons.inj (Except.ok.inj heq)
          cases hfirst
          rw [hlater] at hothers
          exact .cons (by simpa using hk) ((hv _).mp (Outcome.mapError_eq_ok_iff.mp hnode))
            (ih.mp hothers)
      · intro hmirror
        cases hmirror with
        | reserved hk' => exact absurd hk' hk
        | cons _ hnode hothers =>
          refine Outcome.bind_eq_ok_iff.mpr ⟨_, Outcome.mapError_eq_ok_iff.mpr ((hv _).mpr hnode),
            ?_⟩
          exact Outcome.bind_eq_ok_iff.mpr ⟨_, ih.mpr hothers, rfl⟩

/-- The same of the properties of a table, which may say nothing. -/
theorem readProperties_eq_ok_iff {raw : Entries Value}
    (h : ∀ properties, Entries.get? raw (.str "properties") = some (.map properties) →
      Entries.TextKeys properties ∧ ∀ property ∈ properties, ∀ n,
      readNode key false property.2 = .ok n ↔ n.Mirrors key false property.2)
    {properties : List (String × Node)} :
    readProperties key raw = .ok (keyed properties) ↔
      ((entry raw "properties").isTruthy = true → ∃ table, entry raw "properties" = .map table) ∧
        Node.PropertiesMirror key (entry raw "properties").tabled properties := by
  -- Properties that say nothing are read as none, which is what they mirror.
  have hnone : Except.ok [] = (.ok (keyed properties) : Except Failure (Entries Node)) ↔
      Node.PropertiesMirror key [] properties := readEach_eq_ok_iff .nil (List.forall_mem_nil _)
  rw [readProperties_eq, entry]
  split
  · rename_i table hget
    obtain ⟨htexts, hnodes⟩ := h table hget
    rw [readEach_eq_ok_iff htexts hnodes, hget]
    exact (and_iff_right fun _ => ⟨table, rfl⟩).symm
  · rename_i v hmap hget
    have htabled : v.tabled = [] := by
      cases v with
      | map table => exact absurd rfl (hmap table)
      | _ => rfl
    rw [hget, Option.getD_some, htabled]
    split
    · rename_i htruthy
      refine iff_of_false (by simp) ?_
      rintro ⟨htable, -⟩
      obtain ⟨table, rfl⟩ := htable htruthy
      exact hmap table rfl
    · rename_i hfalsy
      rw [hnone]
      exact (and_iff_right fun htruthy => absurd htruthy hfalsy).symm
  · rename_i hget
    rw [hget, hnone]
    exact (and_iff_right fun htruthy => absurd htruthy Bool.false_ne_true).symm

end Properties

/-! ## 5. Nodes -/

section Nodes

variable {key : String} {root : Bool} {raw : Entries Value} {n : Node}
  (hjson : (Value.map raw).isJson = true)
  (hitems : ∀ items, Entries.get? raw (.str "items") = some items → ∀ node,
    readNode key false items = .ok node ↔ node.Mirrors key false items)
  (hproperties : ∀ properties, Entries.get? raw (.str "properties") = some (.map properties) →
    Entries.TextKeys properties ∧ ∀ property ∈ properties, ∀ node,
      readNode key false property.2 = .ok node ↔ node.Mirrors key false property.2)
include hjson hitems hproperties

/-- What is read from a table mirrors it, and nothing else does, if that holds of its items and its
properties. -/
theorem readNode_map_eq_ok_iff :
    readNode key root (.map raw) = .ok n ↔ n.Mirrors key root (.map raw) := by
  obtain ⟨htexts, -, -⟩ := Value.isJson_map_iff.mp hjson
  have hnames : ∀ nodes : Entries Node, readProperties key raw = .ok nodes → nodes.TextKeys :=
      fun nodes =>
    textKeys_of_readProperties fun properties hget => (hproperties properties hget).1
  constructor
  · intro h
    obtain ⟨e, he, hread⟩ := readAs_of_readNode h
    have hfacts : Facts.Of key raw ⟨Misfit.spelled raw, e, entry raw "default"⟩ :=
      ⟨htexts.spelled, (readExtension_eq_ok_iff hjson).mp he, rfl⟩
    cases hread with
    | reference href => exact .reference hfacts href
    | array href htype hread =>
      rw [readItems_eq] at hread
      split at hread
      · exact .array hfacts href htype ‹_› ((hitems _ ‹_› _).mp hread)
      · obtain rfl := Except.ok.inj hread
        exact .bare hfacts href htype ‹_›
    | object href hobject hread hrequired =>
      obtain ⟨properties, rfl⟩ := exists_keyed_of_textKeys (hnames _ hread)
      obtain ⟨htable, hmirror⟩ := (readProperties_eq_ok_iff hproperties).mp hread
      rw [named_keyed]
      exact .object hfacts href hobject htable hmirror (readRequired_eq_ok_iff.mp hrequired)
    | primitive href hobject htype harray hformat =>
      exact .primitive hfacts href hobject htype harray hformat
    | any href hobject htype => exact .any hfacts href hobject htype
  · intro h
    -- The override and the rest of the facts are read whatever the shape is.
    have hread : ∀ {facts : Facts}, facts.Of key raw →
        ∃ e, readExtension key raw = .ok e ∧
          facts = ⟨Misfit.spelled raw, e, entry raw "default"⟩ := by
      intro facts hfacts
      refine ⟨facts.extension, (readExtension_eq_ok_iff hjson).mpr hfacts.extension, ?_⟩
      rw [htexts.spelled, ← hfacts.default, ← hfacts.raw]
    have hof : ∃ e, readExtension key raw = .ok e ∧ n.ReadAs key root raw e := by
      cases h with
      | reference hfacts href =>
        obtain ⟨e, he, rfl⟩ := hread hfacts
        exact ⟨e, he, .reference href⟩
      | array hfacts href htype hget hnode =>
        obtain ⟨e, he, rfl⟩ := hread hfacts
        refine ⟨e, he, .array href htype ?_⟩
        rw [readItems_eq, hget]
        exact (hitems _ hget _).mpr hnode
      | bare hfacts href htype hget =>
        obtain ⟨e, he, rfl⟩ := hread hfacts
        refine ⟨e, he, .array href htype ?_⟩
        rw [readItems_eq, hget]
      | @object _ _ _ properties _ hfacts href hobject htable hmirror hrequired =>
        obtain ⟨e, he, rfl⟩ := hread hfacts
        have hnodes := (readProperties_eq_ok_iff hproperties).mpr ⟨htable, hmirror⟩
        refine ⟨e, he, ?_⟩
        rw [← named_keyed properties]
        exact .object href hobject hnodes (readRequired_eq_ok_iff.mpr hrequired)
      | primitive hfacts href hobject htype harray hformat =>
        obtain ⟨e, he, rfl⟩ := hread hfacts
        exact ⟨e, he, .primitive href hobject htype harray hformat⟩
      | any hfacts href hobject htype =>
        obtain ⟨e, he, rfl⟩ := hread hfacts
        exact ⟨e, he, .any href hobject htype⟩
    obtain ⟨e, he, has⟩ := hof
    exact readNode_of_readAs htexts hnames he has

end Nodes

/-! ## 6. All values -/

/-- **A value is read as a node if the node mirrors it.** -/
theorem readNode_eq_ok_iff (key : String) (v : Value) :
    v.isJson = true → ∀ root n, readNode key root v = .ok n ↔ n.Mirrors key root v := by
  induction v using Value.nodeInduction with
  | table raw hitems hproperties =>
    intro hjson root n
    have hvalues := (Value.isJson_map_iff.mp hjson).2.2
    have hitems : ∀ items, Entries.get? raw (.str "items") = some items → ∀ node,
        readNode key false items = .ok node ↔ node.Mirrors key false items := by
      intro items hget
      exact hitems items hget (hvalues _ (Entries.mem_of_get?_str hget)) false
    have hproperties : ∀ properties, Entries.get? raw (.str "properties") = some (.map properties) →
        Entries.TextKeys properties ∧ ∀ property ∈ properties, ∀ node,
          readNode key false property.2 = .ok node ↔ node.Mirrors key false property.2 := by
      intro properties hget
      obtain ⟨htexts, -, hjsons⟩ :=
        Value.isJson_map_iff.mp (hvalues _ (Entries.mem_of_get?_str hget))
      exact ⟨htexts, fun property hmem => hproperties properties hget property hmem
        (hjsons property hmem) false⟩
    exact readNode_map_eq_ok_iff hjson hitems hproperties
  | other v hv =>
    intro _ root n
    rw [readNode]
    · refine iff_of_false (by simp) fun hmirror => ?_
      cases hmirror <;> exact hv _ rfl
    · exact hv

section Existence

theorem Value.isOverride_iff {v : Value} : v.IsOverride ↔ ∃ e, Extension.Of v e := by
  constructor
  · rintro (rfl | ⟨payload, rfl, htype, href⟩)
    · exact ⟨_, .none⟩
    · obtain ⟨type, htype⟩ := Value.isOptionalText_iff.mp htype
      obtain ⟨ref, href⟩ := Value.isOptionalText_iff.mp href
      exact ⟨_, .some htype href⟩
  · rintro ⟨e, hof⟩
    cases hof with
    | none => exact .inl rfl
    | @some payload _ _ htype href =>
      exact .inr ⟨payload, rfl, Value.isOptionalText_iff.mpr ⟨_, htype⟩,
        Value.isOptionalText_iff.mpr ⟨_, href⟩⟩

/-- There are required names unless a list holds something that is no text. -/
theorem exists_requiredNames_iff {v : Value} :
    (∃ names, RequiredNames v names) ↔ ∀ names, v = .list names → ∀ name ∈ names, ∃ s,
      name = .str s := by
  constructor
  · rintro ⟨_, hnames⟩ items rfl name hmem
    cases hnames with
    | listed names =>
      obtain ⟨s, -, rfl⟩ := List.mem_map.mp hmem
      exact ⟨s, rfl⟩
    | unlisted hno => exact absurd rfl (hno items)
  · intro h
    by_cases hlist : ∃ items, v = .list items
    · obtain ⟨items, rfl⟩ := hlist
      have hrange : items ∈ Set.range (List.map Value.str) := by
        rw [Set.range_list_map]
        intro name hmem
        obtain ⟨s, hs⟩ := h items rfl name hmem
        exact ⟨s, hs.symm⟩
      obtain ⟨names, rfl⟩ := hrange
      exact ⟨names, .listed names⟩
    · exact ⟨[], .unlisted (not_exists.mp hlist)⟩

theorem exists_facts_iff {key : String} {raw : Entries Value} :
    (∃ facts : Facts, facts.Of key raw) ↔ (entry raw key).IsOverride := by
  rw [Value.isOverride_iff]
  constructor
  · rintro ⟨facts, hfacts⟩
    exact ⟨_, hfacts.extension⟩
  · rintro ⟨e, he⟩
    exact ⟨⟨raw, e, entry raw "default"⟩, rfl, he, rfl⟩

variable {key : String} {raw : Entries Value}

/-- There are properties that mirror raw properties if those that are not reserved are well formed,
and if that means of each of them that there is a node which mirrors it. -/
theorem exists_propertiesMirror_iff (htexts : raw.TextKeys)
    (h : ∀ property ∈ raw, (∃ n, Node.Mirrors key false property.2 n) ↔
      property.2.WellFormed key false) :
    (∃ properties, Node.PropertiesMirror key raw properties) ↔
      ∀ property ∈ raw, isReserved property.1 = false → property.2.WellFormed key false := by
  induction raw with
  | nil => exact iff_of_true ⟨[], .nil⟩ (List.forall_mem_nil _)
  | cons property rest ih =>
    obtain ⟨k, v⟩ := property
    obtain ⟨⟨name, rfl⟩, hnames⟩ := List.forall_mem_cons.mp htexts
    obtain ⟨hv, hrest⟩ := List.forall_mem_cons.mp h
    rw [List.forall_mem_cons, ← ih hnames hrest, ← hv]
    constructor
    · rintro ⟨_, hmirror⟩
      cases hmirror with
      | reserved hk hothers => exact ⟨fun hk' => absurd hk (by simp [hk']), _, hothers⟩
      | cons _ hnode hothers => exact ⟨fun _ => ⟨_, hnode⟩, _, hothers⟩
    · rintro ⟨hnode, others, hothers⟩
      by_cases hk : isReserved (.str name) = true
      · exact ⟨others, .reserved hk hothers⟩
      · obtain ⟨node, hnode⟩ := hnode (by simpa using hk)
        exact ⟨_, .cons (by simpa using hk) hnode hothers⟩

variable (hitems : ∀ items, Entries.get? raw (.str "items") = some items →
    ((∃ n, Node.Mirrors key false items n) ↔ items.WellFormed key false))
  (hproperties : ∀ properties, Entries.get? raw (.str "properties") = some (.map properties) →
    Entries.TextKeys properties ∧ ∀ property ∈ properties,
      ((∃ n, Node.Mirrors key false property.2 n) ↔ property.2.WellFormed key false))
include hproperties

/-- The same of the properties of a table. -/
theorem exists_propertiesMirror_tabled_iff :
    (∃ properties, Node.PropertiesMirror key (entry raw "properties").tabled properties) ↔
      ∀ property ∈ (entry raw "properties").tabled, isReserved property.1 = false →
        property.2.WellFormed key false := by
  -- What is no table has no properties, so that nothing is asked of them.
  by_cases htable : ∃ table, Entries.get? raw (.str "properties") = some (.map table)
  · obtain ⟨table, hget⟩ := htable
    obtain ⟨htexts, hnodes⟩ := hproperties table hget
    rw [entry, hget]
    exact exists_propertiesMirror_iff htexts hnodes
  · have htabled : (entry raw "properties").tabled = [] := by
      rw [entry]
      cases hget : Entries.get? raw (.str "properties") with
      | none => rfl
      | some v =>
        cases v with
        | map table => exact absurd ⟨table, hget⟩ htable
        | _ => rfl
    rw [htabled]
    exact exists_propertiesMirror_iff .nil (List.forall_mem_nil _)

include hitems

/-- A table has a node that mirrors it if it is well formed, and if that is so of its items and its
properties. -/
theorem exists_mirrors_map_iff {root : Bool} :
    (∃ n, Node.Mirrors key root (.map raw) n) ↔ (Value.map raw).WellFormed key root := by
  have hnodes := exists_propertiesMirror_tabled_iff hproperties
  constructor
  · rintro ⟨n, hmirror⟩
    cases hmirror with
    | reference hfacts href => exact .reference (exists_facts_iff.mp ⟨_, hfacts⟩) href
    | array hfacts href htype hget hmirror =>
      refine .array (exists_facts_iff.mp ⟨_, hfacts⟩) href htype fun items hget' => ?_
      obtain rfl := Option.some.inj (hget.symm.trans hget')
      exact (hitems _ hget).mp ⟨_, hmirror⟩
    | bare hfacts href htype hget =>
      refine .array (exists_facts_iff.mp ⟨_, hfacts⟩) href htype fun items hget' => ?_
      rw [hget] at hget'
      cases hget'
    | object hfacts href hobject htable hmirror hnames =>
      have hrequired := exists_requiredNames_iff.mp ⟨_, hnames⟩
      exact .object (exists_facts_iff.mp ⟨_, hfacts⟩) href hobject htable
        (hnodes.mp ⟨_, hmirror⟩) hrequired
    | primitive hfacts href hobject htype harray hformat =>
      have htext := Value.isOptionalText_iff.mpr ⟨_, hformat⟩
      exact .primitive (exists_facts_iff.mp ⟨_, hfacts⟩) href hobject htype harray htext
    | any hfacts href hobject htype =>
      exact .any (exists_facts_iff.mp ⟨_, hfacts⟩) href hobject htype
  · intro hwell
    cases hwell with
    | reference h href =>
      obtain ⟨facts, hfacts⟩ := exists_facts_iff.mpr h
      exact ⟨_, .reference hfacts href⟩
    | array h href htype hwell =>
      obtain ⟨facts, hfacts⟩ := exists_facts_iff.mpr h
      cases hget : Entries.get? raw (.str "items") with
      | none => exact ⟨_, .bare hfacts href htype hget⟩
      | some items =>
        obtain ⟨node, hmirror⟩ := (hitems items hget).mpr (hwell items hget)
        exact ⟨_, .array hfacts href htype hget hmirror⟩
    | object h href hobject htable hwell hrequired =>
      obtain ⟨facts, hfacts⟩ := exists_facts_iff.mpr h
      obtain ⟨properties, hmirror⟩ := hnodes.mpr hwell
      obtain ⟨required, hnames⟩ := exists_requiredNames_iff.mpr hrequired
      exact ⟨_, .object hfacts href hobject htable hmirror hnames⟩
    | primitive h href hobject htype harray hformat =>
      obtain ⟨facts, hfacts⟩ := exists_facts_iff.mpr h
      obtain ⟨format, hformat⟩ := Value.isOptionalText_iff.mp hformat
      exact ⟨_, .primitive hfacts href hobject htype harray hformat⟩
    | any h href hobject htype =>
      obtain ⟨facts, hfacts⟩ := exists_facts_iff.mpr h
      exact ⟨_, .any hfacts href hobject htype⟩

end Existence

/-- Of the values of JSON, those that are well formed have a node that mirrors them. -/
theorem exists_mirrors_iff (key : String) (v : Value) :
    v.isJson = true → ∀ root, (∃ n, Node.Mirrors key root v n) ↔ v.WellFormed key root := by
  induction v using Value.nodeInduction with
  | table raw hitems hproperties =>
    intro hjson root
    have hvalues := (Value.isJson_map_iff.mp hjson).2.2
    refine exists_mirrors_map_iff (fun items hget => ?_) fun properties hget => ?_
    · exact hitems items hget (hvalues _ (Entries.mem_of_get?_str hget)) false
    · obtain ⟨htexts, -, hjsons⟩ :=
        Value.isJson_map_iff.mp (hvalues _ (Entries.mem_of_get?_str hget))
      exact ⟨htexts, fun property hmem => hproperties properties hget property hmem
        (hjsons property hmem) false⟩
  | other v hv =>
    intro _ root
    refine iff_of_false ?_ ?_
    · rintro ⟨n, hmirror⟩
      cases hmirror <;> exact hv _ rfl
    · intro hwell
      cases hwell <;> exact hv _ rfl

/-- **What is read is well formed, and mirrored.** Of a value of JSON, whatever the key of overrides
is and whether or not it is a definition, a node is read if and only if the value is well formed;
and that is the node which mirrors it. -/
theorem readNode_accepts_well_formed (key : String) (root : Bool) {v : Value}
    (h : v.isJson = true) :
    ((∃ n, readNode key root v = .ok n) ↔ v.WellFormed key root) ∧
      ∀ n, readNode key root v = .ok n ↔ n.Mirrors key root v := by
  have hmirrors := readNode_eq_ok_iff key v h root
  refine ⟨?_, hmirrors⟩
  rw [← exists_mirrors_iff key v h root]
  exact exists_congr hmirrors

/-- A definition without a type; a pointer with nonsense beside it, an array of anything, an object
whose properties say nothing, a reserved property that is no node, and required names that are no
list. -/
def looseNode : Value :=
  .object [
    ("properties", .object [
      ("_id", .int 7),
      ("owner", .object [("$ref", .str "#/definitions/Person"), ("type", .int 3),
        ("properties", .str "none")]),
      ("tags", .object [("type", .str "array"),
        ("x-mongo", .object [("type", .null), ("index", .bool true)])]),
      ("home", .object [("type", .str "object"), ("properties", .bool false)])]),
    ("required", .str "owner")]

theorem readNode_accepts_loose_node :
    looseNode.isJson = true ∧ looseNode.WellFormed "x-mongo" true ∧
      ∃ n, readNode "x-mongo" true looseNode = .ok n ∧ n.Mirrors "x-mongo" true looseNode ∧
        n.properties.map Prod.fst = ["owner", "tags", "home"] := by
  have hjson : looseNode.isJson = true := by decide
  obtain ⟨haccepts, hmirrors⟩ := readNode_accepts_well_formed "x-mongo" true hjson
  have hnames : (readNode "x-mongo" true looseNode).map (fun n => n.properties.map Prod.fst) =
      .ok ["owner", "tags", "home"] := by decide
  obtain ⟨n, hread, hproperties⟩ := Outcome.map_eq_ok_iff.mp hnames
  exact ⟨hjson, haccepts.mp ⟨n, hread⟩, n, hread, (hmirrors n).mp hread, hproperties⟩

end ApiStore
