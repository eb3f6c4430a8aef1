import ApiStore.Proofs.Schemas
/-
`Copy.lean` -- a copy of a definition, next to the definition's own schema.

Where an external pointer stands, its target is compiled on the spot. The target is also
compiled for itself, as a definition of the document. The two runs differ in two ways:
the copy has fewer levels left below it, and what the definition requires is left behind.

**The levels make no difference** to a copy that is made at all. With more of them it is
either the same or was cut short, and where all definitions of a document compile nothing
is cut short. So a copy may be compared with one that has as many levels below it as the
definition itself, and only the required names are left to differ.

**The required names make one difference.** They mark a property that is a single field,
before its override is laid over it. The mark is lost in a copy unless the override sets it.
If the override does, then both have its word, and only the place among the other entries
of the property can differ.
-/
set_option autoImplicit false

namespace ApiStore

/-! ## 1. The copies that a document asks for -/

/-- Compiling the definitions with so many levels asks for a copy of a target, for an owner, that
has `remaining` levels left: a definition asks with all of them, and a copy with one less than it
has. -/
inductive Definitions.Copies (definitions : Definitions) (levels : Nat) : (remaining : Nat) →
    Scalar → String → Prop
  | direct {name owner : Scalar} {node : Node} {target : String} (hname : name ∈ definitions.keys)
    (hnode : Entries.get? definitions name = some node)
    (hcopy : (owner, target) ∈ node.copies name) :
    Copies definitions levels levels owner target
  | nested {remaining : Nat} {owner o : Scalar} {definition : Node} {target t : String}
    (outer : Copies definitions levels (remaining + 1) o t)
    (hdefinition : Entries.get? definitions (.str t) = some definition)
    (hcopy : (owner, target) ∈ definition.copies (.str t)) :
      Copies definitions levels remaining owner target

/-- How a compiler compiles the definitions of a document. -/
def Compiler.rules (c : Compiler) (definitions : Definitions) : BuildRules :=
  { overrides := c.overrides
    expand :=
      expansion c.overrides definitions c.config.maxReferenceDepth
      c.config.maxReferenceDepth.toNat }

theorem Compiler.buildFields_eq (c : Compiler) (definitions : Definitions) (name : Scalar)
    (node : Node) :
    c.buildFields definitions name node = (c.rules definitions).build name node := by
  rw [buildFields, buildNode, Int.sub_zero, rules]

namespace Definitions.Copies

variable {definitions : Definitions} {levels n : Nat} {owner : Scalar} {target : String}

theorem remaining_le (h : definitions.Copies levels n owner target) : n ≤ levels := by
  induction h with
  | direct => exact Nat.le_refl levels
  | nested _ _ _ ih => exact Nat.le_of_succ_le ih

/-- Where all definitions of a document compile, all copies are made. -/
theorem exists_expansion {c : Compiler} {schemas : Entries Schema}
    (h : c.buildSchemas definitions none = .ok schemas)
    (hc : definitions.Copies c.config.maxReferenceDepth.toNat n owner target) :
    ∃ copy, expansion c.overrides definitions c.config.maxReferenceDepth n owner target =
      .ok copy := by
  induction hc with
  | direct hname hnode hcopy =>
    obtain ⟨fields, hfields⟩ := Compiler.buildFields_of_buildSchemas h hname hnode
    rw [Compiler.buildFields_eq] at hfields
    exact BuildRules.expand_eq_ok_of_build hfields hcopy
  | nested _ hdefinition hcopy ih =>
    obtain ⟨copy, hmade⟩ := ih
    rw [expansion_succ _ _ _ _ _ hdefinition] at hmade
    refine BuildRules.expand_eq_ok_of_build hmade ?_
    rw [Node.copies, Node.needs_forCopy]
    exact hcopy

end Definitions.Copies

/-- A copy that is made is the same whatever asks for it and however many levels are left: it is the
copy that is made with all of them. -/
theorem expansion_eq_build_forCopy (c : Compiler) (definitions : Definitions) {n : Nat}
    {owner : Scalar} {target : String} {definition : Node} {copy : Entries Value}
    (hn : n ≤ c.config.maxReferenceDepth.toNat)
    (hd : Entries.get? definitions (.str target) = some definition)
    (h : expansion c.overrides definitions c.config.maxReferenceDepth n owner target = .ok copy) :
    (c.rules definitions).build (.str target) definition.forCopy = .ok copy := by
  -- One level more than the limit, so that the copy is built by the rules of the definition itself.
  have hcut :=
    expansion_cutShort c.overrides definitions c.config.maxReferenceDepth c.config.maxReferenceDepth
    (Nat.le_succ_of_le hn) owner target
  rw [h, expansion_succ _ _ _ _ _ hd] at hcut
  rcases hcut with ⟨e, he, -⟩ | heq
  · cases he
  · exact heq.symm

/-! ## 2. A lost mark -/

/-- A payload has, apart from a type and a target, the keys that the options have. -/
theorem OverrideRules.mem_keys_payload {overrides : OverrideRules} {raw : Value} {e : Extension}
    {pointer : Option String} {entries : Entries Value}
    (h : overrides.payload raw e pointer = .ok entries) {s : String}
    (href : Scalar.str "ref" ≠ .str s) (htype : Scalar.str "type" ≠ .str s) :
    .str s ∈ entries.keys ↔ .str s ∈ e.options.keys := by
  unfold payload at h
  extract_lets targeted at h
  have htargeted : .str s ∈ targeted.keys ↔ .str s ∈ e.options.keys := by
    unfold targeted
    split
    · exact Entries.mem_keys_insert_of_ne href
    · exact Iff.rfl
  split at h
  · obtain rfl := Except.ok.inj h
    exact htargeted
  · split at h
    · split at h
      · obtain rfl := Except.ok.inj h
        rw [Entries.mem_keys_insert_of_ne href, Entries.mem_keys_insert_of_ne htype, htargeted]
      · obtain rfl := Except.ok.inj h
        rw [Entries.mem_keys_insert_of_ne htype, htargeted]
    · split at h
      · obtain rfl := Except.ok.inj h
        rw [Entries.mem_keys_insert_of_ne htype, htargeted]
      · cases h

/-- Whether a property is marked as required in its definition and not in a copy: it is required,
its own shape is a single field, and no override of the property or of its items has a say in it. -/
structure BuildRules.LosesMark (rules : BuildRules) (owner : Scalar) (required : List String)
    (key : String) (node : Node) : Prop where
  required : key ∈ required
  ownShape : node.hasItemOverride = false
  single : ∃ fields, rules.buildPlain owner key node = .ok (.table fields) ∧ isField fields = true
  unset : ∀ e, node.extension = some e → .str "required" ∉ e.options.keys

/-- Two values are the same, the order of entries apart. -/
def Value.SameEntries (a b : Value) : Prop := a = b ∨ ∃ x y, a = .map x ∧ b = .map y ∧ y.Perm x

/-- The second value is the first one with the mark of a required property, the order of entries
apart. -/
def Value.Marked (a b : Value) : Prop :=
  ∃ x y, a = .map x ∧ b = .map y ∧ y.Perm (Entries.insert x (.str "required") (.bool true))

/-- How the entries go together that a property has in a copy and in the definition's own schema. -/
def BuildRules.EntryAgrees (rules : BuildRules) (owner : Scalar) (required : List String)
    (properties : List (String × Node)) (copied own : Scalar × Value) : Prop :=
  ∃ key node, (key, node) ∈ properties ∧ copied.1 = .str key ∧ own.1 = .str key ∧
    (rules.LosesMark owner required key node → copied.2.Marked own.2) ∧
    (¬ rules.LosesMark owner required key node → copied.2.SameEntries own.2)

/-! ## 3. Properties -/

namespace BuildRules

variable {rules : BuildRules}

/-- A single field that is required is marked. -/
theorem markRequired_of_isField {required : Bool} {fields : Entries Value} (hr : required = true)
    (hf : isField fields = true) :
    markRequired required (.table fields) = .table
      (Entries.insert fields (.str "required") (.bool true)) := by
  simp [markRequired, hr, hf]

/-- Anything else is left as it is. -/
theorem markRequired_of_not {required : Bool} {compiled : Compiled}
    (h : ¬ (required = true ∧ ∃ fields, compiled = .table fields ∧ isField fields = true)) :
    markRequired required compiled = compiled := by
  cases compiled with
  | dropped => rfl
  | marker items => rfl
  | table fields =>
    rw [markRequired, if_neg]
    intro hmark
    obtain ⟨hr, hf⟩ := Bool.and_eq_true_iff.mp hmark
    exact h ⟨hr, fields, rfl, hf⟩

/-- A table, and the same table with the mark, under the override of one node. -/
theorem withOverride_marked {node : Node} {fields : Entries Value} {copied own : Compiled}
    (hc : rules.withOverride node (.table fields) = .ok copied)
    (ho : rules.withOverride node (.table (Entries.insert fields (.str "required") (.bool true))) =
      .ok own) :
    ∃ x y, copied = .table x ∧ own = .table y ∧
      ((∀ e, node.extension = some e → .str "required" ∉ e.options.keys) →
        y.Perm (Entries.insert x (.str "required") (.bool true))) ∧
      ((∃ e, node.extension = some e ∧ .str "required" ∈ e.options.keys) → y.Perm x) := by
  unfold withOverride at hc ho
  cases he : node.extension with
  | none =>
    rw [he] at hc ho
    obtain rfl := Except.ok.inj hc
    obtain rfl := Except.ok.inj ho
    refine ⟨_, _, rfl, rfl, fun _ => .refl _, ?_⟩
    rintro ⟨e, he', -⟩
    cases he'
  | some e =>
    have hoverride : node.override? = some (e, node.pointer?) := by
      unfold Node.override?
      rw [he]
    simp only [he, Option.isSome_some, if_true, OverrideRules.merge, OverrideRules.resolve,
      hoverride] at hc ho
    obtain ⟨payload, hpayload, rfl⟩ := Outcome.map_eq_ok_iff.mp hc
    rw [hpayload] at ho
    obtain ⟨entries, hentries, rfl⟩ := Outcome.map_eq_ok_iff.mp hpayload
    obtain rfl := Except.ok.inj ho
    have hkeys := OverrideRules.mem_keys_payload hentries (s := "required") (by decide) (by decide)
    -- The mark is there before the payload: one that lacks the key keeps it, one that has it
    -- replaces it.
    have hset := Entries.Setting.insert fields "required" (.bool true)
    refine ⟨_, _, rfl, rfl, fun hunset => ?_, ?_⟩
    · exact (hset.overlay (mt hkeys.mp (hunset e rfl))).perm
    · rintro ⟨e', he', hmem⟩
      obtain rfl := Option.some.inj he'
      exact hset.overlay_perm (hkeys.mpr hmem)

/-- What a property compiles to goes together, in a copy and in the schema, as its entries are
to. -/
theorem buildProperty_marked {owner : Scalar} {required : List String} {key : String} {node : Node}
    {copied own : Compiled} (hc : rules.buildProperty owner false key node = .ok copied)
    (ho : rules.buildProperty owner (required.contains key) key node = .ok own) :
    copied = own ∧ ¬ rules.LosesMark owner required key node ∨
      ∃ x y, copied = .table x ∧ own = .table y ∧
        (rules.LosesMark owner required key node →
          y.Perm (Entries.insert x (.str "required") (.bool true))) ∧
        (¬ rules.LosesMark owner required key node → y.Perm x) := by
  rw [buildProperty, Outcome.mapError_eq_ok_iff] at hc ho
  cases hi : node.hasItemOverride with
  | true =>
    -- The override of the items stands for the whole property, required or not.
    simp only [hi, if_true] at hc ho
    rw [hc] at ho
    refine .inl ⟨Except.ok.inj ho, fun h => ?_⟩
    rw [h.ownShape] at hi
    cases hi
  | false =>
    simp only [hi, Bool.false_eq_true, if_false] at hc ho
    obtain ⟨plain, hplain, hc⟩ := Outcome.bind_eq_ok_iff.mp hc
    obtain ⟨plain', hplain', ho⟩ := Outcome.bind_eq_ok_iff.mp ho
    rw [hplain] at hplain'
    obtain rfl := Except.ok.inj hplain'
    rw [markRequired_of_not (by simp)] at hc
    by_cases hmark : required.contains key = true ∧ ∃ fields, plain = .table fields ∧
      isField fields = true
    · obtain ⟨hr, fields, rfl, hf⟩ := hmark
      rw [markRequired_of_isField hr hf] at ho
      obtain ⟨x, y, hx, hy, hunset, hset⟩ := withOverride_marked hc ho
      refine .inr ⟨x, y, hx, hy, fun h => hunset h.unset, fun h => hset ?_⟩
      by_contra hnone
      push Not at hnone
      exact h ⟨List.contains_iff_mem.mp hr, hi, ⟨fields, hplain, hf⟩, hnone⟩
    · rw [markRequired_of_not hmark, hc] at ho
      refine .inl ⟨Except.ok.inj ho, fun h => hmark ⟨List.contains_iff_mem.mpr h.required, ?_⟩⟩
      obtain ⟨fields, hfields, hf⟩ := h.single
      rw [hplain] at hfields
      exact ⟨fields, Except.ok.inj hfields, hf⟩

/-- A property has an entry in a copy if it has one in the schema, and the two go together. -/
theorem buildProperty_entryAgrees {owner : Scalar} {required : List String} {key : String}
    {node : Node} {properties : List (String × Node)} (hmem : (key, node) ∈ properties)
    {copied own : Compiled} (hc : rules.buildProperty owner false key node = .ok copied)
    (ho : rules.buildProperty owner (required.contains key) key node = .ok own) :
    List.Forall₂ (rules.EntryAgrees owner required properties) (copied.entries key)
      (own.entries key) := by
  have hentry : ∀ {v w : Value}, (rules.LosesMark owner required key node → v.Marked w) →
      (¬ rules.LosesMark owner required key node → v.SameEntries w) →
      List.Forall₂ (rules.EntryAgrees owner required properties) [(.str key, v)] [(.str key, w)] :=
    fun hlost hkept => .cons ⟨key, node, hmem, rfl, rfl, hlost, hkept⟩ .nil
  rcases buildProperty_marked hc ho with ⟨rfl, hkept⟩ | ⟨x, y, rfl, rfl, hlost, hkept⟩
  · cases copied with
    | dropped => exact .nil
    | table fields => exact hentry (fun h => absurd h hkept) fun _ => .inl rfl
    | marker items => exact hentry (fun h => absurd h hkept) fun _ => .inl rfl
  · exact hentry (fun h => ⟨x, y, rfl, rfl, hlost h⟩) fun h => .inr ⟨x, y, rfl, rfl, hkept h⟩

/-- **Copying forgets required marks and nothing else**: entry by entry, what an object compiles to
without required names goes together with what it compiles to with them. -/
theorem buildProperties_entryAgrees {owner : Scalar} {required : List String}
    {properties all : List (String × Node)} (hall : properties ⊆ all) {copied own : Entries Value}
    (hc : rules.buildProperties owner [] properties = .ok copied)
    (ho : rules.buildProperties owner required properties = .ok own) :
    List.Forall₂ (rules.EntryAgrees owner required all) copied own := by
  induction properties generalizing copied own with
  | nil =>
    obtain rfl := Except.ok.inj hc
    obtain rfl := Except.ok.inj ho
    exact .nil
  | cons property rest ih =>
    obtain ⟨key, node⟩ := property
    obtain ⟨hmem, hrest⟩ := List.cons_subset.mp hall
    cases hk : reservedNames.contains key with
    | true =>
      rw [rules.buildProperties_cons_reserved owner _ node rest hk] at hc ho
      exact ih hrest hc ho
    | false =>
      rw [rules.buildProperties_cons owner _ node rest hk, Outcome.bind_eq_ok_iff] at hc ho
      obtain ⟨c, hcopied, hc⟩ := hc
      obtain ⟨o, hown, ho⟩ := ho
      obtain ⟨others, hothers, rfl⟩ := Outcome.map_eq_ok_iff.mp hc
      obtain ⟨others', hothers', rfl⟩ := Outcome.map_eq_ok_iff.mp ho
      exact List.rel_append (buildProperty_entryAgrees hmem hcopied hown)
        (ih hrest hothers hothers')

end BuildRules

/-! ## 4. Definitions -/

/-- How a copy of a definition goes together with the definition's own fields. Only an object has
required names to lose; anything else is the same in both. -/
def Node.CopyAgrees (rules : BuildRules) (name : Scalar) (copied own : Entries Value) : Node → Prop
  | .object _ properties required =>
    List.Forall₂ (rules.EntryAgrees name required properties) copied own
  | _ => copied = own

theorem BuildRules.build_copyAgrees {rules : BuildRules} {name : Scalar} {node : Node}
    {copied own : Entries Value} (hc : rules.build name node.forCopy = .ok copied)
    (ho : rules.build name node = .ok own) :
    node.CopyAgrees rules name copied own := by
  cases node with
  | object facts properties required =>
    rw [Node.forCopy, build] at hc
    rw [build] at ho
    exact buildProperties_entryAgrees (List.Subset.refl properties) hc ho
  | _ => exact Except.ok.inj (hc.symm.trans ho)

/-- **A copy agrees with the schema of its target.** Where all definitions of a document compile,
whatever asks for a copy of a definition gets the same one, on every level; and it is what the
schema of the definition holds, except for required marks of its own properties. -/
theorem copy_agrees_with_schema (c : Compiler) {definitions : Definitions}
    {schemas : Entries Schema} (h : c.buildSchemas definitions none = .ok schemas) {n : Nat}
    {owner : Scalar} {target : String}
    (hc : definitions.Copies c.config.maxReferenceDepth.toNat n owner target) :
    ∃ definition schema copy, Entries.get? definitions (.str target) = some definition ∧
      Entries.get? schemas (.str target) = some schema ∧
      (∀ n owner, definitions.Copies c.config.maxReferenceDepth.toNat n owner target →
        expansion c.overrides definitions c.config.maxReferenceDepth n owner target = .ok copy) ∧
      definition.CopyAgrees (c.rules definitions) (.str target) copy schema.fields := by
  obtain ⟨copy, hcopy⟩ := hc.exists_expansion h
  cases hd : Entries.get? definitions (.str target) with
  | none =>
    rw [expansion_undefined _ _ _ _ _ hd] at hcopy
    cases hcopy
  | some definition =>
    have hbuild := expansion_eq_build_forCopy c definitions hc.remaining_le hd hcopy
    obtain ⟨schema, hschema, hfields⟩ := Compiler.exists_schema_of_buildSchemas h hd
    rw [Compiler.buildFields_eq] at hfields
    refine ⟨definition, schema, copy, rfl, hschema, ?_, BuildRules.build_copyAgrees hbuild hfields⟩
    intro m o hm
    obtain ⟨other, hother⟩ := hm.exists_expansion h
    have hsame := expansion_eq_build_forCopy c definitions hm.remaining_le hd hother
    rw [hbuild] at hsame
    rw [hother, Except.ok.inj hsame]

/-- An order and its customer, who has to have a name and, if there is a home, a city. -/
def Sample.purchase : Definitions :=
  [(.str "Order", order),
    (.str "Customer", record [("name", leaf "string"),
      ("home", record [("city", leaf "string")] ["city"])] ["name"])]

def Sample.compiler : Compiler := { config := .initial, types := .initial }

/-- The customer in the order and the customer's own schema. -/
theorem copy_agrees_purchase :
    ∃ schemas, Sample.compiler.buildSchemas Sample.purchase none = .ok schemas ∧
      Sample.purchase.Copies Sample.compiler.config.maxReferenceDepth.toNat 32
        (.str "Order") "Customer" ∧
      ∃ definition schema copy, Entries.get? Sample.purchase (.str "Customer") = some definition ∧
        Entries.get? schemas (.str "Customer") = some schema ∧
        (∀ n owner,
          Sample.purchase.Copies Sample.compiler.config.maxReferenceDepth.toNat n owner "Customer" →
          expansion Sample.compiler.overrides Sample.purchase
            Sample.compiler.config.maxReferenceDepth n owner "Customer" = .ok copy) ∧
        definition.CopyAgrees (Sample.compiler.rules Sample.purchase)
          (.str "Customer") copy schema.fields := by
  obtain ⟨schemas, hschemas⟩ : ∃ schemas, Sample.compiler.buildSchemas Sample.purchase none =
      .ok schemas :=
    Outcome.isOk_iff.mp (by decide)
  have hcopy : Sample.purchase.Copies Sample.compiler.config.maxReferenceDepth.toNat 32
      (.str "Order") "Customer" :=
    .direct (by decide) (rfl : Entries.get? Sample.purchase (.str "Order") = some Sample.order)
      (by decide)
  exact ⟨schemas, hschemas, hcopy, copy_agrees_with_schema Sample.compiler hschemas hcopy⟩

end ApiStore
