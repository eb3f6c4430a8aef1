import ApiStore.Proofs.Build.Slot
import ApiStore.Proofs.Distinct
import ApiStore.Proofs.Locality
/-
`Overlay.lean` -- an override is laid over its property, and touches nothing else.

A definition map is compiled twice, once as it is and once without the override of one
property. What comes between the two is the payload of the override, laid over what the
property compiles to without it (`override_laid_over`). The payload has the type, the target
and the options of the override, and is refused only for a type that is not known
(`payload_states`, `payload_fails_iff`).

**The two runs see two maps.** Copies are made of the definitions of the map, so a copy might
differ as well. But a definition that compiles is in no copy that it asks for, so all copies
that are asked for are made of definitions which both maps share (`expansion_congr`).
-/
set_option autoImplicit false

namespace ApiStore

open Outcome

/-! ## 1. What an override resolves to -/

/-- Entries that say a type and a target, if there are any, and all else as the options say it. -/
structure PayloadOf (type : Option StorageType) (ref : Option String)
    (options payload : Entries Value) : Prop where
  typed : ∀ t, type = some t → Entries.get? payload (.str "type") = some t.toValue
  targeted : ∀ target, ref = some target → Entries.get? payload (.str "ref") = some (.str target)
  others : ∀ key, (key = .str "type" → type = none) → (key = .str "ref" → ref = none) →
    Entries.get? payload key = Entries.get? options key

namespace PayloadOf

variable {type : Option StorageType} {ref : Option String} {options payload : Entries Value}

theorem refl (options : Entries Value) : PayloadOf none none options options :=
  ⟨nofun, nofun, fun _ _ _ => rfl⟩

theorem set_type (h : PayloadOf none ref options payload) (t : StorageType) :
    PayloadOf (some t) ref options (payload.insert (.str "type") t.toValue) where
  typed := by
    rintro _ ⟨⟩
    exact Entries.get?_insert_self _ _ _
  targeted target htarget := by
    rw [Entries.get?_insert_of_ne _ (by decide)]
    exact h.targeted target htarget
  others key htype href := by
    have hne : key ≠ .str "type" := fun heq => nomatch htype heq
    rw [Entries.get?_insert_of_ne _ hne]
    exact h.others key (fun _ => rfl) href

theorem set_ref (h : PayloadOf type none options payload) (target : String) :
    PayloadOf type (some target) options (payload.insert (.str "ref") (.str target)) where
  typed t ht := by
    rw [Entries.get?_insert_of_ne _ (by decide)]
    exact h.typed t ht
  targeted := by
    rintro _ ⟨⟩
    exact Entries.get?_insert_self _ _ _
  others key htype href := by
    have hne : key ≠ .str "ref" := fun heq => nomatch href heq
    rw [Entries.get?_insert_of_ne _ hne]
    exact h.others key htype (fun _ => rfl)

end PayloadOf

/-- The target that an override names: its own or, for a reference by identity, what the pointer
next to it says. -/
def Extension.target? (e : Extension) (pointer : Option String) : Option String :=
  e.ref.or (if e.type = some referenceMark then pointerName? pointer else none)

namespace OverrideRules

/-- The type that an override names: the mark names `ObjectId`, and any other name what it is bound
to. -/
def type? (rules : OverrideRules) (e : Extension) : Option StorageType :=
  e.type.bind fun name => if name = referenceMark then some .objectId else rules.types.get? name

variable {rules : OverrideRules} {raw : Value} {e : Extension} {pointer : Option String}
  {payload : Entries Value}

/-- A payload is refused for a type name that is neither the mark nor bound, and for nothing
else. -/
theorem payload_fails_iff :
    (∃ error, rules.payload raw e pointer = .error error) ↔
      ∃ name, e.type = some name ∧ name ≠ referenceMark ∧ rules.types.get? name = none := by
  unfold OverrideRules.payload
  cases e.type with
  | none => simp
  | some name =>
    by_cases hmark : name = referenceMark
    · simp only [hmark, if_true]
      split <;> simp
    · cases htype : rules.types.get? name <;> simp [hmark, htype]

/-- A payload says what the override does, and has no key twice if the options have none. -/
theorem payload_states (h : rules.payload raw e pointer = .ok payload) :
    PayloadOf (rules.type? e) (e.target? pointer) e.options payload ∧
      (e.options.Distinct → payload.Distinct) := by
  unfold OverrideRules.payload at h
  extract_lets targeted at h
  -- The target is set before the type is, which for an identity may set it again.
  have htargeted : PayloadOf none e.ref e.options targeted ∧
      (e.options.Distinct → Entries.Distinct targeted) := by
    unfold targeted
    cases e.ref with
    | none => exact ⟨.refl _, id⟩
    | some ref => exact ⟨(PayloadOf.refl _).set_ref ref, fun hoptions => hoptions.insert _ _⟩
  obtain ⟨hstated, hdistinct⟩ := htargeted
  cases htype : e.type with
  | none =>
    simp only [htype, Except.ok.injEq] at h
    simp only [type?, Extension.target?, htype, Option.bind_none, reduceCtorEq, if_false,
      Option.or_none]
    exact h ▸ ⟨hstated, hdistinct⟩
  | some name =>
    simp only [type?, Extension.target?, htype, Option.bind_some, Option.some.injEq] at h ⊢
    by_cases hmark : name = referenceMark
    · simp only [if_pos hmark] at h ⊢
      split at h
      · rename_i target href hname
        rw [href] at hstated
        rw [href, hname, ← Except.ok.inj h]
        exact ⟨(hstated.set_type .objectId).set_ref target,
          fun hoptions => ((hdistinct hoptions).insert _ _).insert _ _⟩
      · rename_i hnone
        -- Here the pointer adds nothing: the override has a target, or the pointer names none.
        have htarget : e.ref.or (pointerName? pointer) = e.ref := by
          cases href : e.ref with
          | some ref => rfl
          | none =>
            cases hname : pointerName? pointer with
            | none => rfl
            | some target => exact absurd hname (hnone target href)
        rw [htarget, ← Except.ok.inj h]
        exact ⟨hstated.set_type .objectId, fun hoptions => (hdistinct hoptions).insert _ _⟩
    · simp only [if_neg hmark, Option.or_none] at h ⊢
      cases hbound : rules.types.get? name with
      | none => simp [hbound] at h
      | some type =>
        simp only [hbound, Except.ok.injEq] at h
        exact h ▸ ⟨hstated.set_type type, fun hoptions => (hdistinct hoptions).insert _ _⟩

end OverrideRules

/-! ## 2. One property -/

namespace BuildRules

variable {rules : BuildRules} {owner : Scalar} {required : Bool} {key : String} {n : Node}
  {e : Extension} {c : Compiled}

/-- A property with an override is what it is without it, under the payload. -/
theorem buildProperty_of_bare (he : n.extension = some e) (hitems : n.hasItemOverride = false)
    (hbare : rules.buildProperty owner required key n.bare = .ok c) :
    rules.buildProperty owner required key n =
      ((rules.overrides.payload n.raw e n.pointer?).map fun payload => .table
        (c.base.overlay payload)).mapError (.property (.str key) n.raw) := by
  have hitems' : n.bare.hasItemOverride = false := by
    rw [← hitems]
    cases n <;> rfl
  have hnone : n.bare.extension = none := by cases n <;> rfl
  rw [buildProperty, hitems', mapError_eq_ok_iff, if_neg Bool.false_ne_true,
    Node.buildPlain_bare] at hbare
  obtain ⟨plain, hplain, hbare⟩ := bind_eq_ok_iff.mp hbare
  rw [withOverride, hnone, Option.isSome_none, if_neg Bool.false_ne_true] at hbare
  obtain rfl := Except.ok.inj hbare
  rw [buildProperty, hitems, if_neg Bool.false_ne_true, hplain]
  simp only [bind, Except.bind, withOverride, he, Option.isSome_some, if_true, OverrideRules.merge,
    Node.resolve_of_extension he]
  cases rules.overrides.payload n.raw e n.pointer? <;> rfl

end BuildRules

/-! ## 3. One object -/

/-- What an override is laid over, where a property without it makes the given entry or none: a list
is the type of a field. -/
def Value.base : Option Value → Entries Value
  | some (.map fields) => fields
  | some (.list items) => [(.str "type", .list items)]
  | _ => []

theorem Compiled.base_eq (key : String) (c : Compiled) :
    c.base = Value.base (Entries.get? (c.entries key) (.str key)) := by
  cases c <;> simp [Compiled.base, Compiled.entries, Compiled.toValue, Entries.get?, Value.base]

/-- Two tables of fields differ in one entry: it is what it is in the first, or nothing, with a
payload laid over it. What the payload names it decides, and all else is kept. -/
structure Entries.Overlaid (key : String) (payload bare full : Entries Value) : Prop where
  others : full.erase (.str key) = bare.erase (.str key)
  own : ∃ merged, get? full (.str key) = some (.map merged) ∧
    merged = (Value.base (get? bare (.str key))).overlay payload ∧
    ∀ s, get? merged (.str s) = (get? payload (.str s)).or
      (get? (Value.base (get? bare (.str key))) (.str s))

theorem Entries.overlaid_of_split {key : String} {payload left right : Entries Value}
    (hleft : .str key ∉ left.keys) (hright : .str key ∉ right.keys) (hpayload : payload.Distinct)
    (c : Compiled) :
    Overlaid key payload (left ++ (c.entries key ++ right))
      (left ++ ((Compiled.table (c.base.overlay payload)).entries key ++ right)) := by
  have hown : ∀ d : Compiled, get? (left ++ (d.entries key ++ right)) (.str key) = get?
      (d.entries key) (.str key) := by
    intro d
    rw [get?_append, get?_append, get?_str_eq_none_iff.mpr hleft, get?_str_eq_none_iff.mpr hright,
      Option.none_or, Option.or_none]
  have hothers : ∀ d : Compiled, erase (left ++ (d.entries key ++ right)) (.str key) =
      erase left (.str key) ++ erase right (.str key) := by
    intro d
    have hentries : erase (d.entries key) (.str key) = [] := by
      cases d <;> simp [Compiled.entries, erase]
    rw [erase, List.filter_append, List.filter_append, ← erase, ← erase, ← erase, hentries,
      List.nil_append]
  constructor
  · rw [hothers, hothers]
  · rw [hown, hown, ← Compiled.base_eq]
    exact ⟨_, by simp [Compiled.entries, get?, Compiled.toValue], rfl,
      fun s => get?_overlay_of_distinct _ hpayload⟩

/-- The fields of an object, with and without the override of a property. -/
theorem BuildRules.overlaid_of_bare {rules : BuildRules} {owner : Scalar} {required : List String}
    {before after : List (String × Node)} {key : String} {n : Node} {e : Extension} {fields others :
      Entries Value}
    (hk : reservedNames.contains key = false) (hkey : key ∉ (before ++ after).map (·.1))
    (he : n.extension = some e)
    (hitems : n.hasItemOverride = false) (hoptions : e.options.Distinct)
    (hfields : rules.buildProperties owner required (before ++ (key, n) :: after) = .ok fields)
    (hothers : rules.buildProperties owner required (before ++ (key, n.bare) :: after) =
      .ok others) :
    ∃ payload, rules.overrides.resolve n = .ok (some payload) ∧
      PayloadOf (rules.overrides.type? e) (e.target? n.pointer?) e.options payload ∧
      Entries.Overlaid key payload others fields := by
  obtain ⟨left, c, right, hleft, hbare, hright, rfl⟩ := split_of_buildProperties hk hothers
  obtain ⟨_, d, _, hleft', hd, hright', rfl⟩ := split_of_buildProperties hk hfields
  obtain rfl := Except.ok.inj (hleft.symm.trans hleft')
  obtain rfl := Except.ok.inj (hright.symm.trans hright')
  rw [buildProperty_of_bare he hitems hbare, mapError_eq_ok_iff] at hd
  obtain ⟨payload, hpayload, rfl⟩ := map_eq_ok_iff.mp hd
  obtain ⟨hstated, hdistinct⟩ := OverrideRules.payload_states hpayload
  have hfree : ∀ {properties : List (String × Node)} {made : Entries Value},
    key ∉ properties.map (·.1) →
      rules.buildProperties owner required properties = .ok made → .str key ∉ made.keys := by
    intro properties made hnot hmade hmem
    obtain ⟨name, hname, heq, -⟩ := mem_keys_of_buildProperties hmade hmem
    exact hnot (Scalar.str.inj heq ▸ hname)
  rw [List.map_append, List.mem_append, not_or] at hkey
  refine ⟨payload, ?_, hstated, Entries.overlaid_of_split (hfree hkey.1 hleft) (hfree hkey.2 hright)
    (hdistinct hoptions) c⟩
  rw [Node.resolve_of_extension he, hpayload]
  rfl

/-! ## 4. One definition -/

section Definition

variable {slot : Slot} {rules : BuildRules} {name : Scalar} {n : Node} {e : Extension}
  {bare : Entries Value}

/-- Where a definition compiles without the override of a compiled property, it fails with it for
the payload's sake alone. -/
theorem Slot.build_fails_iff (hcompiled : slot.isCompiled name = true) (he : n.extension = some e)
    (hitems : n.hasItemOverride = false) (hbare : rules.build name (slot.fill n.bare) = .ok bare) :
    (∃ error, rules.build name (slot.fill n) = .error error) ↔
      ∃ type, e.type = some type ∧ type ≠ referenceMark ∧
        rules.overrides.types.get? type = none := by
  have hslot := slot.hinges rules name
  have hmet : offence? (rules.build name (slot.fill n.bare)) = none :=
    offence?_eq_none_iff.mpr ⟨bare, hbare⟩
  obtain ⟨c, hc⟩ := offence?_eq_none_iff.mp (hslot.needs hcompiled n.bare hmet)
  have hcarried := Iff.intro (hslot.needs hcompiled n) (hslot.enough hcompiled n.bare n hmet)
  rw [BuildRules.buildProperty_of_bare he hitems hc, offence?_property, offence?_map] at hcarried
  have hpayload : (∃ error, rules.overrides.payload n.raw e n.pointer? = .error error) ↔ _ :=
    OverrideRules.payload_fails_iff
  rw [← hpayload, ← offence?_ne_none_iff, ← offence?_ne_none_iff]
  exact not_congr hcarried

/-- Where it compiles with the override as well, the fields of the object differ in the property
alone. -/
theorem Slot.overlaid (hcompiled : slot.isCompiled name = true) (he : n.extension = some e)
    (hitems : n.hasItemOverride = false) (hoptions : e.options.Distinct)
    (hkey : slot.key ∉ (slot.before ++ slot.after).map (·.1)) {whole : Entries Value}
    (hwhole : rules.build name (slot.fill n) = .ok whole) {others : Entries Value}
    (hothers : slot.fields rules name n.bare = .ok others) :
    ∃ payload fields, rules.overrides.resolve n = .ok (some payload) ∧
      PayloadOf (rules.overrides.type? e) (e.target? n.pointer?) e.options payload ∧
      slot.fields rules name n = .ok fields ∧ Entries.Overlaid slot.key payload others fields := by
  obtain ⟨fields, hfields⟩ := Slot.exists_fields hcompiled hwhole
  rw [Slot.isCompiled, Bool.and_eq_true, Bool.not_eq_true'] at hcompiled
  obtain ⟨payload, hresolve, hstated, hlaid⟩ :=
    BuildRules.overlaid_of_bare hcompiled.2 hkey he hitems hoptions hfields hothers
  exact ⟨payload, fields, hresolve, hstated, hfields, hlaid⟩

end Definition

/-! ## 5. Two definition maps -/

section Maps

variable {overrides : OverrideRules} {ds es : Definitions} {name : Scalar} {limit : Int}
  {levels : Nat}

/-- Copies that do not lead to a definition do not depend on it. The induction is on the levels
left. -/
theorem expansion_congr
    (h : ∀ t, .str t ≠ name → Entries.get? ds (.str t) = Entries.get? es (.str t)) {owner : Scalar}
    {target : String} (hleads : ¬ Relation.ReflTransGen es.Embeds (.str target) name) :
    expansion overrides ds limit levels owner target =
      expansion overrides es limit levels owner target := by
  have hsame := h target fun heq => hleads (heq ▸ .refl)
  induction levels generalizing owner target with
  | zero => rw [expansion, expansion, hsame]
  | succ levels ih =>
    cases hd : Entries.get? es (.str target) with
    | none => rw [expansion_undefined _ _ _ _ _ hd, expansion_undefined _ _ _ _ _ (hsame.trans hd)]
    | some definition =>
      rw [expansion_succ _ _ _ _ _ hd, expansion_succ _ _ _ _ _ (hsame.trans hd)]
      refine BuildRules.build_congr overrides fun o t hcopy => ?_
      rw [Node.copies, Node.needs_forCopy] at hcopy
      have hstep : es.Embeds (.str target) (.str t) := ⟨definition, o, t, hd, hcopy, rfl⟩
      have hfurther : ¬ Relation.ReflTransGen es.Embeds (.str t) name :=
        fun hback => hleads (.head hstep hback)
      exact ih hfurther (h t fun heq => hfurther (heq ▸ .refl))

/-- Maps that differ in one definition alone make the same copies for it, if it compiles. -/
theorem answers_of_build
    (h : ∀ t, .str t ≠ name → Entries.get? ds (.str t) = Entries.get? es (.str t)) {m : Node}
    (hm : Entries.get? es name = some m) {fields : Entries Value}
    (hbuild : (rulesWithin overrides es limit levels).build name m = .ok fields) :
    Agreement.same.Answers (expansion overrides ds limit levels)
      (expansion overrides es limit levels) (m.needs name) :=
  fun need hneed _ _ hcopy =>
    expansion_congr h (not_embeds_of_build hm (List.mem_filterMap.mpr ⟨need, hneed, hcopy⟩) hbuild)

end Maps

/-! ## 6. With and without -/

/-- **An override is laid over its property, and touches nothing else.** A definition compiles
without the override of a property in it. If the property is not compiled, the override makes no
difference. If it is, the definition compiles with the override unless that names a type which is
not known; and then the fields of the object that has the property are what they were, but for the
payload that is laid over the property. The property is no array whose items have an override, and
the only one of its name. What the map has under the name of the definition is of no account. -/
theorem override_laid_over {overrides : OverrideRules} {definitions : Definitions} {name : Scalar}
    {depth limit : Int} {slot : Slot} {n : Node} {e : Extension} {bare : Entries Value}
    (he : n.extension = some e) (hitems : n.hasItemOverride = false) (hoptions : e.options.Distinct)
    (hkey : slot.key ∉ (slot.before ++ slot.after).map (·.1))
    (hbare : buildNode overrides (definitions.insert name (slot.fill n.bare)) ⟨name, depth, limit⟩
      (slot.fill n.bare) = .ok bare) :
    (slot.isCompiled name = false →
      buildNode overrides definitions ⟨name, depth, limit⟩ (slot.fill n) = .ok bare) ∧
    (slot.isCompiled name = true →
      ((∃ error,
          buildNode overrides definitions ⟨name, depth, limit⟩ (slot.fill n) = .error error) ↔
        ∃ type, e.type = some type ∧ type ≠ referenceMark ∧ overrides.types.get? type = none) ∧
      ∀ whole, buildNode overrides definitions ⟨name, depth, limit⟩ (slot.fill n) = .ok whole →
        ∃ payload fields others, overrides.resolve n = .ok (some payload) ∧
          PayloadOf (overrides.type? e) (e.target? n.pointer?) e.options payload ∧
          slot.fields (rulesWithin overrides definitions limit (limit - depth).toNat) name n =
            .ok fields ∧
          slot.fields (rulesWithin overrides (definitions.insert name (slot.fill n.bare)) limit
            (limit - depth).toNat) name n.bare = .ok others ∧
          Entries.Overlaid slot.key payload others fields) := by
  have helsewhere : ∀ t, .str t ≠ name → Entries.get? definitions (.str t) =
      Entries.get? (definitions.insert name (slot.fill n.bare)) (.str t) := by
    intro t ht
    rw [Entries.get?_insert_str, if_neg (Ne.symm ht)]
  have hanswers : Agreement.same.Answers
    (expansion overrides definitions limit (limit - depth).toNat) _
      ((slot.fill n.bare).needs name) :=
    answers_of_build helsewhere (Entries.get?_insert_self _ _ _) hbare
  -- So the definition without the override is the same under the rules of either map.
  have hsame : (rulesWithin overrides definitions limit (limit - depth).toNat).build name
      (slot.fill n.bare) = .ok bare :=
    (BuildRules.build_agrees .same overrides name _ hanswers).trans hbare
  refine ⟨fun hpassed => ?_, fun hcompiled => ⟨Slot.build_fails_iff hcompiled he hitems hsame,
    fun whole hwhole => ?_⟩⟩
  · exact ((slot.hinges _ name).same hpassed n n.bare).trans hsame
  · obtain ⟨others, hothers⟩ := Slot.exists_fields hcompiled hbare
    have hcontext := (Bool.and_eq_true_iff.mp hcompiled).1
    have hothers' : slot.fields (rulesWithin overrides definitions limit
        (limit - depth).toNat) name n.bare = .ok others :=
      (BuildRules.buildProperties_agrees .same overrides _ slot.required _ fun need hneed =>
        hanswers need (Context.propertiesNeeds_subset hcontext hneed)).trans hothers
    obtain ⟨payload, fields, hresolve, hstated, hfields, hlaid⟩ :=
      Slot.overlaid hcompiled he hitems hoptions hkey hwhole hothers'
    exact ⟨payload, fields, others, hresolve, hstated, hfields, hothers, hlaid⟩

namespace Sample

/-- The product of an order line: a pointer that is made a reference by identity, and indexed. -/
def product : Node :=
  .reference
    { Node.empty.facts with
      extension := some ⟨some referenceMark, none, [(.str "index", .bool true)]⟩ }
    "#/definitions/Product"

/-- Where the product stands in an order: beside the amount, in the items of the lines. -/
def orderLine : Slot where
  context := .property Node.empty.facts [] "lines"
    (.items { Node.empty.facts with raw := [(.str "type", .str "array")] } .here) [] []
  facts := Node.empty.facts
  before := [("amount", leaf "integer")]
  key := "product"
  after := []
  required := []

/-- An order and its products. -/
def orders : Definitions :=
  [(.str "Order", orderLine.fill product), (.str "Product", record [("title", leaf "string")] [])]

/-- What becomes of an order line whose product is compiled to the given entries. -/
def lineFields (product : Entries Value) : Entries Value :=
  [(.str "amount", .object [("type", .str "Number")]), (.str "product", .map product)]

/-- What becomes of an order with such lines. -/
def orderFields (product : Entries Value) : Entries Value :=
  [(.str "lines", .object [("type", .list [.map (lineFields product)])])]

/-- What becomes of a product. -/
def productFields : Entries Value := [(.str "title", .object [("type", .str "String")])]

/-- The payload of the override of a product. -/
def productPayload : Entries Value :=
  [(.str "index", .bool true), (.str "type", .str "ObjectId"), (.str "ref", .str "Product")]

end Sample

/-- The product of an order line is copied into the order, and the payload of the override comes on
top. -/
theorem override_laid_over_product :
    buildNode Sample.settings
        (Sample.orders.insert (.str "Order") (Sample.orderLine.fill Sample.product.bare))
        ⟨.str "Order", 0, 100⟩ (Sample.orderLine.fill Sample.product.bare) =
      .ok (Sample.orderFields Sample.productFields) ∧
    buildNode Sample.settings Sample.orders ⟨.str "Order", 0, 100⟩
        (Sample.orderLine.fill Sample.product) =
      .ok (Sample.orderFields (Sample.productFields ++ Sample.productPayload)) ∧
    Entries.Overlaid "product" Sample.productPayload (Sample.lineFields Sample.productFields)
      (Sample.lineFields (Sample.productFields ++ Sample.productPayload)) := by
  have hbare : buildNode Sample.settings
    (Sample.orders.insert (.str "Order") (Sample.orderLine.fill Sample.product.bare))
      ⟨.str "Order", 0, 100⟩ (Sample.orderLine.fill Sample.product.bare) =
        .ok (Sample.orderFields Sample.productFields) :=
    rfl
  have hwhole : buildNode Sample.settings Sample.orders ⟨.str "Order", 0, 100⟩
    (Sample.orderLine.fill Sample.product) =
      .ok (Sample.orderFields (Sample.productFields ++ Sample.productPayload)) := by decide +kernel
  have he : Sample.product.extension =
    some ⟨some referenceMark, none, [(.str "index", .bool true)]⟩ := rfl
  have hoptions : Entries.Distinct [(Scalar.str "index", Value.bool true)] :=
    List.pairwise_singleton _ _
  obtain ⟨-, hcompiled⟩ := override_laid_over he rfl hoptions (by decide) hbare
  obtain ⟨payload, fields, others, hresolve, -, hfields, hothers, hlaid⟩ :=
    (hcompiled rfl).2 _ hwhole
  have hpayload : Sample.settings.resolve Sample.product = .ok (some Sample.productPayload) := by
    decide +kernel
  have hline : Sample.orderLine.fields (rulesWithin Sample.settings Sample.orders 100 100)
    (.str "Order") Sample.product =
      .ok (Sample.lineFields (Sample.productFields ++ Sample.productPayload)) := by decide +kernel
  obtain rfl := Option.some.inj (Except.ok.inj (hpayload.symm.trans hresolve))
  obtain rfl := Except.ok.inj (hline.symm.trans hfields)
  obtain rfl : Sample.lineFields Sample.productFields = others := Except.ok.inj hothers
  exact ⟨hbare, hwhole, hlaid⟩

namespace Sample

/-- A text with an override that names a type which is not known. -/
def unknown : Node :=
  .primitive { Node.empty.facts with extension := some ⟨some "Nope", none, []⟩ } "string" none

/-- A place in the items of rows that have an override, which stands for them. -/
def inRow : Slot where
  context := .property Node.empty.facts [] "rows" (.items Node.empty.facts .here) [] []
  facts := { Node.empty.facts with extension := some ⟨none, none, [(.str "index", .bool true)]⟩ }
  before := []
  key := "note"
  after := []
  required := []

/-- A place under a name that is reserved. -/
def asIdentity : Slot where
  context := .here
  facts := Node.empty.facts
  before := []
  key := "_id"
  after := []
  required := []

/-- A sheet with the text at a place. -/
def sheet (slot : Slot) : Definitions := [(.str "Sheet", slot.fill unknown)]

/-- The sheet compiles without the override of the text, but with it it does not fail as the type of
the override has it. -/
def PassesOver (slot : Slot) : Prop :=
  (∃ bare, buildNode settings ((sheet slot).insert (.str "Sheet") (slot.fill unknown.bare))
    ⟨.str "Sheet", 0, 100⟩ (slot.fill unknown.bare) = .ok bare) ∧
  ¬ ((∃ error, buildNode settings (sheet slot) ⟨.str "Sheet", 0, 100⟩ (slot.fill unknown) =
    .error error) ↔
    ∃ type, unknown.extension.bind Extension.type = some type ∧ type ≠ referenceMark ∧
      settings.types.get? type = none)

end Sample

/-- A property that is not compiled may have an override of any type. -/
theorem override_passed_over :
    Sample.PassesOver Sample.inRow ∧ Sample.PassesOver Sample.asIdentity := by
  have hunknown : ∃ type, Sample.unknown.extension.bind Extension.type = some type ∧
    type ≠ referenceMark ∧ Sample.settings.types.get? type = none := ⟨"Nope", rfl, by decide, rfl⟩
  constructor
  · have hwhole : buildNode Sample.settings (Sample.sheet Sample.inRow) ⟨.str "Sheet", 0, 100⟩
        (Sample.inRow.fill Sample.unknown) =
          .ok [(.str "rows", .list [.object [("index", .bool true)]])] := rfl
    refine ⟨⟨_, rfl⟩, fun hfails => ?_⟩
    obtain ⟨error, herror⟩ := hfails.mpr hunknown
    rw [hwhole] at herror
    cases herror
  · have hwhole : buildNode Sample.settings (Sample.sheet Sample.asIdentity) ⟨.str "Sheet", 0, 100⟩
        (Sample.asIdentity.fill Sample.unknown) = .ok [] := rfl
    refine ⟨⟨_, rfl⟩, fun hfails => ?_⟩
    obtain ⟨error, herror⟩ := hfails.mpr hunknown
    rw [hwhole] at herror
    cases herror

end ApiStore
