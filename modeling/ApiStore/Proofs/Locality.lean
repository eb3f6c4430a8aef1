import ApiStore.Proofs.Addition
/-
`Locality.lean` -- what an override that is added leaves alone.

An override that is added to one property, and consists of options only, is laid over what
the property compiled to before. What the property compiles to without any override is left
alone (`Node.Paired.buildProperty_laid`), and that takes an argument. The property may hold
pointers, and the copies that these ask for are made of definitions that have changed only if
one of them is the definition at hand.

**No definition is inside itself.** A definition that compiles is in no copy that it asks for,
neither directly nor by way of others, for it would have to be copied without end
(`not_embeds_of_build`). So a definition of another name is what it was where it is copied
(`Definitions.Paired.expansion_eq`).
-/
set_option autoImplicit false

namespace ApiStore

open Node Outcome

/-! ## 1. No definition is inside itself -/

section Cycles

variable {overrides : OverrideRules} {definitions : Definitions} {limit : Int} {levels : Nat}

/-- Chains of copies that start at a copy which is made are shorter than the levels that it has
left. -/
theorem not_hasChain_of_expansion {owner : Scalar} {target : String} {copy : Entries Value}
    (h : expansion overrides definitions limit levels owner target = .ok copy) :
    ¬ HasChain definitions.Embeds (.str target) levels := by
  induction levels generalizing owner target copy with
  | zero =>
    obtain ⟨_, _, hlevels, -⟩ := exists_definition_of_expansion (offence?_eq_none_iff.mpr ⟨copy, h⟩)
    cases hlevels
  | succ levels ih =>
    obtain ⟨_, definition, -, hd⟩ :=
      exists_definition_of_expansion (offence?_eq_none_iff.mpr ⟨copy, h⟩)
    rw [expansion_succ overrides definitions limit levels owner hd] at h
    rw [HasChain.succ_iff]
    rintro ⟨_, ⟨node, o, t, hnode, hcopy, rfl⟩, hchain⟩
    obtain rfl := Option.some.inj (hd.symm.trans hnode)
    rw [Node.copies, ← Node.needs_forCopy] at hcopy
    obtain ⟨inner, hinner⟩ := BuildRules.expand_eq_ok_of_build h hcopy
    exact ih hinner hchain

/-- **A definition that compiles is in no copy that it asks for.** -/
theorem not_embeds_of_build {name owner : Scalar} {target : String} {node : Node}
    {fields : Entries Value} (hn : Entries.get? definitions name = some node)
    (hcopy : (owner, target) ∈ node.copies name)
    (h : BuildRules.build ⟨overrides, expansion overrides definitions limit levels⟩ name node =
      .ok fields) :
    ¬ Relation.ReflTransGen definitions.Embeds (.str target) name := by
  intro hback
  obtain ⟨copy, hmade⟩ := BuildRules.expand_eq_ok_of_build h hcopy
  -- Otherwise the copy starts chains of every length, round and round.
  have hcycle : Relation.TransGen definitions.Embeds name name :=
    .head' ⟨node, owner, target, hn, hcopy, rfl⟩ hback
  exact not_hasChain_of_expansion hmade ((HasChain.of_cycle hcycle levels).of_reflTransGen hback)

end Cycles

/-! ## 2. What stays -/

namespace Node

variable {target place : List Scalar} {options : Entries Value} {n m : Node}

/-- At any other place an override stays. -/
theorem Added.kept {e : Option Extension} (h : Added target options place n e)
    (hplace : place ≠ target) :
    n.extension = e := by
  rcases h with hsame | ⟨hat, -⟩
  · exact hsame.symm
  · exact absurd hat hplace

/-- A place that is not on the way to a target has none below it on the way. -/
theorem not_prefix_append {below : List Scalar} (h : ¬ place <+: target) :
    ¬ place ++ below <+: target :=
  fun hbelow => h ((List.prefix_append place below).trans hbelow)

/-- Nor is it the target. -/
theorem ne_of_not_prefixed (h : ¬ place <+: target) : place ≠ target := by
  rintro rfl
  exact h List.prefix_rfl

mutual

/-- Nodes on no way to the place of the override are what they were. -/
theorem Paired.kept : (n : Node) → {m : Node} → {place : List Scalar} → ¬ place <+: target →
    Paired (Added target options) place n m → Paired Kept place n m
  | .primitive _ _ _, _, _, hplace, .primitive h hfacts =>
    .primitive (Added.kept h (ne_of_not_prefixed hplace)) hfacts
  | .array _ items, _, _, hplace, .array h hfacts hitems =>
    .array (Added.kept h (ne_of_not_prefixed hplace)) hfacts
      (Paired.kept items (not_prefix_append hplace) hitems)
  | .object _ ps _, _, _, hplace, .object h hproperties =>
    .object (Added.kept h (ne_of_not_prefixed hplace))
      (PropertiesPaired.kept ps (not_prefix_append hplace) hproperties)
  | .reference _ _, _, _, hplace, .reference h hpointers =>
    .reference (Added.kept h (ne_of_not_prefixed hplace)) hpointers
  | .any _, _, _, hplace, .any h => .any (Added.kept h (ne_of_not_prefixed hplace))

/-- Off the way all properties are kept. -/
theorem PropertiesPaired.kept : (ps : List (String × Node)) → {qs : List (String × Node)} →
    {place : List Scalar} →
    ¬ place <+: target → PropertiesPaired (Added target options) place ps qs →
      PropertiesPaired Kept place ps qs
  | [], _, _, _, .nil => .nil
  | (_, n) :: rest, _, _, hplace, .cons h hrest =>
    .cons (Paired.kept n (not_prefix_append hplace) h) (PropertiesPaired.kept rest hplace hrest)

end

/-- A node without its own override. -/
def bare : Node → Node
  | .primitive facts type format => .primitive { facts with extension := none } type format
  | .array facts items => .array { facts with extension := none } items
  | .object facts properties required =>
    .object { facts with extension := none } properties required
  | .reference facts pointer => .reference { facts with extension := none } pointer
  | .any facts => .any { facts with extension := none }

/-- Its own override is of no account for what a node compiles to before it. -/
theorem buildPlain_bare (rules : BuildRules) (owner : Scalar) (key : String) (n : Node) :
    rules.buildPlain owner key n.bare = rules.buildPlain owner key n := by
  cases n <;> rfl

/-- At the place of the override, nothing changes but the override. -/
theorem Paired.bare_kept (h : Paired (Added target options) target n m) (hn : n.extension = none) :
    Paired Kept target n m.bare := by
  have hbelow : ∀ key : Scalar, ¬ target ++ [key] <+: target := by
    intro key hprefix
    have hlength := hprefix.length_le
    rw [List.length_append, List.length_singleton] at hlength
    omega
  cases h with
  | primitive _ hfacts => exact .primitive hn ⟨hfacts.default, hfacts.type⟩
  | array _ hfacts hitems =>
    exact .array hn ⟨hfacts.default, hfacts.type⟩ (Paired.kept _ (hbelow _) hitems)
  | object _ hproperties => exact .object hn (PropertiesPaired.kept _ (hbelow _) hproperties)
  | reference _ hpointers => exact .reference hn hpointers
  | any _ => exact .any hn

end Node

/-! ## 3. Copies of other definitions -/

/-- Whatever value the first outcome is, the second is as well. -/
def Agreement.sameValue : Agreement where
  Holds x y := ∀ a, x = .ok a → y = .ok a
  refl _ _ h := h
  bind := by
    intro _ _ x y f g hxy hfg b hb
    obtain ⟨a, ha, hb⟩ := bind_eq_ok_iff.mp hb
    rw [hxy a ha]
    exact hfg a b hb
  property := by
    intro _ x y key node hxy a ha
    rw [mapError_eq_ok_iff] at ha ⊢
    exact hxy a ha

namespace Likeness

variable {rules : BuildRules} {owner : Scalar} {n m : Node}

/-- Copies are the same as themselves. -/
theorem copies_refl (f : Scalar → String → Except CompileError (Entries Value)) : same.Copies f f :=
  fun _ _ => .refl CompileError.Alike.refl (fun x => ⟨tables_refl x, rfl⟩) _

/-- Nodes that are alike become the same fields. -/
theorem build_same (h : same.Nodes n m) {fields : Entries Value}
    (hn : rules.build owner n = .ok fields) :
    rules.build owner m = .ok fields := by
  have halike : Related CompileError.Alike same.Fields (rules.build owner n)
      (rules.build owner m) :=
    build_alike (copies_refl rules.expand) owner n h
  rw [hn] at halike
  obtain ⟨others, hm, hfields⟩ := halike.exists_of_ok
  rw [hm, hfields.tables.eq]

/-- Apart from its overrides a property compiles to the same. -/
theorem buildPlain_same (h : same.Nodes n m) {key : String} {plain : Compiled}
    (hn : rules.buildPlain owner key n = .ok plain) : rules.buildPlain owner key m = .ok plain := by
  have halike : Related CompileError.Alike same.Plain (rules.buildPlain owner key n)
      (rules.buildPlain owner key m) :=
    buildPlain_alike (copies_refl rules.expand) owner key n h
  rw [hn] at halike
  obtain ⟨other, hm, hplain⟩ := halike.exists_of_ok
  rw [hm]
  cases hplain with
  | dropped => rfl
  | table hfields => rw [hfields.tables.eq]
  | marker hitem => rw [hitem.eq]

end Likeness

/-- A copy of a definition that does not lead to the one with the override is what it was. The
induction is on the levels left. -/
theorem Definitions.Paired.expansion_eq {overrides : OverrideRules} {name : Scalar}
    {below : List Scalar} {options : Entries Value} {ds es : Definitions}
    (h : Definitions.Paired (Added (name :: below) options) ds es) {limit : Int} {levels : Nat}
    {owner : Scalar} {target : String}
    (hleads : ¬ Relation.ReflTransGen es.Embeds (.str target) name) :
    Agreement.sameValue.Holds (expansion overrides ds limit levels owner target)
      (expansion overrides es limit levels owner target) := by
  induction levels generalizing owner target with
  | zero =>
    intro copy hcopy
    obtain ⟨_, _, hlevels, -⟩ := exists_definition_of_expansion
      (offence?_eq_none_iff.mpr ⟨copy, hcopy⟩)
    cases hlevels
  | succ levels ih =>
    intro copy hcopy
    obtain ⟨_, n, -, hn⟩ := exists_definition_of_expansion (offence?_eq_none_iff.mpr ⟨copy, hcopy⟩)
    have hget := h.get? (.str target)
    rw [hn] at hget
    cases hm : Entries.get? es (.str target) with
    | none =>
      rw [hm] at hget
      cases hget
    | some m =>
      rw [hm] at hget
      cases hget with
      | some hnode =>
        obtain ⟨found, hfound, hpaired, -⟩ := hnode
        obtain rfl := Scalar.sameKey_str_right.mp hfound
        have hother : ¬ [Scalar.str target] <+: name :: below := by
          intro hprefix
          obtain rfl := List.cons_prefix_cons.mp hprefix |>.1
          exact hleads .refl
        rw [expansion_succ overrides ds limit levels owner hn] at hcopy
        rw [expansion_succ overrides es limit levels owner hm]
        have hsame := Likeness.build_same (Paired.kept n hother hpaired).same.forCopy hcopy
        refine BuildRules.build_agrees .sameValue overrides (.str target) m.forCopy ?_ _ hsame
        intro need hneed o t ht
        refine ih fun hback => hleads (.head ?_ hback)
        refine ⟨m, o, t, hm, ?_, rfl⟩
        rw [Node.copies, ← Node.needs_forCopy]
        exact List.mem_filterMap.mpr ⟨need, hneed, ht⟩

/-! ## 4. Properties by name -/

section Lookup

variable {rules : BuildRules} {owner : Scalar} {required : List String}
  {properties : List (String × Node)} {fields : Entries Value} {key : String} {n : Node}

/-- The first property of a name makes the entry of that name, unless it is dropped. -/
theorem BuildRules.get?_of_lookup (h : rules.buildProperties owner required properties = .ok fields)
    (hlookup : properties.lookup key = some n) (hk : reservedNames.contains key = false)
    (hform : n.form ≠ .dropped) :
    ∃ compiled, rules.buildProperty owner (required.contains key) key n = .ok compiled ∧
      Entries.get? fields (.str key) = some compiled.toValue := by
  -- The first property of a name is the one that is found, in the properties as in the fields.
  induction properties generalizing fields with
  | nil => cases hlookup
  | cons property rest ih =>
    obtain ⟨first, node⟩ := property
    rw [List.lookup_cons] at hlookup
    cases hfirst : key == first with
    | true =>
      obtain rfl := eq_of_beq hfirst
      obtain rfl : node = n := by simpa using hlookup
      rw [rules.buildProperties_cons owner required node rest hk, Outcome.bind_eq_ok_iff] at h
      obtain ⟨compiled, hcompiled, h⟩ := h
      obtain ⟨others, -, rfl⟩ := Outcome.map_eq_ok_iff.mp h
      refine ⟨compiled, hcompiled, ?_⟩
      cases compiled with
      | dropped => exact absurd (buildProperty_form hcompiled).symm hform
      | _ => simp [Compiled.entries, Entries.get?]
    | false =>
      rw [hfirst] at hlookup
      have hne : first ≠ key := by
        rintro rfl
        simp at hfirst
      cases hr : reservedNames.contains first with
      | true =>
        rw [rules.buildProperties_cons_reserved owner required node rest hr] at h
        exact ih h hlookup
      | false =>
        rw [rules.buildProperties_cons owner required node rest hr, Outcome.bind_eq_ok_iff] at h
        obtain ⟨other, -, h⟩ := h
        obtain ⟨others, hothers, rfl⟩ := Outcome.map_eq_ok_iff.mp h
        obtain ⟨compiled, hcompiled, hget⟩ := ih hothers hlookup
        refine ⟨compiled, hcompiled, ?_⟩
        rw [← hget]
        cases other with
        | dropped => rfl
        | _ => simp [Compiled.entries, Entries.get?, hne]

/-- A property has its partner under the same name. -/
theorem Node.PropertiesPaired.lookup {Own : OverrideChange} {place : List Scalar}
    {others : List (String × Node)} (h : PropertiesPaired Own place properties others)
    (hlookup : properties.lookup key = some n) :
    ∃ m, others.lookup key = some m ∧ Paired Own (place ++ [.str key]) n m := by
  induction properties generalizing others with
  | nil => cases hlookup
  | cons property rest ih =>
    cases h with
    | @cons _ first node m _ qs hnode hrest =>
      rw [List.lookup_cons] at hlookup ⊢
      cases hfirst : key == first with
      | true =>
        obtain rfl := eq_of_beq hfirst
        obtain rfl : node = n := by simpa using hlookup
        exact ⟨m, by simp, hnode⟩
      | false =>
        rw [hfirst] at hlookup
        exact ih hrest hlookup

end Lookup

/-! ## 5. The property itself -/

namespace Node

variable {target place : List Scalar} {options : Entries Value} {overrides : OverrideRules}
  {n m : Node}

/-- A node for which no override counts has none of its own, and its items have none. -/
theorem none_of_override? (h : n.override? = none) :
    n.extension = none ∧ n.hasItemOverride = false := by
  unfold override? at h
  cases he : n.extension with
  | some e =>
    rw [he] at h
    cases h
  | none =>
    rw [he] at h
    refine ⟨rfl, ?_⟩
    cases n with
    | array facts items => simpa [hasItemOverride] using h
    | _ => rfl

/-- Partners have the same form. -/
theorem Paired.plainForm {Own : OverrideChange} (h : Paired Own place n m) :
    n.plainForm = m.plainForm := by
  cases h with
  | array _ _ hitems => rw [Node.plainForm, Node.plainForm, isSome_eq_of_rel hitems.ownPointer?]
  | _ => rfl

/-- No override makes a property be dropped. -/
theorem Paired.form_ne_dropped (h : Paired (Added target options) place n m)
    (hn : n.form ≠ .dropped) :
    m.form ≠ .dropped := by
  have hown : n.extension.isSome = true → m.extension.isSome = true := by
    intro hsome
    obtain ⟨e, he⟩ := Option.isSome_iff_exists.mp hsome
    exact Option.isSome_iff_exists.mpr ⟨e, h.extension_of_some he⟩
  unfold Node.form at hn ⊢
  split
  · simp
  · split
    · simp
    · rw [if_neg (mt h.hasItemOverride ‹_›), if_neg (mt hown ‹_›), h.plainForm] at hn
      exact hn

/-- An override of options only has them for its payload. -/
theorem resolve_of_options (h : m.extension = some ⟨none, none, options⟩) :
    overrides.resolve m = .ok (some options) :=
  resolve_of_extension h

/-- Where the override is added, the property becomes what it was, or what it was with the options
laid over it. -/
theorem Paired.buildProperty_laid (h : Paired (Added place options) place n m)
    (hoverride : n.override? = none) {f g : Scalar → String → Except CompileError (Entries Value)}
    {owner : Scalar} {required : Bool} {key : String} {c d : Compiled}
    (hanswers : Agreement.sameValue.Answers f g (m.propertyNeeds owner key))
    (hc : BuildRules.buildProperty ⟨overrides, f⟩ owner required key n = .ok c)
    (hd : BuildRules.buildProperty ⟨overrides, g⟩ owner required key m = .ok d) :
    d = c ∨ d = .table (c.base.overlay options) := by
  obtain ⟨hown, hitems⟩ := none_of_override? hoverride
  have hitems' : m.hasItemOverride = false := by
    cases h with
    | array _ _ hitem =>
      have hkept := Added.kept hitem.own (by simp)
      rw [Node.hasItemOverride] at hitems ⊢
      rw [← hkept, hitems]
    | _ => rfl
  rw [BuildRules.buildProperty, mapError_eq_ok_iff, hitems, if_neg Bool.false_ne_true] at hc
  rw [BuildRules.buildProperty, mapError_eq_ok_iff, hitems', if_neg Bool.false_ne_true] at hd
  obtain ⟨plain, hplain, hc⟩ := bind_eq_ok_iff.mp hc
  obtain ⟨plain', hplain', hd⟩ := bind_eq_ok_iff.mp hd
  -- What lies below the override is the same, and so are the copies that it asks for.
  have hsame : BuildRules.buildPlain ⟨overrides, g⟩ owner key m = .ok plain := by
    have hbare := Likeness.buildPlain_same (h.bare_kept hown).same hplain
    rw [buildPlain_bare] at hbare
    refine BuildRules.buildPlain_agrees .sameValue overrides owner key m
      (fun need hneed => hanswers need ?_) _ hbare
    rw [propertyNeeds, hitems', if_neg Bool.false_ne_true]
    exact List.mem_append_left _ hneed
  obtain rfl := Except.ok.inj (hsame.symm.trans hplain')
  rw [BuildRules.withOverride, hown] at hc
  obtain rfl := Except.ok.inj hc
  rcases h.own with hkept | ⟨-, -, hnew⟩
  · rw [BuildRules.withOverride, hkept, hown] at hd
    exact .inl (Except.ok.inj hd).symm
  · rw [BuildRules.withOverride, hnew, Option.isSome_some, if_pos rfl, OverrideRules.merge,
      resolve_of_options hnew] at hd
    exact .inr (Except.ok.inj hd).symm

end Node

end ApiStore
