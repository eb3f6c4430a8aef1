import ApiStore.Proofs.Build.Chain
import ApiStore.Proofs.Pairing
import ApiStore.Proofs.Path
/-
`Addition.lean` -- an override that is added at one place.

Two definition maps are the same but for one node, which has no override in the first and an
override of mere options in the second. If the first compiles, so does the second. Options can
always be laid over a property, and where the items of an array get an override the items
themselves are not compiled any more. So whatever the second map needs is needed by the first,
or is a payload that names no type (`Node.Paired.needs_met`).
-/
set_option autoImplicit false

namespace ApiStore

open Outcome (Related)

/-! ## 1. Nodes with and without the override -/

/-- Overrides stay as they are, but the node at one place, if it has none, may get options for
one. -/
def Node.Added (target : List Scalar) (options : Entries Value) : OverrideChange := fun place n e =>
  e = n.extension ∨ (place = target ∧ n.extension = none ∧ e = some ⟨none, none, options⟩)

namespace Node.Paired

variable {Own : OverrideChange} {target place : List Scalar} {options : Entries Value} {n m : Node}

/-- The override of the second node is a change of that of the first. -/
theorem own (h : Paired Own place n m) : Own place n m.extension := by
  cases h with
  | primitive h _ => exact h
  | array h _ _ => exact h
  | object h _ => exact h
  | reference h _ => exact h
  | any h => exact h

/-- Paired nodes have pointers of their own that name the same target, or both have none. -/
theorem ownPointer? (h : Paired Own place n m) :
    Option.Rel Pointer.Alike n.ownPointer? m.ownPointer? := by
  cases h with
  | reference _ hpointers => exact .some hpointers
  | _ => exact .none

/-- The same holds of the pointers of their items. -/
theorem pointer? (h : Paired Own place n m) : Option.Rel Pointer.Alike n.pointer? m.pointer? := by
  cases h with
  | array _ _ hitems => exact hitems.ownPointer?
  | reference _ hpointers => exact .some hpointers
  | _ => exact .none

/-- What has an override keeps it. -/
theorem extension_of_some (h : Paired (Added target options) place n m) {e : Extension}
    (he : n.extension = some e) :
    m.extension = some e := by
  rcases h.own with hsame | ⟨-, hnone, -⟩
  · exact hsame.trans he
  · rw [he] at hnone
    cases hnone

/-- An override of items stays. -/
theorem hasItemOverride (h : Paired (Added target options) place n m)
    (hn : n.hasItemOverride = true) :
    m.hasItemOverride = true := by
  cases h with
  | array _ _ hitems =>
    obtain ⟨e, he⟩ := Option.isSome_iff_exists.mp hn
    exact Option.isSome_iff_exists.mpr ⟨e, hitems.extension_of_some he⟩
  | _ => cases hn

/-- The override that counts is the one that was added, or the one that counted before. -/
theorem override? (h : Paired (Added target options) place n m) {e : Extension} {q : Option String}
    (he : m.override? = some (e, q)) :
    e = ⟨none, none, options⟩ ∨ ∃ p, n.override? = some (e, p) ∧ Option.Rel Pointer.Alike p q := by
  have hpointer := h.pointer?
  unfold Node.override? at he ⊢
  cases hm : m.extension with
  | some own =>
    rw [hm] at he
    obtain ⟨rfl, rfl⟩ := Prod.mk.inj (Option.some.inj he)
    rcases h.own with hsame | ⟨-, -, hnew⟩
    · rw [← hsame, hm]
      exact .inr ⟨_, rfl, hpointer⟩
    · rw [hm] at hnew
      exact .inl (Option.some.inj hnew)
  | none =>
    have hn : n.extension = none := by
      rcases h.own with hsame | ⟨-, hnone, -⟩
      · exact hsame.symm.trans hm
      · exact hnone
    rw [hm] at he
    rw [hn]
    cases h with
    | @array _ _ _ i j _ _ hitems =>
      obtain ⟨d, hd, heq⟩ := Option.map_eq_some_iff.mp he
      obtain ⟨rfl, rfl⟩ := Prod.mk.inj heq
      rcases hitems.own with hsame | ⟨-, -, hnew⟩
      · refine .inr ⟨i.pointer?, ?_, hitems.pointer?⟩
        simp only [← hsame, hd, Option.map_some]
      · rw [hd] at hnew
        exact .inl (Option.some.inj hnew)
    | _ => cases he

end Node.Paired

/-! ## 2. What is needed -/

section Needs

open Node

variable {target place : List Scalar} {options : Entries Value} {overrides : OverrideRules}
  {f g : Scalar → String → Except CompileError (Entries Value)} {n m : Node}

/-- All needs are met. -/
def Met (rules : BuildRules) (needs : List Need) : Prop :=
  ∀ need ∈ needs, need.offence? rules = none

/-- Where one of two outcomes that go together is a value, both are. -/
theorem Outcome.Related.offence? {α β : Type} {R : α → β → Prop} {x : Except CompileError α}
    {y : Except CompileError β} (h : Related CompileError.Alike R x y)
    (hx : ApiStore.offence? x = none) :
    ApiStore.offence? y = none := by
  cases h with
  | ok _ => rfl
  | error _ => cases hx

/-- A leaf with a storage type still has one. -/
theorem Node.Paired.leaf_met (h : Paired (Added target options) place n m)
    (hn : offence? (leafType n) = none) :
    offence? (leafType m) = none := by
  cases h with
  | primitive _ _ =>
    rw [leafType, offence?_map] at hn ⊢
    exact (Likeness.storageType_alike _ _ _ _).offence? hn
  | _ => cases hn

/-- An override that counts has a payload if it had one before, or if it was added. -/
theorem Node.Paired.payload_met (h : Paired (Added target options) place n m)
    (hn : n.override?.isSome = true → offence? (overrides.resolve n) = none) :
      offence? (overrides.resolve m) = none := by
  unfold OverrideRules.resolve at hn ⊢
  cases hm : m.override? with
  | none => rfl
  | some counted =>
    obtain ⟨e, q⟩ := counted
    simp only [offence?_map]
    rcases h.override? hm with rfl | ⟨p, hp, hpq⟩
    · rfl
    · simp only [hp, Option.isSome_some, forall_const, offence?_map] at hn
      exact (Likeness.payload_alike ⟨rfl, rfl, Likeness.tables_refl _⟩ hpq _ _).offence? hn

/-- The override that counts for a property is among its needs. -/
theorem Node.payload_mem_propertyNeeds (h : n.override?.isSome = true) (owner : Scalar)
    (key : String) :
    .payload n ∈ n.propertyNeeds owner key := by
  unfold propertyNeeds
  split
  · exact List.mem_singleton_self _
  · rename_i hitems
    refine List.mem_append_right _ ?_
    have hown : n.extension.isSome = true := by
      unfold Node.override? at h
      cases he : n.extension with
      | some e => rfl
      | none =>
        rw [he] at h
        cases n with
        | array facts items => exact absurd (Option.isSome_map.symm.trans h) hitems
        | _ => cases h
    rw [if_pos hown]
    exact List.mem_singleton_self _

/-- What a property needs is still met if it is apart from its overrides. -/
theorem Node.Paired.property_met {owner : Scalar} {key : String}
    (h : Paired (Added target options) place n m)
    (hplain : Met ⟨overrides, f⟩ (n.plainNeeds owner key) →
      Met ⟨overrides, g⟩ (m.plainNeeds owner key))
    (hn : Met ⟨overrides, f⟩ (n.propertyNeeds owner key)) :
      Met ⟨overrides, g⟩ (m.propertyNeeds owner key) := by
  have hpayload : Met ⟨overrides, g⟩ [.payload m] :=
    List.forall_mem_singleton.mpr
      (h.payload_met fun hn' => hn _ (payload_mem_propertyNeeds hn' owner key))
  rw [propertyNeeds]
  split
  · exact hpayload
  · rename_i hitems
    refine List.forall_mem_append.mpr ⟨hplain ?_, ?_⟩
    · rw [propertyNeeds, if_neg (mt h.hasItemOverride hitems)] at hn
      exact (List.forall_mem_append.mp hn).1
    · split
      · exact hpayload
      · exact nofun

/-- Whatever is copied in one way is copied in the other as well. -/
def StillCopies (f g : Scalar → String → Except CompileError (Entries Value)) : Prop :=
  ∀ owner target, offence? (f owner target) = none → offence? (g owner target) = none

/-- A pointer that leads somewhere still does. -/
theorem pointer_met (hfg : StillCopies f g) {p q : String} (h : Pointer.Alike p q) (owner : Scalar)
    (hp : Met ⟨overrides, f⟩ [.pointer owner p]) : Met ⟨overrides, g⟩ [.pointer owner q] := by
  rw [Met, List.forall_mem_singleton, Need.offence?] at hp ⊢
  rw [← h.parse?]
  cases ht : Pointer.parse? p with
  | none => simp [ht] at hp
  | some t =>
    simp only [ht] at hp ⊢
    split
    · rfl
    · rw [if_neg ‹_›] at hp
      exact hfg owner t hp

namespace Node

mutual

/-- **What a node needs with the override is met** if what it needs without it is. -/
theorem Paired.needs_met (hfg : StillCopies f g) (owner : Scalar) : (n : Node) → {m : Node} →
    {place : List Scalar} →
    Paired (Added target options) place n m → Met ⟨overrides, f⟩ (n.needs owner) →
      Met ⟨overrides, g⟩ (m.needs owner)
  | .object _ ps _, _, _, .object _ hproperties, hn => by
    rw [needs] at hn ⊢
    exact PropertiesPaired.needs_met hfg owner ps hproperties hn
  | .array _ items, _, _, .array _ hfacts hitems, hn => by
    have hpointer := hitems.ownPointer?
    rw [needs] at hn ⊢
    rw [← hfacts.type]
    generalize items.ownPointer? = p at hpointer hn
    generalize Node.ownPointer? _ = q at hpointer ⊢
    cases hpointer with
    | some hpq => exact pointer_met hfg hpq owner hn
    | none =>
      dsimp only at hn ⊢
      split
      · rw [if_pos ‹_›] at hn
        exact Paired.itemNeeds_met hfg owner items hitems hn
      · exact nofun
  | .primitive _ _ _, _, _, .primitive h hfacts, hn => by
    rw [needs] at hn ⊢
    rw [← hfacts.type]
    split
    · rw [if_pos ‹_›, Met, List.forall_mem_singleton] at hn
      exact List.forall_mem_singleton.mpr ((Paired.primitive h hfacts).leaf_met hn)
    · exact nofun
  | .reference _ _, _, _, .reference _ hpointers, hn => by
    rw [needs] at hn ⊢
    exact pointer_met hfg hpointers owner hn
  | .any _, _, _, .any _, _ => nofun

/-- What the items of an array need is still met. -/
theorem Paired.itemNeeds_met (hfg : StillCopies f g) (owner : Scalar) : (n : Node) → {m : Node} →
    {place : List Scalar} →
    Paired (Added target options) place n m → Met ⟨overrides, f⟩ (n.itemNeeds owner) →
    Met ⟨overrides, g⟩ (m.itemNeeds owner)
  | .object _ ps _, _, _, .object _ hproperties, hn => by
    rw [itemNeeds] at hn ⊢
    exact PropertiesPaired.needs_met hfg owner ps hproperties hn
  | .array _ items, _, _, .array _ _ hitems, hn => by
    rw [itemNeeds] at hn ⊢
    exact Paired.itemNeeds_met hfg owner items hitems hn
  | .primitive _ _ _, _, _, .primitive h hfacts, hn => by
    rw [itemNeeds, Met, List.forall_mem_singleton] at hn ⊢
    exact (Paired.primitive h hfacts).leaf_met hn
  | .reference _ _, _, _, .reference h hpointers, hn => by
    rw [itemNeeds, Met, List.forall_mem_singleton] at hn ⊢
    exact (Paired.reference h hpointers).leaf_met hn
  | .any _, _, _, .any h, hn => by
    rw [itemNeeds, Met, List.forall_mem_singleton] at hn ⊢
    exact (Paired.any h).leaf_met hn

/-- So is what a property needs apart from its overrides. -/
theorem Paired.plainNeeds_met (hfg : StillCopies f g) (owner : Scalar) (key : String) :
    (n : Node) → {m : Node} → {place : List Scalar} → Paired (Added target options) place n m →
      Met ⟨overrides, f⟩ (n.plainNeeds owner key) → Met ⟨overrides, g⟩ (m.plainNeeds owner key)
  | .object _ ps _, _, _, .object _ hproperties, hn => by
    rw [plainNeeds] at hn ⊢
    exact PropertiesPaired.needs_met hfg (.str key) ps hproperties hn
  | .array _ items, _, _, .array _ _ hitems, hn => by
    have hpointer := hitems.ownPointer?
    rw [plainNeeds] at hn ⊢
    generalize items.ownPointer? = p at hpointer hn
    generalize Node.ownPointer? _ = q at hpointer ⊢
    cases hpointer with
    | some hpq => exact pointer_met hfg hpq owner hn
    | none => exact Paired.itemNeeds_met hfg (.str key) items hitems hn
  | .primitive _ _ _, _, _, .primitive h hfacts, hn => by
    rw [plainNeeds, Met, List.forall_mem_singleton] at hn ⊢
    exact (Paired.primitive h hfacts).leaf_met hn
  | .reference _ _, _, _, .reference _ hpointers, hn => by
    rw [plainNeeds] at hn ⊢
    exact pointer_met hfg hpointers owner hn
  | .any _, _, _, .any _, _ => nofun

/-- So is what the properties of an object need. -/
theorem PropertiesPaired.needs_met (hfg : StillCopies f g) (owner : Scalar) :
    (ps : List (String × Node)) →
    {qs : List (String × Node)} → {place : List Scalar} →
      PropertiesPaired (Added target options) place ps qs →
    Met ⟨overrides, f⟩ (propertiesNeeds owner ps) → Met ⟨overrides, g⟩ (propertiesNeeds owner qs)
  | [], _, _, .nil, _ => nofun
  | (key, n) :: rest, _, _, @PropertiesPaired.cons _ _ _ _ m _ qs h hrest, hn => by
    cases hk : reservedNames.contains key with
    | true =>
      rw [propertiesNeeds_cons_reserved owner _ _ hk] at hn ⊢
      exact PropertiesPaired.needs_met hfg owner rest hrest hn
    | false =>
      rw [propertiesNeeds_cons owner _ _ hk] at hn ⊢
      obtain ⟨hproperty, hothers⟩ := List.forall_mem_append.mp hn
      refine List.forall_mem_append.mpr
        ⟨?_, PropertiesPaired.needs_met hfg owner rest hrest hothers⟩
      exact h.property_met (Paired.plainNeeds_met hfg owner key n h) hproperty

end

end Node

end Needs

/-! ## 3. Definitions -/

/-- A copy that is made is one of a definition, and has a level to spend. -/
theorem exists_definition_of_expansion {overrides : OverrideRules} {definitions : Definitions}
    {limit : Int} {levels : Nat} {owner : Scalar} {target : String}
    (h : offence? (expansion overrides definitions limit levels owner target) = none) :
    ∃ rest definition, levels = rest + 1 ∧
      Entries.get? definitions (.str target) = some definition := by
  cases hd : Entries.get? definitions (.str target) with
  | none =>
    rw [expansion_undefined overrides definitions limit levels owner hd] at h
    cases h
  | some definition =>
    cases levels with
    | zero =>
      rw [expansion_zero overrides definitions limit owner hd] at h
      cases h
    | succ rest => exact ⟨rest, definition, rfl, rfl⟩

/-- Whether parts make a schema does not depend on the fields, as long as these have texts for
keys. -/
theorem Schema.exists_ofParts {name : Value} {fields others options : Entries Value}
    {schema : Schema} (h : ofParts name (.map fields) (.map options) = .ok schema)
    (hothers : others.TextKeys) :
    ∃ other, ofParts name (.map others) (.map options) = .ok other := by
  unfold ofParts at h ⊢
  simp only [tableMisfits, Misfit.ofKeys_eq_nil hothers, List.nil_append] at h ⊢
  generalize Misfit.textOf name = text at h ⊢
  cases text with
  | error _ => cases h
  | ok text =>
    cases hoptions : Misfit.ofKeys ["options"] options with
    | nil => exact ⟨_, rfl⟩
    | cons misfit rest =>
      rw [hoptions] at h
      cases hfields : Misfit.ofKeys ["fields"] fields <;> simp [hfields] at h

namespace Definitions.Paired

variable {target : List Scalar} {options : Entries Value} {ds es : Definitions}

/-- Whatever is copied without the override is copied with it. The induction is on the levels
left. -/
theorem stillCopies (h : Definitions.Paired (Node.Added target options) ds es)
    (overrides : OverrideRules) (limit : Int) (levels : Nat) :
    StillCopies (expansion overrides ds limit levels)
    (expansion overrides es limit levels) := by
  induction levels with
  | zero =>
    intro owner t hcopy
    obtain ⟨_, _, hlevels, -⟩ := exists_definition_of_expansion hcopy
    cases hlevels
  | succ levels ih =>
    intro owner t hcopy
    obtain ⟨_, n, -, hn⟩ := exists_definition_of_expansion hcopy
    have hget := h.get? (.str t)
    rw [hn] at hget
    cases hm : Entries.get? es (.str t) with
    | none =>
      rw [hm] at hget
      cases hget
    | some m =>
      rw [hm] at hget
      cases hget with
      | some hnode =>
        obtain ⟨_, -, hpaired, -⟩ := hnode
        rw [expansion_succ overrides ds limit levels owner hn, BuildRules.build_offence?,
          List.findSome?_eq_none_iff, Node.needs_forCopy] at hcopy
        rw [expansion_succ overrides es limit levels owner hm, BuildRules.build_offence?,
          List.findSome?_eq_none_iff, Node.needs_forCopy]
        exact hpaired.needs_met ih (.str t) n hcopy

/-- The fields of a definition compile with the override if they do without. -/
theorem exists_buildFields (h : Definitions.Paired (Node.Added target options) ds es) (c : Compiler)
    {name : Scalar} {n m : Node} {place : List Scalar}
    (hnode : Node.Paired (Node.Added target options) place n m) {fields : Entries Value}
    (hfields : c.buildFields ds name n = .ok fields) :
      ∃ others, c.buildFields es name m = .ok others := by
  rw [← offence?_eq_none_iff]
  have hn := offence?_eq_none_iff.mpr ⟨fields, hfields⟩
  rw [Compiler.buildFields, buildNode, BuildRules.build_offence?,
    List.findSome?_eq_none_iff] at hn ⊢
  exact hnode.needs_met (h.stillCopies _ _ _) name n hn

/-- A schema is made of the fields with the override if one is made of those without. -/
theorem exists_buildSchema (h : Definitions.Paired (Node.Added target options) ds es) (c : Compiler)
    {name : Scalar} {schema : Schema} (hschema : c.buildSchema ds name = .ok schema) :
      ∃ other, c.buildSchema es name = .ok other := by
  have hget := h.get? name
  unfold Compiler.buildSchema at hschema ⊢
  generalize Entries.get? ds name = d at hget hschema
  generalize Entries.get? es name = e at hget ⊢
  cases hget with
  | none => cases hschema
  | @some n m hnode =>
    obtain ⟨_, -, hpaired, hextension⟩ := hnode
    obtain ⟨fields, hfields, hparts⟩ := Outcome.bind_eq_ok_iff.mp hschema
    rw [Outcome.mapError_eq_ok_iff] at hfields hparts
    obtain ⟨others, hothers⟩ := h.exists_buildFields c hpaired hfields
    have htexts : others.TextKeys := buildNode_textKeys c.overrides es hothers
    have hsame : Compiler.options m = Compiler.options n := by
      rw [Compiler.options, Compiler.options, hextension]
    obtain ⟨other, hother⟩ := Schema.exists_ofParts hparts htexts
    refine ⟨other, Outcome.bind_eq_ok_iff.mpr ⟨others, Outcome.mapError_eq_ok_iff.mpr hothers, ?_⟩⟩
    rw [Outcome.mapError_eq_ok_iff, hsame, hother]

/-- Schemas are added to others with the override if they are without, whatever the others are. -/
theorem exists_buildInto (h : Definitions.Paired (Node.Added target options) ds es) (c : Compiler)
    {names : List Scalar} {given made : Entries Schema}
    (hmade : c.buildInto ds given names = .ok made) (given' : Entries Schema) :
    ∃ others, c.buildInto es given' names = .ok others := by
  induction names generalizing given given' with
  | nil => exact ⟨given', rfl⟩
  | cons name rest ih =>
    obtain ⟨schema, hschema, hrest⟩ := Outcome.bind_eq_ok_iff.mp hmade
    obtain ⟨other, hother⟩ := h.exists_buildSchema c hschema
    obtain ⟨others, hothers⟩ := ih hrest (given'.insert name other)
    exact ⟨others, Outcome.bind_eq_ok_iff.mpr ⟨other, hother, hothers⟩⟩

/-- **Definitions compile with the override** if they do without. -/
theorem exists_buildSchemas (h : Definitions.Paired (Node.Added target options) ds es)
    (c : Compiler) {schemas : Entries Schema} (hschemas : c.buildSchemas ds none = .ok schemas) :
    ∃ others, c.buildSchemas es none = .ok others := by
  unfold Compiler.buildSchemas at hschemas ⊢
  rw [← h.keys]
  exact h.exists_buildInto c hschemas []

end Definitions.Paired

end ApiStore
