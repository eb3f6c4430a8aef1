import ApiStore.Proofs.Build.Limit
import ApiStore.Proofs.Outcome
import Mathlib.Data.List.Chain
import Mathlib.Logic.Relation
/-
`Chain.lean` -- how many copies have to be nested.

A definition *embeds* another one if compiling it asks for a copy of the other. Where
nothing else can go wrong, the limit is met exactly if some chain of definitions that
embed each other is longer than the limit: a copy with `n` levels left meets the limit if
and only if a chain of `n` steps starts at its target (`Definitions.Sound.expansion_failsAtLimit`).
The owner against which pointers are circular changes on the way down into a node as well
as from copy to copy. The needs of a node carry it along, so nothing is left of it here.

What can go wrong otherwise is a need that is not sound: a leaf without a storage type, an
override without a payload, a pointer that cannot be read or names no definition.
-/
set_option autoImplicit false

namespace ApiStore

/-! ## 1. Chains of a given length -/

/-- A chain of `n` steps starts at `a`. -/
def HasChain {α : Type} (r : α → α → Prop) (a : α) (n : Nat) : Prop :=
  ∃ l, List.IsChain r (a :: l) ∧ l.length = n

namespace HasChain

variable {α : Type} {r : α → α → Prop} {a b : α} {n k : Nat}

/-- There is always a chain of no steps. -/
theorem zero (a : α) : HasChain r a 0 := ⟨[], List.isChain_singleton a, rfl⟩

/-- A longer chain is a step, and a chain from there. -/
theorem succ_iff : HasChain r a (n + 1) ↔ ∃ b, r a b ∧ HasChain r b n := by
  constructor
  · rintro ⟨l, hl, hlen⟩
    cases l with
    | nil => cases hlen
    | cons b l =>
      obtain ⟨hab, hb⟩ := List.isChain_cons_cons.mp hl
      exact ⟨b, hab, l, hb, Nat.succ.inj hlen⟩
  · rintro ⟨b, hab, l, hl, hlen⟩
    exact ⟨b :: l, List.isChain_cons_cons.mpr ⟨hab, hl⟩, by rw [List.length_cons, hlen]⟩

/-- A chain may be cut short. -/
theorem of_le (h : HasChain r a n) (hk : k ≤ n) : HasChain r a k := by
  obtain ⟨l, hl, hlen⟩ := h
  refine ⟨l.take k, ?_, by rw [List.length_take]; omega⟩
  rw [← List.take_succ_cons]
  exact hl.take (k + 1)

/-- What leads to the start of a chain has a chain as long. -/
theorem of_reflTransGen (hab : Relation.ReflTransGen r a b) (h : HasChain r b n) :
    HasChain r a n := by
  induction hab using Relation.ReflTransGen.head_induction_on with
  | refl => exact h
  | head hac _ ih => exact (succ_iff.mpr ⟨_, hac, ih⟩).of_le (Nat.le_succ n)

/-- From a cycle start chains of every length. -/
theorem of_cycle (h : Relation.TransGen r a a) (n : Nat) : HasChain r a n := by
  obtain ⟨b, hab, hba⟩ := Relation.TransGen.head'_iff.mp h
  induction n with
  | zero => exact zero a
  | succ n ih => exact succ_iff.mpr ⟨b, hab, ih.of_reflTransGen hba⟩

end HasChain

/-! ## 2. Soundness -/

/-- Nothing but the limit stands in the way of a need: a leaf has a storage type, an override has a
payload, and a pointer names a definition. -/
def Need.Sound (overrides : OverrideRules) (definitions : Definitions) : Need → Prop
  | .leaf node => ∃ type, leafType node = .ok type
  | .payload node => ∃ payload, overrides.resolve node = .ok payload
  | .pointer _ p =>
    ∃ target definition, Pointer.parse? p = some target ∧
      Entries.get? definitions (.str target) = some definition

instance (overrides : OverrideRules) (definitions : Definitions) (need : Need) :
    Decidable (need.Sound overrides definitions) :=
  match need with
  | .leaf node => decidable_of_iff ((leafType node).isOk = true) Outcome.isOk_iff
  | .payload node => decidable_of_iff ((overrides.resolve node).isOk = true) Outcome.isOk_iff
  | .pointer _ p =>
    decidable_of_iff (((Pointer.parse? p).bind fun target => Entries.get? definitions
      (.str target)).isSome = true) (by
      rw [Option.isSome_iff_exists]
      simp only [Option.bind_eq_some_iff, Need.Sound]
      exact exists_comm)

/-- Everything that compiling a definition depends on is sound. -/
def Definitions.Sound (overrides : OverrideRules) (definitions : Definitions) : Prop :=
  ∀ name node, Entries.get? definitions name = some node →
    ∀ need ∈ node.needs name, need.Sound overrides definitions

/-- Definitions under texts are sound if each of them is. -/
theorem Definitions.sound_of_textKeys {overrides : OverrideRules} {definitions : Definitions}
    (h : definitions.TextKeys)
    (hs : ∀ entry ∈ definitions, ∀ need ∈ entry.2.needs entry.1, need.Sound overrides definitions) :
    definitions.Sound overrides :=
  fun _ _ hn => hs _ (h.mem_of_get? hn)

/-- A definition embeds another one: compiling it asks for a copy of the other. -/
def Definitions.Embeds (definitions : Definitions) (name target : Scalar) : Prop :=
  ∃ node owner t, Entries.get? definitions name = some node ∧ (owner, t) ∈ node.copies name ∧
    target = .str t

/-- No chain of definitions that starts at a name has more steps than a limit. -/
def Definitions.ChainsWithin (definitions : Definitions) (limit : Int) (name : Scalar) : Prop :=
  ∀ l, List.IsChain definitions.Embeds (name :: l) → (l.length : Int) ≤ limit

/-- The only offence of a sound need is that of the copy it asks for. -/
theorem Need.Sound.offence? {rules : BuildRules} {definitions : Definitions} {need : Need}
    {e : CompileError} (h : need.Sound rules.overrides definitions)
    (he : need.offence? rules = some e) :
    ∃ owner target, need.copy? = some (owner, target) ∧
      ApiStore.offence? (rules.expand owner target) = some e := by
  cases need with
  | leaf node =>
    obtain ⟨type, htype⟩ := h
    simp [Need.offence?, htype] at he
  | payload node =>
    obtain ⟨payload, hpayload⟩ := h
    simp [Need.offence?, hpayload] at he
  | pointer owner p =>
    obtain ⟨target, -, hp, -⟩ := h
    simp only [Need.offence?, hp] at he
    split at he
    · cases he
    · refine ⟨owner, target, ?_, he⟩
      simp only [Need.copy?, hp]
      rw [if_neg ‹_›]

/-- The target of a copy that a sound need asks for is a definition. -/
theorem Need.Sound.exists_definition {overrides : OverrideRules} {definitions : Definitions}
    {need : Need} {owner : Scalar} {target : String} (h : need.Sound overrides definitions)
    (hc : need.copy? = some (owner, target)) :
    ∃ definition, Entries.get? definitions (.str target) = some definition := by
  cases need with
  | leaf _ => cases hc
  | payload _ => cases hc
  | pointer o p =>
    obtain ⟨t, definition, hp, hd⟩ := h
    simp only [Need.copy?, hp] at hc
    split at hc
    · cases hc
    · cases hc
      exact ⟨definition, hd⟩

/-! ## 3. Sound nodes -/

/-- An outcome that is a failure for the limit if `p` holds, and a success if not. -/
def FailsAtLimit {α : Type} (x : Except CompileError α) (p : Prop) : Prop :=
  (∃ a, x = .ok a) ∧ ¬ p ∨ MeetsLimit x ∧ p

namespace FailsAtLimit

variable {α : Type} {x : Except CompileError α} {p q : Prop}

/-- What fails at the limit under a condition does so under any that is equivalent. -/
theorem congr (h : FailsAtLimit x p) (hpq : p ↔ q) : FailsAtLimit x q := by
  rwa [FailsAtLimit, ← hpq]

/-- It meets the limit exactly under the condition. -/
theorem meetsLimit_iff (h : FailsAtLimit x p) : MeetsLimit x ↔ p := by
  rcases h with ⟨⟨a, rfl⟩, hp⟩ | ⟨hx, hp⟩
  · refine iff_of_false ?_ hp
    rintro ⟨e, he, -⟩
    cases he
  · exact iff_of_true hx hp

/-- It compiles exactly without it. -/
theorem isOk_iff (h : FailsAtLimit x p) : (∃ a, x = .ok a) ↔ ¬ p := by
  rcases h with ⟨hx, hp⟩ | ⟨⟨e, rfl, he⟩, hp⟩
  · exact iff_of_true hx hp
  · refine iff_of_false ?_ (not_not_intro hp)
    rintro ⟨a, ha⟩
    cases ha

end FailsAtLimit

namespace BuildRules

variable {rules : BuildRules} {definitions : Definitions} {owner : Scalar} {node : Node}

/-- A sound node fails with the offence of a copy that it asks for. -/
theorem exists_copy_of_offence?
    (hs : ∀ need ∈ node.needs owner, need.Sound rules.overrides definitions) {e : CompileError}
    (he : offence? (rules.build owner node) = some e) :
    ∃ o t, (o, t) ∈ node.copies owner ∧ offence? (rules.expand o t) = some e := by
  rw [build_offence?] at he
  obtain ⟨need, hmem, hneed⟩ := List.exists_of_findSome?_eq_some he
  obtain ⟨o, t, hc, ht⟩ := (hs need hmem).offence? hneed
  exact ⟨o, t, List.mem_filterMap.mpr ⟨need, hmem, hc⟩, ht⟩

/-- **A sound node meets the limit if a copy does that it asks for**, and compiles otherwise,
provided that copies fail in no other way. -/
theorem build_of_sound (hs : ∀ need ∈ node.needs owner, need.Sound rules.overrides definitions)
    {P : Scalar → String → Prop}
    (hx : ∀ o t, (o, t) ∈ node.copies owner → FailsAtLimit (rules.expand o t) (P o t)) :
    FailsAtLimit (rules.build owner node) (∃ o t, (o, t) ∈ node.copies owner ∧ P o t) := by
  cases hb : rules.build owner node with
  | ok fields =>
    refine .inl ⟨⟨fields, rfl⟩, ?_⟩
    rintro ⟨o, t, hmem, hP⟩
    obtain ⟨copy, hcopy⟩ := expand_eq_ok_of_build hb hmem
    rcases hx o t hmem with ⟨-, hnot⟩ | ⟨⟨e, he, -⟩, -⟩
    · exact hnot hP
    · rw [hcopy] at he
      cases he
  | error e =>
    have he : offence? (rules.build owner node) = some e.innermost := by rw [hb, offence?_error]
    obtain ⟨o, t, hmem, ht⟩ := exists_copy_of_offence? hs he
    rcases hx o t hmem with ⟨⟨copy, hcopy⟩, -⟩ | ⟨hmeets, hP⟩
    · rw [hcopy] at ht
      cases ht
    · obtain ⟨e', he', hdeep⟩ := meetsLimit_iff_offence?.mp hmeets
      rw [ht] at he'
      cases he'
      rw [CompileError.isTooDeep_innermost] at hdeep
      exact .inr ⟨⟨e, rfl, hdeep⟩, o, t, hmem, hP⟩

end BuildRules

/-! ## 4. Sound definitions -/

section SoundDefinitions

variable {overrides : OverrideRules} {definitions : Definitions}

/-- A sound definition asks only for copies of definitions. -/
theorem Definitions.Sound.exists_definition (hs : Definitions.Sound overrides definitions)
    {name owner : Scalar} {node : Node} {target : String}
    (hn : Entries.get? definitions name = some node) (hc : (owner, target) ∈ node.copies name) :
    ∃ definition, Entries.get? definitions (.str target) = some definition := by
  obtain ⟨need, hmem, hneed⟩ := List.mem_filterMap.mp hc
  exact (hs name node hn need hmem).exists_definition hneed

/-- The needs of a sound definition, met by copies that meet the limit exactly for long chains. -/
theorem Definitions.Sound.build_failsAtLimit (hs : Definitions.Sound overrides definitions)
    {limit : Int} {n : Nat}
    (hx : ∀ owner target definition, Entries.get? definitions (.str target) = some definition →
      FailsAtLimit (expansion overrides definitions limit n owner target)
      (HasChain definitions.Embeds (.str target) n))
    {name : Scalar} {node form : Node} (hn : Entries.get? definitions name = some node)
    (hform : form.needs name = node.needs name) :
    FailsAtLimit (BuildRules.build ⟨overrides, expansion overrides definitions limit n⟩ name form)
      (HasChain definitions.Embeds name (n + 1)) := by
  have hcopies : form.copies name = node.copies name := by rw [Node.copies, hform, Node.copies]
  have hbuild : FailsAtLimit (BuildRules.build
    ⟨overrides, expansion overrides definitions limit n⟩ name form)
      (∃ o t, (o, t) ∈ form.copies name ∧ HasChain definitions.Embeds (.str t) n) := by
    refine BuildRules.build_of_sound (hform ▸ hs name node hn) fun o t hc => ?_
    obtain ⟨definition, hd⟩ := hs.exists_definition hn (hcopies ▸ hc)
    exact hx o t definition hd
  refine hbuild.congr ?_
  rw [HasChain.succ_iff, hcopies]
  constructor
  · rintro ⟨o, t, hc, hchain⟩
    exact ⟨.str t, ⟨node, o, t, hn, hc, rfl⟩, hchain⟩
  · rintro ⟨target, ⟨node', o, t, hn', hc, rfl⟩, hchain⟩
    obtain rfl : node = node' := Option.some.inj (hn.symm.trans hn')
    exact ⟨o, t, hc, hchain⟩

/-- A copy with `n` levels left meets the limit if and only if a chain of `n` steps starts at its
target. The induction is on the levels, since each copy has one less for the copies inside it. -/
theorem Definitions.Sound.expansion_failsAtLimit (hs : Definitions.Sound overrides definitions)
    (limit : Int) (n : Nat) (owner : Scalar) {target : String} {definition : Node}
    (hd : Entries.get? definitions (.str target) = some definition) :
    FailsAtLimit (expansion overrides definitions limit n owner target)
      (HasChain definitions.Embeds (.str target) n) := by
  induction n generalizing owner target definition with
  | zero =>
    rw [expansion_zero overrides definitions limit owner hd]
    exact .inr ⟨.tooDeep target limit owner, .zero _⟩
  | succ n ih =>
    rw [expansion_succ overrides definitions limit n owner hd]
    exact hs.build_failsAtLimit (fun o t definition hd => ih o hd) hd (Node.needs_forCopy _ _)

end SoundDefinitions

/-! ## 5. The limit and the longest chain -/

/-- **A sound definition compiles if and only if no chain that starts at it is longer than the
limit**, and otherwise the limit is why it does not. From a definition that leads to a cycle start
chains of every length, so it meets every limit. -/
theorem buildNode_isOk_iff_chains_le {overrides : OverrideRules} {definitions : Definitions}
    (hs : definitions.Sound overrides) {name : Scalar} {node : Node}
    (hn : Entries.get? definitions name = some node) {limit : Int} (hl : 1 ≤ limit) :
    ((∃ fields, buildNode overrides definitions ⟨name, 0, limit⟩ node = .ok fields) ↔
        definitions.ChainsWithin limit name) ∧
      (¬ definitions.ChainsWithin limit name →
        MeetsLimit (buildNode overrides definitions ⟨name, 0, limit⟩ node)) ∧
      ((∃ target, Relation.ReflTransGen definitions.Embeds name target ∧
        Relation.TransGen definitions.Embeds target target) →
        MeetsLimit (buildNode overrides definitions ⟨name, 0, limit⟩ node)) := by
  have hfails : FailsAtLimit (buildNode overrides definitions ⟨name, 0, limit⟩ node)
      (HasChain definitions.Embeds name ((limit - 0).toNat + 1)) :=
    hs.build_failsAtLimit (fun o t definition hd => hs.expansion_failsAtLimit limit _ o hd) hn rfl
  have hlong : HasChain definitions.Embeds name ((limit - 0).toNat + 1) ↔
      ¬ definitions.ChainsWithin limit name := by
    constructor
    · rintro ⟨l, hl', hlen⟩ hall
      have hle := hall l hl'
      omega
    · intro hall
      unfold Definitions.ChainsWithin at hall
      push Not at hall
      obtain ⟨l, hl', hlen⟩ := hall
      exact HasChain.of_le ⟨l, hl', rfl⟩ (by omega)
  have hiff := hfails.congr hlong
  refine ⟨?_, hiff.meetsLimit_iff.mpr, ?_⟩
  · rw [hiff.isOk_iff, not_not]
  · rintro ⟨target, hreach, hcycle⟩
    exact hfails.meetsLimit_iff.mpr ((HasChain.of_cycle hcycle _).of_reflTransGen hreach)

/-- An order that is delivered to an address. -/
def Sample.parcel : Node :=
  record [("delivery", record [("address", link "#/definitions/Address")] [])] []

/-- The order with its address, which is in a city and may be within another address. -/
def Sample.delivery : Definitions :=
  [(.str "Order", parcel),
    (.str "Address", record [("city", link "#/definitions/City"),
      ("within", link "#/definitions/Address")] []),
    (.str "City", record [("name", leaf "string")] [])]

/-- From the order to the city are two steps, and the address within itself is none. -/
theorem buildNode_isOk_delivery :
    Sample.delivery.Sound Sample.settings ∧
      Entries.get? Sample.delivery (.str "Order") = some Sample.parcel ∧
      (1 : Int) ≤ 2 ∧
      (∃ fields, buildNode Sample.settings Sample.delivery ⟨.str "Order", 0, 2⟩ Sample.parcel =
        .ok fields) ∧
      Sample.delivery.ChainsWithin 2 (.str "Order") := by
  have hs : Sample.delivery.Sound Sample.settings :=
    Definitions.sound_of_textKeys (by simp [Sample.delivery, Entries.TextKeys]) (by decide)
  have hok : ∃ fields, buildNode Sample.settings Sample.delivery
      ⟨.str "Order", 0, 2⟩ Sample.parcel = .ok fields :=
    Outcome.isOk_iff.mp (by decide)
  exact ⟨hs, rfl, by decide, hok, (buildNode_isOk_iff_chains_le hs rfl (by decide)).1.mp hok⟩

end ApiStore
