import ApiStore.Config
import ApiStore.Proofs.Build.Agreement
import ApiStore.Proofs.Entries
import Mathlib.Data.Finset.Card
import Mathlib.Order.Monotone.Basic
/-
`Limit.lean` -- what the limit on nested copies does to an outcome.

A compilation that runs into the limit ends in an error whose root cause says so; the
outcome *meets the limit*. Two laws follow from how copies are made.

**Raising the limit changes nothing else.** An outcome that does not meet the limit is the
outcome under every larger limit (`buildNode_eq_of_limit_le`). Under the smaller limit each
copy either meets the limit or is what it is under the larger one, and that is a relation
which the walk over a node respects.

**Raising it beyond the number of definitions helps no one.** Say that a definition has
*height* `k` if its copy meets the limit with `k` levels left and no longer does with one
more. A node that needs exactly `k + 1` levels asks for a copy of height `k`, that one asks
for a copy of height `k - 1`, and so on down to zero. No definition has two heights, so a
node that can be compiled at all needs no more levels than there are definitions. No cycle
has to be found for this, and other errors in the map cannot get in the way.
-/
set_option autoImplicit false

namespace ApiStore

/-! ## 1. Outcomes that meet the limit -/

/-- Whether the root cause of an error is that references are nested too deeply. -/
def CompileError.isTooDeep (e : CompileError) : Bool :=
  match e.root with
  | .compile cause => cause.kind == .recursionLimitExceeded
  | .fault _ => false

/-- The root cause of an error is that of its innermost error. -/
@[simp] theorem CompileError.isTooDeep_innermost (e : CompileError) :
    e.innermost.isTooDeep = e.isTooDeep := by
  induction e with
  | property key node cause ih => exact ih
  | _ => rfl

/-- Whether an outcome is a failure whose root cause is the limit. -/
def MeetsLimit {α : Type} (x : Except CompileError α) : Prop :=
  ∃ e, x = .error e ∧ e.isTooDeep = true

instance {α : Type} (x : Except CompileError α) : Decidable (MeetsLimit x) :=
  match x with
  | .ok _ => isFalse fun ⟨_, h, _⟩ => nomatch h
  | .error e => decidable_of_iff (e.isTooDeep = true) (by simp [MeetsLimit])

namespace MeetsLimit

variable {α β : Type} {x : Except CompileError α}

theorem tooDeep (target : String) (limit : Int) (owner : Scalar) :
    MeetsLimit (.error (.tooDeep target limit owner) : Except CompileError α) := ⟨_, rfl, rfl⟩

theorem bind (h : MeetsLimit x) (f : α → Except CompileError β) : MeetsLimit (x >>= f) := by
  obtain ⟨e, rfl, he⟩ := h
  exact ⟨e, rfl, he⟩

/-- A report under a property has the root cause of what it reports. -/
theorem property (h : MeetsLimit x) (key : Scalar) (node : Value) :
    MeetsLimit (x.mapError (.property key node)) := by
  obtain ⟨e, rfl, he⟩ := h
  exact ⟨.property key node e, rfl, he⟩

end MeetsLimit

theorem meetsLimit_iff_offence? {α : Type} {x : Except CompileError α} :
    MeetsLimit x ↔ ∃ e, offence? x = some e ∧ e.isTooDeep = true := by
  cases x <;> simp [MeetsLimit]

namespace Agreement

/-- The first outcome meets the limit, or it is the second. -/
def cutShort : Agreement where
  Holds x y := MeetsLimit x ∨ x = y
  refl _ := .inr rfl
  bind := by
    rintro _ _ x y f g (hx | rfl) hfg
    · exact .inl (hx.bind f)
    · cases x with
      | ok a => exact hfg a
      | error e => exact .inr rfl
  property := by
    rintro _ x y key node (hx | rfl)
    · exact .inl (hx.property key node)
    · exact .inr rfl

/-- The outcomes are the same, or both meet the limit. -/
def alike : Agreement where
  Holds x y := x = y ∨ MeetsLimit x ∧ MeetsLimit y
  refl _ := .inl rfl
  bind := by
    rintro _ _ x y f g (rfl | ⟨hx, hy⟩) hfg
    · cases x with
      | ok a => exact hfg a
      | error e => exact .inl rfl
    · exact .inr ⟨hx.bind f, hy.bind g⟩
  property := by
    rintro _ x y key node (rfl | ⟨hx, hy⟩)
    · exact .inl rfl
    · exact .inr ⟨hx.property key node, hy.property key node⟩

theorem alike.iff {α : Type} {x y : Except CompileError α} (h : alike.Holds x y) :
    MeetsLimit x ↔ MeetsLimit y := by
  rcases h with rfl | ⟨hx, hy⟩
  · exact Iff.rfl
  · exact iff_of_true hx hy

end Agreement

/-! ## 2. Copies -/

section Expansion

variable (overrides : OverrideRules) (definitions : Definitions) (limit : Int) (n : Nat)
  (owner : Scalar) {target : String} {definition : Node}

theorem expansion_undefined (h : Entries.get? definitions (.str target) = none) :
    expansion overrides definitions limit n owner target = .error (.undefinedTarget target) := by
  rw [expansion, h]

theorem expansion_zero (h : Entries.get? definitions (.str target) = some definition) :
    expansion overrides definitions limit 0 owner target =
      .error (.tooDeep target limit owner) := by
  rw [expansion, h]

theorem expansion_succ (h : Entries.get? definitions (.str target) = some definition) :
    expansion overrides definitions limit (n + 1) owner target =
      BuildRules.build { overrides := overrides, expand := expansion overrides definitions limit n }
        (.str target) definition.forCopy := by
  rw [expansion, h]

end Expansion

/-- Two copies of one target agree if all payloads agree, and all copies that are made one level
further down. -/
theorem expansion_succ_agrees_of_payloads (R : Agreement) {o p : OverrideRules}
    (hpayloads : R.Payloads o p) (definitions : Definitions) {limit limit' : Int} {n m : Nat}
    (h : ∀ owner target, R.Holds (expansion o definitions limit n owner target)
      (expansion p definitions limit' m owner target))
    (owner owner' : Scalar) (target : String) :
    R.Holds (expansion o definitions limit (n + 1) owner target)
      (expansion p definitions limit' (m + 1) owner' target) := by
  cases hd : Entries.get? definitions (.str target) with
  | none =>
    rw [expansion_undefined o definitions limit (n + 1) owner hd,
      expansion_undefined p definitions limit' (m + 1) owner' hd]
    exact R.refl _
  | some definition =>
    rw [expansion_succ o definitions limit n owner hd,
      expansion_succ p definitions limit' m owner' hd]
    exact BuildRules.build_agrees_of_payloads R hpayloads (.str target) definition.forCopy
      fun _ _ o t _ => h o t

section Levels

variable (overrides : OverrideRules) (definitions : Definitions)

/-- Two copies of one target agree if all copies agree that are made one level further down. -/
theorem expansion_succ_agrees (R : Agreement) {limit limit' : Int} {n m : Nat}
    (h : ∀ owner target, R.Holds (expansion overrides definitions limit n owner target)
      (expansion overrides definitions limit' m owner target))
    (owner owner' : Scalar) (target : String) :
    R.Holds (expansion overrides definitions limit (n + 1) owner target)
      (expansion overrides definitions limit' (m + 1) owner' target) :=
  expansion_succ_agrees_of_payloads R (R.payloads_refl _) definitions h owner owner' target

/-- With fewer levels left, a copy is cut short or the same. -/
theorem expansion_cutShort (limit limit' : Int) {n m : Nat} (h : n ≤ m) (owner : Scalar)
    (target : String) :
    Agreement.cutShort.Holds (expansion overrides definitions limit n owner target)
      (expansion overrides definitions limit' m owner target) := by
  induction n generalizing m owner target with
  | zero =>
    cases hd : Entries.get? definitions (.str target) with
    | none =>
      rw [expansion_undefined overrides definitions limit 0 owner hd,
        expansion_undefined overrides definitions limit' m owner hd]
      exact .inr rfl
    | some definition =>
      rw [expansion_zero overrides definitions limit owner hd]
      exact .inl (.tooDeep target limit owner)
  | succ n ih =>
    obtain ⟨m, rfl⟩ : ∃ k, m = k + 1 := ⟨m - 1, by omega⟩
    exact expansion_succ_agrees overrides definitions .cutShort (ih (by omega)) owner owner target

/-- Whether a copy meets the limit depends on the levels left and on the target, not on who asks or
on what the report would call the limit. -/
theorem expansion_alike (limit limit' : Int) (n : Nat) (owner owner' : Scalar) (target : String) :
    Agreement.alike.Holds (expansion overrides definitions limit n owner target)
      (expansion overrides definitions limit' n owner' target) := by
  induction n generalizing owner owner' target with
  | zero =>
    cases hd : Entries.get? definitions (.str target) with
    | none =>
      rw [expansion_undefined overrides definitions limit 0 owner hd,
        expansion_undefined overrides definitions limit' 0 owner' hd]
      exact .inl rfl
    | some definition =>
      rw [expansion_zero overrides definitions limit owner hd,
        expansion_zero overrides definitions limit' owner' hd]
      exact .inr ⟨.tooDeep target limit owner, .tooDeep target limit' owner'⟩
  | succ n ih =>
    exact expansion_succ_agrees overrides definitions .alike
      (fun o t => ih o o t) owner owner' target

/-- A node with `n` levels of copies left below it. -/
def buildWithin (n : Nat) (owner : Scalar) (node : Node) : Except CompileError (Entries Value) :=
  BuildRules.build { overrides := overrides, expand := expansion overrides definitions 0 n } owner
    node

/-- So whether a node meets the limit depends on the levels left below it alone. -/
theorem buildNode_meetsLimit_iff (start : BuildStart) (node : Node) :
    MeetsLimit (buildNode overrides definitions start node) ↔
      MeetsLimit (buildWithin overrides definitions
        (start.limit - start.depth).toNat start.owner node) := by
  refine Agreement.alike.iff (BuildRules.build_agrees Agreement.alike overrides start.owner node ?_)
  exact fun _ _ o t _ => expansion_alike overrides definitions start.limit 0 _ o o t

/-! ## 3. Raising the limit -/

/-- Under a smaller limit, a node is cut short or the same. -/
theorem buildNode_cutShort (node : Node) (owner : Scalar) (depth : Int) {n m : Int} (hnm : n ≤ m) :
    Agreement.cutShort.Holds (buildNode overrides definitions ⟨owner, depth, n⟩ node)
      (buildNode overrides definitions ⟨owner, depth, m⟩ node) := by
  have hle : (n - depth).toNat ≤ (m - depth).toNat := by omega
  exact BuildRules.build_agrees Agreement.cutShort overrides owner node
    fun _ _ o t _ => expansion_cutShort overrides definitions n m hle o t

/-- **Raising the limit changes nothing but failures for the limit**: whatever else a compilation
ends in, value or error, it ends in under every larger limit. -/
theorem buildNode_eq_of_limit_le (node : Node) (owner : Scalar) (depth : Int) {n m : Int}
    (hnm : n ≤ m) (h : ¬ MeetsLimit (buildNode overrides definitions ⟨owner, depth, n⟩ node)) :
    buildNode overrides definitions ⟨owner, depth, m⟩ node =
      buildNode overrides definitions ⟨owner, depth, n⟩ node := by
  rcases buildNode_cutShort overrides definitions node owner depth hnm with hmeets | heq
  · exact absurd hmeets h
  · exact heq.symm

namespace Sample

/-- A leaf of a type. -/
def leaf (type : String) : Node := .primitive Node.empty.facts type none

/-- A reference. -/
def link (pointer : String) : Node := .reference Node.empty.facts pointer

/-- An object. -/
def record (properties : List (String × Node)) (required : List String) : Node :=
  .object Node.empty.facts properties required

/-- No names of types but the initial ones. -/
def settings : OverrideRules := { types := .initial, key := defaultExtensionKey }

def order : Node := record [("customer", link "#/definitions/Customer")] ["customer"]

/-- An order and its customer, whose name has a type that does not exist. -/
def misspelled : Definitions :=
  [(.str "Order", order), (.str "Customer", record [("name", leaf "text")] [])]

/-- An order and its customer, who has a last order. -/
def circle : Definitions :=
  [(.str "Order", order), (.str "Customer", record [("last", link "#/definitions/Order")] [])]

end Sample

/-- The unknown type is reported under the limit that is just large enough, and so under a larger
one. -/
theorem buildNode_eq_misspelled :
    (1 : Int) ≤ 5 ∧
      ¬ MeetsLimit
        (buildNode Sample.settings Sample.misspelled ⟨.str "Order", 0, 1⟩ Sample.order) ∧
      buildNode Sample.settings Sample.misspelled ⟨.str "Order", 0, 5⟩ Sample.order =
        buildNode Sample.settings Sample.misspelled ⟨.str "Order", 0, 1⟩ Sample.order :=
  ⟨by decide, by decide, buildNode_eq_of_limit_le Sample.settings Sample.misspelled Sample.order
    (.str "Order") 0 (by decide) (by decide)⟩

/-! ## 4. Heights -/

/-- A node whose outcome meets the limit with some copies and no longer with others asks for a copy
of which the same is true, provided that the first copies are the others cut short. -/
theorem exists_copy_of_meetsLimit {f g : Scalar → String → Except CompileError (Entries Value)}
    (hfg : ∀ owner target, Agreement.cutShort.Holds (f owner target) (g owner target))
    {owner : Scalar} {node : Node} (hf : MeetsLimit (BuildRules.build ⟨overrides, f⟩ owner node))
    (hg : ¬ MeetsLimit (BuildRules.build ⟨overrides, g⟩ owner node)) :
    ∃ o t, MeetsLimit (f o t) ∧ ¬ MeetsLimit (g o t) := by
  by_contra hnone
  push Not at hnone
  have hagree : ∀ o t, Agreement.alike.Holds (f o t) (g o t) := by
    intro o t
    rcases hfg o t with hmeets | heq
    · exact .inr ⟨hmeets, hnone o t hmeets⟩
    · exact .inl heq
  exact hg ((Agreement.alike.iff (BuildRules.build_agrees .alike overrides owner node
    fun _ _ o t _ => hagree o t)).mp hf)

/-- A target has height `n` if its copy meets the limit with `n` levels left, and not with one
more. -/
def HasHeight (n : Nat) (target : String) : Prop :=
  MeetsLimit (expansion overrides definitions 0 n .null target) ∧
    ¬ MeetsLimit (expansion overrides definitions 0 (n + 1) .null target)

/-- A node that needs exactly `n + 1` levels asks for a target of height `n`. -/
theorem exists_hasHeight {n : Nat} {owner : Scalar} {node : Node}
    (hn : MeetsLimit (buildWithin overrides definitions n owner node))
    (hs : ¬ MeetsLimit (buildWithin overrides definitions (n + 1) owner node)) :
    ∃ target, HasHeight overrides definitions n target := by
  obtain ⟨o, t, hmeets, hnot⟩ := exists_copy_of_meetsLimit overrides
    (expansion_cutShort overrides definitions 0 0 (Nat.le_succ n)) hn hs
  refine ⟨t, ?_, ?_⟩
  · exact (Agreement.alike.iff (expansion_alike overrides definitions 0 0 n o .null t)).mp hmeets
  · exact fun h => hnot
      ((Agreement.alike.iff (expansion_alike overrides definitions 0 0 (n + 1) o .null t)).mpr h)

namespace HasHeight

variable {overrides definitions}

/-- Only definitions have a height. -/
theorem exists_definition {n : Nat} {target : String}
    (h : HasHeight overrides definitions n target) :
    ∃ definition, Entries.get? definitions (.str target) = some definition := by
  cases hd : Entries.get? definitions (.str target) with
  | none =>
    obtain ⟨e, he, htoo⟩ := h.1
    rw [expansion_undefined overrides definitions 0 n .null hd] at he
    cases he
    cases htoo
  | some definition => exact ⟨definition, rfl⟩

/-- Below a target of height `n + 1` there is one of height `n`. -/
theorem pred {n : Nat} {target : String} (h : HasHeight overrides definitions (n + 1) target) :
    ∃ lower, HasHeight overrides definitions n lower := by
  obtain ⟨definition, hd⟩ := h.exists_definition
  have ⟨hmeets, hnot⟩ := h
  rw [expansion_succ overrides definitions 0 _ .null hd] at hmeets hnot
  exact exists_hasHeight overrides definitions hmeets hnot

/-- So there is a target of every height up to that of a given one. -/
theorem exists_of_le {n k : Nat} {target : String} (h : HasHeight overrides definitions n target)
    (hk : k ≤ n) :
    ∃ lower, HasHeight overrides definitions k lower := by
  induction n generalizing target with
  | zero =>
    obtain rfl : k = 0 := by omega
    exact ⟨target, h⟩
  | succ n ih =>
    rcases Nat.lt_or_eq_of_le hk with hlt | rfl
    · obtain ⟨lower, hlower⟩ := h.pred
      exact ih hlower (by omega)
    · exact ⟨target, h⟩

theorem le {n k : Nat} {target : String} (hn : HasHeight overrides definitions n target)
    (hk : HasHeight overrides definitions k target) : k ≤ n := by
  by_contra hlt
  have hcut := expansion_cutShort overrides definitions 0 0 (by omega : n + 1 ≤ k) .null target
  rcases hcut with hmeets | heq
  · exact hn.2 hmeets
  · exact hn.2 (heq ▸ hk.1)

/-- No target has two heights. -/
theorem unique {n k : Nat} {target : String} (hn : HasHeight overrides definitions n target)
    (hk : HasHeight overrides definitions k target) : n = k := le_antisymm (hk.le hn) (hn.le hk)

/-- A height is less than the number of definitions: the targets of all heights up to it are
different definitions. -/
theorem lt_length {n : Nat} {target : String} (h : HasHeight overrides definitions n target) :
    n < definitions.length := by
  have hall : ∀ k : Nat, k ≤ n → ∃ lower, HasHeight overrides definitions k lower :=
    fun k hk => h.exists_of_le hk
  choose! lower hlower using hall
  -- The heights up to `n` are mapped into the names, and no two of them to one name.
  have hmaps : ∀ k ∈ Finset.range (n + 1), Scalar.str (lower k) ∈ definitions.keys.toFinset := by
    intro k hk
    rw [Finset.mem_range] at hk
    rw [List.mem_toFinset]
    exact Entries.exists_get?_str_iff.mp (hlower k (by omega)).exists_definition
  have hinj : Set.InjOn (fun k => Scalar.str (lower k)) (Finset.range (n + 1) : Set Nat) := by
    intro j hj k hk heq
    simp only [Finset.coe_range, Set.mem_Iio, Scalar.str.injEq] at hj hk heq
    have hlj := hlower j (by omega)
    rw [heq] at hlj
    exact hlj.unique (hlower k (by omega))
  have hcard := Finset.card_le_card_of_injOn _ hmaps hinj
  rw [Finset.card_range] at hcard
  have hkeys : definitions.keys.toFinset.card ≤ definitions.keys.length := List.toFinset_card_le _
  have hlen : definitions.keys.length = definitions.length := List.length_map _
  omega

end HasHeight

/-- A node that meets the limit with as many levels left as there are definitions meets it with any
number: the first number with which it did not would make a height. -/
theorem buildWithin_meetsLimit_of_length_le {node : Node} {owner : Scalar} {n k : Nat}
    (hn : definitions.length ≤ n) (hnk : n ≤ k)
    (h : MeetsLimit (buildWithin overrides definitions n owner node)) :
    MeetsLimit (buildWithin overrides definitions k owner node) := by
  induction k, hnk using Nat.le_induction with
  | base => exact h
  | succ k hk ih =>
    by_contra hnot
    obtain ⟨target, htarget⟩ := exists_hasHeight overrides definitions ih hnot
    have hlt := htarget.lt_length
    omega

/-- **Raising the limit beyond the number of definitions helps no one**: a node that meets such a
limit meets every other one too. -/
theorem meetsLimit_of_length_le (node : Node) (owner : Scalar) {d : Int} (m : Int)
    (hd : (definitions.length : Int) ≤ d)
    (h : MeetsLimit (buildNode overrides definitions ⟨owner, 0, d⟩ node)) :
    MeetsLimit (buildNode overrides definitions ⟨owner, 0, m⟩ node) := by
  rcases le_total m d with hmd | hdm
  · rcases buildNode_cutShort overrides definitions node owner 0 hmd with hmeets | heq
    · exact hmeets
    · exact heq ▸ h
  · rw [buildNode_meetsLimit_iff] at h ⊢
    simp only [Int.sub_zero] at h ⊢
    exact buildWithin_meetsLimit_of_length_le overrides definitions (by omega) (by omega) h

/-- A circle of two definitions that meets a limit of two meets a limit of a hundred. -/
theorem meetsLimit_circle :
    (Sample.circle.length : Int) ≤ 2 ∧
      MeetsLimit (buildNode Sample.settings Sample.circle ⟨.str "Order", 0, 2⟩ Sample.order) ∧
      MeetsLimit (buildNode Sample.settings Sample.circle ⟨.str "Order", 0, 100⟩ Sample.order) :=
  ⟨by decide, by decide, meetsLimit_of_length_le Sample.settings Sample.circle Sample.order
    (.str "Order") (d := 2) 100 (by decide) (by decide)⟩

end Levels

end ApiStore
