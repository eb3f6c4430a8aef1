import ApiStore.Proofs.Build.Need
/-
`Agreement.lean` -- two compilations of one node.

Several laws compare two runs of the compiler that differ only in how definitions are
copied: with one limit and with another, from one definition map and from another. Each
law has a relation of its own between the two outcomes, but the walk over the node is
always the same. It needs three things of the relation: equal outcomes are related, going
on from related outcomes with the same results keeps them related, and so does reporting
them under a property. `build_agrees` makes the walk once, for every such relation.

Only the copies that the node asks for have to be related, so the lemma also says that
compiling a node depends on no others.

**Payloads.** The two compilations may also read overrides by different rules. All that comes of
an override is its payload, so it is enough that the payloads of all nodes are related
(`build_agrees_of_payloads`).
-/
set_option autoImplicit false

namespace ApiStore

/-! ## 1. Relations that compiling respects -/

/-- A relation between the outcomes of two compilations which the compiler's own steps respect. -/
structure Agreement where
  Holds : {α : Type} → Except CompileError α → Except CompileError α → Prop
  refl : ∀ {α : Type} (x : Except CompileError α), Holds x x
  bind : ∀ {α β : Type} {x y : Except CompileError α} {f g : α → Except CompileError β},
    Holds x y → (∀ a, Holds (f a) (g a)) → Holds (x >>= f) (y >>= g)
  property : ∀ {α : Type} {x y : Except CompileError α} (key : Scalar) (node : Value),
    Holds x y → Holds (x.mapError (.property key node)) (y.mapError (.property key node))

namespace Agreement

variable (R : Agreement)

/-- A function of the result is one step that is the same in both runs. -/
theorem map {α β : Type} {x y : Except CompileError α} (f : α → β) (h : R.Holds x y) :
    R.Holds (x.map f) (y.map f) := by
  have hbind : ∀ z : Except CompileError α, z.map f = z >>= fun a => .ok (f a) := by
    intro z
    cases z <;> rfl
  rw [hbind x, hbind y]
  exact R.bind h fun _ => R.refl _

/-- The copies that needs ask for are related. -/
def Answers (f g : Scalar → String → Except CompileError (Entries Value)) (needs : List Need) :
    Prop :=
  ∀ need ∈ needs, ∀ owner target, need.copy? = some (owner, target) →
    R.Holds (f owner target) (g owner target)

/-- The payloads that two sets of rules read from a node are related. -/
def Payloads (o p : OverrideRules) : Prop := ∀ node, R.Holds (o.resolve node) (p.resolve node)

/-- One set of rules agrees with itself. -/
theorem payloads_refl (o : OverrideRules) : R.Payloads o o := fun _ => R.refl _

/-- Equality is such a relation. -/
def same : Agreement where
  Holds x y := x = y
  refl _ := rfl
  bind := by
    rintro _ _ x _ f g rfl hfg
    rw [funext hfg]
  property := by
    rintro _ x _ key node rfl
    rfl

end Agreement

/-! ## 2. The walk over a node -/

namespace BuildRules

section Payloads

variable (R : Agreement) {f g : Scalar → String → Except CompileError (Entries Value)}
  {o p : OverrideRules}

/-- A reference is followed with related outcomes if the copies of an external one are related. -/
theorem follow_agrees (owner : Scalar) (r : Reference)
    (h : r.circular = false → R.Holds (f owner r.target) (g owner r.target)) :
    R.Holds (BuildRules.follow ⟨o, f⟩ owner r) (BuildRules.follow ⟨p, g⟩ owner r) := by
  unfold follow
  cases hc : r.circular with
  | true => exact R.refl _
  | false => exact h hc

/-- What a pointer leads to, before and after it is put into a marker. -/
theorem pointer_agrees (owner : Scalar) {node : Node} {pointer : String} (inArray : Bool)
    (hp : node.pointer? = some pointer) (h : R.Answers f g [.pointer owner pointer]) :
    R.Holds (Reference.describe node owner inArray >>= BuildRules.follow ⟨o, f⟩ owner)
        (Reference.describe node owner inArray >>= BuildRules.follow ⟨p, g⟩ owner) ∧
      R.Holds (BuildRules.resolve ⟨o, f⟩ owner node inArray)
        (BuildRules.resolve ⟨p, g⟩ owner node inArray) := by
  simp only [resolve, Reference.describe, hp]
  cases ht : Pointer.parse? pointer with
  | none => exact ⟨R.refl _, R.refl _⟩
  | some target =>
    have hcopy : (owner == .str target) = false → R.Holds (f owner target) (g owner target) := by
      intro hc
      refine h _ (List.mem_singleton_self _) owner target ?_
      simp [Need.copy?, ht, hc]
    exact ⟨follow_agrees R owner _ hcopy, R.map _ (follow_agrees R owner _ hcopy)⟩

/-- One property agrees if its own shape does. -/
theorem buildProperty_agrees (hpayloads : R.Payloads o p) (owner : Scalar) (required : Bool)
    (key : String) (node : Node)
    (h : node.hasItemOverride = false → R.Holds (BuildRules.buildPlain ⟨o, f⟩ owner key node)
      (BuildRules.buildPlain ⟨p, g⟩ owner key node)) :
    R.Holds (BuildRules.buildProperty ⟨o, f⟩ owner required key node)
      (BuildRules.buildProperty ⟨p, g⟩ owner required key node) := by
  unfold buildProperty
  refine R.property _ _ ?_
  cases hi : node.hasItemOverride with
  | true => exact R.map _ (hpayloads node)
  | false =>
    refine R.bind (h hi) fun plain => ?_
    unfold withOverride
    split
    · exact R.map _ (hpayloads node)
    · exact R.refl _

mutual

/-- **Two compilations of a node agree** in every way in which all payloads agree, and all copies
that the node asks for. -/
theorem build_agrees_of_payloads (hpayloads : R.Payloads o p) (owner : Scalar) :
    (node : Node) → R.Answers f g (node.needs owner) →
      R.Holds (BuildRules.build ⟨o, f⟩ owner node) (BuildRules.build ⟨p, g⟩ owner node)
  | .object _ properties required, h => by
    rw [Node.needs] at h
    rw [build, build]
    exact buildProperties_agrees_of_payloads hpayloads owner required properties h
  | .array facts items, h => by
    rw [Node.needs] at h
    rw [build, build]
    cases hp : items.ownPointer? with
    | some pointer =>
      rw [hp] at h
      have hn : (Node.array facts items).pointer? = some pointer := hp
      exact R.map _ (pointer_agrees R owner true hn h).2
    | none =>
      rw [hp] at h
      simp only [Option.isSome_none, Bool.false_eq_true, if_false]
      split
      · rw [if_pos ‹_›] at h
        exact R.map _ (itemType_agrees_of_payloads hpayloads owner items h)
      · exact R.refl _
  | .primitive _ _ _, _ => R.refl _
  | .reference _ _, h => by
    rw [Node.needs] at h
    rw [build, build]
    exact (pointer_agrees R owner false rfl h).1
  | .any _, _ => R.refl _

/-- The types of the items of an array agree. -/
theorem itemType_agrees_of_payloads (hpayloads : R.Payloads o p) (owner : Scalar) :
    (node : Node) → R.Answers f g (node.itemNeeds owner) →
      R.Holds (BuildRules.itemType ⟨o, f⟩ owner node) (BuildRules.itemType ⟨p, g⟩ owner node)
  | .array _ items, h => by
    rw [Node.itemNeeds] at h
    rw [itemType, itemType]
    exact R.map _ (itemType_agrees_of_payloads hpayloads owner items h)
  | .object _ properties required, h => by
    rw [Node.itemNeeds] at h
    rw [itemType, itemType]
    exact R.map _ (buildProperties_agrees_of_payloads hpayloads owner required properties h)
  | .primitive _ _ _, _ => R.refl _
  | .reference _ _, _ => R.refl _
  | .any _, _ => R.refl _

/-- What a property is before its override agrees. -/
theorem buildPlain_agrees_of_payloads (hpayloads : R.Payloads o p) (owner : Scalar) (key : String) :
    (node : Node) → R.Answers f g (node.plainNeeds owner key) →
      R.Holds (BuildRules.buildPlain ⟨o, f⟩ owner key node)
        (BuildRules.buildPlain ⟨p, g⟩ owner key node)
  | .object _ properties required, h => by
    rw [Node.plainNeeds] at h
    rw [buildPlain, buildPlain]
    exact R.map _ (buildProperties_agrees_of_payloads hpayloads (.str key) required properties h)
  | .array facts items, h => by
    rw [Node.plainNeeds] at h
    rw [buildPlain, buildPlain]
    cases hp : items.ownPointer? with
    | some pointer =>
      rw [hp] at h
      have hn : (Node.array facts items).pointer? = some pointer := hp
      exact (pointer_agrees R owner false hn h).2
    | none =>
      rw [hp] at h
      exact R.map _ (itemType_agrees_of_payloads hpayloads (.str key) items h)
  | .primitive _ _ _, _ => R.refl _
  | .reference _ _, h => by
    rw [Node.plainNeeds] at h
    rw [buildPlain, buildPlain]
    exact (pointer_agrees R owner false rfl h).2
  | .any _, _ => R.refl _

/-- The properties of an object agree one after another. Those that are reserved are passed over,
and so are their needs. -/
theorem buildProperties_agrees_of_payloads (hpayloads : R.Payloads o p) (owner : Scalar)
    (required : List String) :
    (properties : List (String × Node)) → R.Answers f g (Node.propertiesNeeds owner properties) →
      R.Holds (BuildRules.buildProperties ⟨o, f⟩ owner required properties)
        (BuildRules.buildProperties ⟨p, g⟩ owner required properties)
  | [], _ => R.refl _
  | (key, node) :: rest, h => by
    cases hk : reservedNames.contains key with
    | true =>
      rw [Node.propertiesNeeds_cons_reserved owner node rest hk] at h
      rw [buildProperties_cons_reserved _ owner required node rest hk,
        buildProperties_cons_reserved _ owner required node rest hk]
      exact buildProperties_agrees_of_payloads hpayloads owner required rest h
    | false =>
      rw [Node.propertiesNeeds_cons owner node rest hk] at h
      obtain ⟨hnode, hrest⟩ := List.forall_mem_append.mp h
      rw [buildProperties_cons _ owner required node rest hk,
        buildProperties_cons _ owner required node rest hk]
      refine R.bind (buildProperty_agrees R hpayloads owner _ key node fun hi => ?_) fun compiled =>
        ?_
      · refine buildPlain_agrees_of_payloads hpayloads owner key node ?_
        rw [Node.propertyNeeds, hi] at hnode
        exact (List.forall_mem_append.mp hnode).1
      · exact R.map _ (buildProperties_agrees_of_payloads hpayloads owner required rest hrest)

end

end Payloads

/-! ## 3. One set of rules -/

variable (R : Agreement) {f g : Scalar → String → Except CompileError (Entries Value)}
  (overrides : OverrideRules)

/-- **Two compilations of a node by the same rules agree** in every way in which all copies agree
that it asks for. -/
theorem build_agrees (owner : Scalar) (node : Node) (h : R.Answers f g (node.needs owner)) :
    R.Holds (BuildRules.build ⟨overrides, f⟩ owner node)
      (BuildRules.build ⟨overrides, g⟩ owner node) :=
  build_agrees_of_payloads R (R.payloads_refl _) owner node h

/-- So does what a property is before its override. -/
theorem buildPlain_agrees (owner : Scalar) (key : String) (node : Node)
    (h : R.Answers f g (node.plainNeeds owner key)) :
    R.Holds (BuildRules.buildPlain ⟨overrides, f⟩ owner key node)
      (BuildRules.buildPlain ⟨overrides, g⟩ owner key node) :=
  buildPlain_agrees_of_payloads R (R.payloads_refl _) owner key node h

/-- So do the properties of an object. -/
theorem buildProperties_agrees (owner : Scalar) (required : List String)
    (properties : List (String × Node))
    (h : R.Answers f g (Node.propertiesNeeds owner properties)) :
    R.Holds (BuildRules.buildProperties ⟨overrides, f⟩ owner required properties)
      (BuildRules.buildProperties ⟨overrides, g⟩ owner required properties) :=
  buildProperties_agrees_of_payloads R (R.payloads_refl _) owner required properties h

/-- **A node depends on the copies that it asks for, and on no others.** -/
theorem build_congr {owner : Scalar} {node : Node}
    (h : ∀ o t, (o, t) ∈ node.copies owner → f o t = g o t) :
    BuildRules.build ⟨overrides, f⟩ owner node = BuildRules.build ⟨overrides, g⟩ owner node :=
  build_agrees .same overrides owner node fun need hneed o t hcopy => h o t
    (List.mem_filterMap.mpr ⟨need, hneed, hcopy⟩)

end BuildRules

end ApiStore
