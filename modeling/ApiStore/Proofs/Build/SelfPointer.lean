import ApiStore.Proofs.Build.Form
import ApiStore.Proofs.Build.Limit
/-
`SelfPointer.lean` -- pointers of a definition to itself.

A pointer to the definition that is being compiled is a stub, a reference by identity that
is compiled no further. What decides is the owner that sees the pointer, and that is the
definition only as long as no property of another name is in between. A pointer that the
definition itself sees asks for no copy, so what becomes of copies of the definition is no
matter to it (`BuildRules.build_congr`).

**Inside the object of a property** the owner is the property. A pointer to the definition
is external there: it asks for a copy of the definition, the copy comes to the same pointer
again, and so on down to the limit. No limit is large enough for such a definition
(`expansion_ne_ok_of_self_copy`), although nothing leads from it to another one.
-/
set_option autoImplicit false

namespace ApiStore

/-! ## 1. Pointers and the owners that see them -/

/-- A pointer that can be read is described by its target and by whether its owner is the target. -/
theorem Reference.describe_eq {node : Node} {owner : Scalar} {pointer target : String}
    (inArray : Bool)
    (hp : node.pointer? = some pointer) (ht : Pointer.parse? pointer = some target) :
    Reference.describe node owner inArray = .ok ⟨owner == .str target, target, node.isArray ||
      inArray⟩ := by
  simp only [describe, hp, ht]
  cases node <;> rfl

/-- A node with a pointer that cannot be followed points nowhere. -/
theorem Reference.describe_unknown {node : Node} {pointer : String}
    (hp : node.pointer? = some pointer) (hnone : Pointer.parse? pointer = none) (owner : Scalar)
    (inArray : Bool) :
    describe node owner inArray = .error (.unknownPointer (.str pointer)) := by
  simp only [describe, hp, hnone]

/-- Compiling a node as the definition of `name` comes to a pointer to `target` that `owner`
sees. -/
def Node.PointsTo (node : Node) (name owner : Scalar) (target : String) : Prop :=
  ∃ pointer, Need.pointer owner pointer ∈ node.needs name ∧ Pointer.parse? pointer = some target

/-- A pointer asks for a copy exactly if its owner is not its target. -/
theorem Node.mem_copies_iff {node : Node} {name owner : Scalar} {target : String} :
    (owner, target) ∈ node.copies name ↔ node.PointsTo name owner target ∧ owner ≠ .str target := by
  rw [copies, List.mem_filterMap]
  constructor
  · rintro ⟨need, hmem, hneed⟩
    cases need with
    | leaf _ => cases hneed
    | payload _ => cases hneed
    | pointer o p =>
      rw [Need.copy?] at hneed
      cases hp : Pointer.parse? p with
      | none => simp [hp] at hneed
      | some t =>
        simp only [hp, Option.ite_none_left_eq_some, Option.some.injEq, Prod.mk.injEq,
          beq_iff_eq] at hneed
        obtain ⟨hne, rfl, rfl⟩ := hneed
        exact ⟨⟨p, hmem, hp⟩, hne⟩
  · rintro ⟨⟨p, hmem, hp⟩, hne⟩
    refine ⟨.pointer owner p, hmem, ?_⟩
    rw [Need.copy?, hp]
    exact if_neg (by simpa using hne)

/-! ## 2. A pointer that its target sees -/

namespace BuildRules

variable {rules : BuildRules}

/-- The stub of a target, in a marker if the node is an array, is what such a pointer leads to. -/
theorem buildPlain_of_self_pointer {name key pointer : String} {node : Node}
    (hp : node.pointer? = some pointer) (ht : Pointer.parse? pointer = some name) :
    rules.buildPlain (.str name) key node =
      .ok (Reference.toCompiled ⟨true, name, node.isArray⟩) := by
  have hresolve : rules.resolve (.str name) node false =
      .ok (Reference.toCompiled ⟨true, name, node.isArray⟩) := by
    rw [resolve, Reference.describe_eq false hp ht]
    simp [follow, Reference.toCompiled, bind, Except.bind, pure, Except.pure]
  cases node with
  | array facts items =>
    have hitems : items.ownPointer?.isSome = true := by
      rw [show items.ownPointer? = some pointer from hp, Option.isSome_some]
    rw [buildPlain, if_pos hitems, hresolve]
  | reference facts p => rw [buildPlain, hresolve]
  | primitive _ _ _ => cases hp
  | object _ _ _ => cases hp
  | any _ => cases hp

/-- In an object that is compiled for `name`, a property that points to `name` has the stub for its
entry, marked as required and overlaid as any other property is. -/
theorem stub_mem_of_self_pointer {name : String} {required : List String}
    {properties : List (String × Node)} {fields : Entries Value}
    (h : rules.buildProperties (.str name) required properties = .ok fields) {key : String}
    {node : Node} (hmem : (key, node) ∈ properties) (hk : reservedNames.contains key = false)
    (hi : node.hasItemOverride = false) {pointer : String} (hp : node.pointer? = some pointer)
    (ht : Pointer.parse? pointer = some name) :
    ∃ compiled, rules.withOverride node
        (markRequired (required.contains key) (Reference.toCompiled ⟨true, name, node.isArray⟩)) =
          .ok compiled ∧
      (.str key, compiled.toValue) ∈ fields := by
  obtain ⟨compiled, hcompiled, hsub⟩ := mem_of_buildProperties h hmem hk
  have hform : compiled.form ≠ .dropped := buildProperty_form hcompiled ▸ Node.form_ne_dropped hp
  rw [buildProperty, Outcome.mapError_eq_ok_iff] at hcompiled
  simp only [hi, Bool.false_eq_true, if_false] at hcompiled
  rw [buildPlain_of_self_pointer hp ht] at hcompiled
  exact ⟨compiled, hcompiled, hsub (Compiled.mem_entries hform key)⟩

end BuildRules

/-! ## 3. A pointer that another owner sees -/

section SelfCopy

variable {overrides : OverrideRules} {definitions : Definitions} {name : String} {node : Node}
  {o : Scalar}

/-- A definition that asks for a copy of itself has none on any level: each copy asks for the
next. -/
theorem expansion_ne_ok_of_self_copy (hn : Entries.get? definitions (.str name) = some node)
    (hself : (o, name) ∈ node.copies (.str name)) (limit : Int) (n : Nat) (owner : Scalar)
    (copy : Entries Value) :
    expansion overrides definitions limit n owner name ≠ .ok copy := by
  induction n generalizing owner copy with
  | zero =>
    rw [expansion_zero overrides definitions limit owner hn]
    exact nofun
  | succ n ih =>
    rw [expansion_succ overrides definitions limit n owner hn]
    intro h
    have hcopy : (o, name) ∈ node.forCopy.copies (.str name) := by
      rw [Node.copies, Node.needs_forCopy]
      exact hself
    obtain ⟨inner, hinner⟩ := BuildRules.expand_eq_ok_of_build h hcopy
    exact ih o inner hinner

/-- So it does not compile, whatever the limit. -/
theorem buildNode_ne_ok_of_self_copy (hn : Entries.get? definitions (.str name) = some node)
    (hself : (o, name) ∈ node.copies (.str name)) (limit : Int) (fields : Entries Value) :
    buildNode overrides definitions ⟨.str name, 0, limit⟩ node ≠ .ok fields := by
  intro h
  obtain ⟨copy, hcopy⟩ := BuildRules.expand_eq_ok_of_build h hself
  exact expansion_ne_ok_of_self_copy hn hself limit _ o copy hcopy

end SelfCopy

/-! ## 4. Pointers of a definition to itself -/

/-- **A pointer to the definition being compiled is a stub where the definition sees it, and only
there.** In an object that is compiled for `name`, every property that points to `name` has the stub
for its entry. If the definition sees all the pointers to itself, then its outcome does not depend
on what copies of itself come to. If another owner sees one of them, the definition does not compile
under any limit. -/
theorem self_pointer_is_stub (overrides : OverrideRules) (definitions : Definitions)
    (name : String) :
    (∀ expand required properties fields,
      BuildRules.buildProperties ⟨overrides, expand⟩ (.str name) required properties = .ok fields →
      ∀ key node pointer, (key, node) ∈ properties → reservedNames.contains key = false →
        node.hasItemOverride = false →
        node.pointer? = some pointer → Pointer.parse? pointer = some name →
        ∃ compiled, BuildRules.withOverride ⟨overrides, expand⟩ node
          (BuildRules.markRequired (required.contains key)
            (Reference.toCompiled ⟨true, name, node.isArray⟩)) = .ok compiled ∧
          (.str key, compiled.toValue) ∈ fields) ∧
    (∀ facts properties required,
      ((∀ owner, (Node.object facts properties required).PointsTo (.str name) owner name →
        owner = .str name) → ∀ f g, (∀ o t, t ≠ name → f o t = g o t) →
          BuildRules.build ⟨overrides, f⟩ (.str name) (.object facts properties required) =
            BuildRules.build ⟨overrides, g⟩ (.str name) (.object facts properties required)) ∧
      (Entries.get? definitions (.str name) = some (.object facts properties required) →
        (∃ owner, (Node.object facts properties required).PointsTo (.str name) owner name ∧
          owner ≠ .str name) →
        ∀ limit fields,
          buildNode overrides definitions ⟨.str name, 0, limit⟩
            (.object facts properties required) ≠ .ok fields)) := by
  refine ⟨?_, fun facts properties required => ⟨?_, ?_⟩⟩
  · intro expand required properties fields h key node pointer hmem hk hi hp ht
    exact BuildRules.stub_mem_of_self_pointer h hmem hk hi hp ht
  · intro hall f g hfg
    refine BuildRules.build_congr overrides fun o t hcopy => hfg o t ?_
    rintro rfl
    obtain ⟨hpoints, hne⟩ := Node.mem_copies_iff.mp hcopy
    exact hne (hall o hpoints)
  · rintro hn ⟨owner, hpoints, hne⟩ limit fields
    exact buildNode_ne_ok_of_self_copy hn (Node.mem_copies_iff.mpr ⟨hpoints, hne⟩) limit fields

namespace Sample

/-- A person with a father and children. -/
def person : Node :=
  record [("father", link "#/definitions/Person"),
    ("children", .array Node.empty.facts (link "#/definitions/Person"))] ["father"]

/-- A tree whose branch leads back to the root. -/
def tree : Node := record [("branch", record [("root", link "#/definitions/Tree")] [])] []

end Sample

/-- The father of a person is a required stub, and the tree does not compile under a limit of a
hundred. -/
theorem self_pointer_is_stub_person :
    (∃ compiled fields,
      BuildRules.build ⟨Sample.settings, fun _ t => .error (.undefinedTarget t)⟩ (.str "Person")
        Sample.person = .ok fields ∧
      BuildRules.markRequired true (Reference.toCompiled ⟨true, "Person", false⟩) = compiled ∧
      (.str "father", compiled.toValue) ∈ fields) ∧
    ∀ fields,
      buildNode Sample.settings [(.str "Tree", Sample.tree)] ⟨.str "Tree", 0, 100⟩ Sample.tree ≠
        .ok fields := by
  have hperson := self_pointer_is_stub Sample.settings [] "Person"
  have htree := self_pointer_is_stub Sample.settings [(.str "Tree", Sample.tree)] "Tree"
  constructor
  · obtain ⟨fields, hfields⟩ : ∃ fields,
      BuildRules.build ⟨Sample.settings, fun _ t => .error (.undefinedTarget t)⟩
        (.str "Person") Sample.person = .ok fields := Outcome.isOk_iff.mp (by decide)
    obtain ⟨compiled, hcompiled, hmem⟩ :=
      hperson.1 _ _ _ fields hfields "father" (Sample.link "#/definitions/Person")
      "#/definitions/Person" (by simp) (by decide) rfl rfl (by decide)
    exact ⟨compiled, fields, hfields, Except.ok.inj hcompiled, hmem⟩
  · have hcopy : (.str "branch", "Tree") ∈ Sample.tree.copies (.str "Tree") := by decide
    exact (htree.2 _ _ _).2 rfl ⟨_, Node.mem_copies_iff.mp hcopy⟩ 100

/-- A pointer within the object of a property is no stub: the tree points to itself only, and meets
the limit for it. -/
theorem tree_meets_limit :
    Sample.tree.copies (.str "Tree") = [(.str "branch", "Tree")] ∧
      MeetsLimit (buildNode Sample.settings [(.str "Tree", Sample.tree)]
        ⟨.str "Tree", 0, defaultDepth⟩ Sample.tree) := by
  decide +kernel

end ApiStore
