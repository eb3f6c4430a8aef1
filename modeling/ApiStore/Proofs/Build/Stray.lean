import ApiStore.Proofs.Build.Copy
import ApiStore.Proofs.Build.ErrorPath
/-
`Stray.lean` -- pointers to definitions that do not exist, and the failures they cause.

A pointer that an owner follows, and under whose target there is no definition, is a stray
one. The compiler can come to it in the nodes of a definition, or in a copy that it makes on
the way, or in a copy within a copy. `Strays` says that a node leads to a stray pointer in one
of these ways and that nothing was wrong before it: the needs of a node are listed in the order
in which the compiler comes to them, and all that stand before the pointer, or before the copy
that leads to it, are met.

**Stray pointers are the only cause.** No leaf, no override and no limit is ever reported as an
undefined target, so a node fails for one exactly if it strays (`strays_iff_offence?`), and a
document does exactly if its first definition to fail strays (`Compiler.root_undefined_iff`).
The induction is on the levels of copies, since a copy has one level less than what asks for it.
-/
set_option autoImplicit false

namespace ApiStore

/-! ## 1. One need -/

section Needs

variable {overrides : OverrideRules} {definitions : Definitions} {limit : Int} {levels : Nat}
  {target : String}

/-- A pointer under whose target there is no definition fails for that target. -/
theorem Need.offence?_undefined {owner : Scalar} {pointer : String}
    (hp : Pointer.parse? pointer = some target) (howner : owner ≠ .str target)
    (htarget : .str target ∉ definitions.keys) :
    (Need.pointer owner pointer).offence? (rulesWithin overrides definitions limit levels) =
      some (.undefinedTarget target) := by
  have hundefined :=
    expansion_undefined overrides definitions limit levels owner
      (Entries.get?_str_eq_none_iff.mpr htarget)
  simp [Need.offence?, hp, howner, rulesWithin, hundefined, CompileError.innermost]

/-- A pointer to a definition fails as the definition does with one level less, if there is one
left. -/
theorem Need.offence?_succ {owner : Scalar} {pointer through : String} {definition : Node}
    (hp : Pointer.parse? pointer = some through) (howner : owner ≠ .str through)
    (hdefinition : Entries.get? definitions (.str through) = some definition) :
    (Need.pointer owner pointer).offence? (rulesWithin overrides definitions limit (levels + 1)) =
      ApiStore.offence? ((rulesWithin overrides definitions limit levels).build
        (.str through) definition) := by
  have hcopy := expansion_succ overrides definitions limit levels owner hdefinition
  have hneeds := BuildRules.build_offence? (rulesWithin overrides definitions limit levels)
    (.str through)
  rw [hneeds, ← Node.needs_forCopy, ← hneeds]
  simp [Need.offence?, hp, howner, rulesWithin, hcopy]

/-- An offence of another kind is no undefined target. -/
theorem offence?_ne_undefined {α : Type} {x : Except CompileError α}
    (h : ∀ e, x = .error e → e.cause? = none ∧ e.kind ≠ .undefinedReference) :
    offence? x ≠ some (.undefinedTarget target) := by
  intro hoffence
  obtain ⟨e, rfl⟩ := offence?_ne_none_iff.mp (hoffence ▸ Option.some_ne_none _)
  obtain ⟨hcause, hkind⟩ := h e rfl
  rw [offence?_error, CompileError.innermost_of_kind
    (CompileError.kind_of_cause?_eq_none hcause)] at hoffence
  exact hkind (congrArg CompileError.kind (Option.some.inj hoffence))

/-- A need that fails for an undefined target is a pointer to it, or one to a definition that fails
for it in turn. -/
theorem Need.cases_of_undefined {need : Need}
    (h : need.offence? (rulesWithin overrides definitions limit levels) =
      some (.undefinedTarget target)) :
    ∃ owner pointer through, need = .pointer owner pointer ∧ Pointer.parse? pointer = some through ∧
      owner ≠ .str through ∧
      (through = target ∧ .str target ∉ definitions.keys ∨
        ∃ rest definition, levels = rest + 1 ∧
          Entries.get? definitions (.str through) = some definition ∧
          ApiStore.offence? ((rulesWithin overrides definitions limit rest).build
            (.str through) definition) = some (.undefinedTarget target)) := by
  -- Only a pointer can be undefined: what offends in a leaf or in a payload is an error of another
  -- kind.
  cases need with
  | leaf node =>
    refine absurd h (offence?_ne_undefined fun e he => ⟨leafType_offence he, ?_⟩)
    rcases leafType_kind he with hkind | hkind <;> simp [hkind]
  | payload node =>
    refine absurd h (offence?_ne_undefined fun e he => ⟨OverrideRules.resolve_offence he, ?_⟩)
    simp [OverrideRules.resolve_kind he]
  | pointer owner pointer =>
    cases hp : Pointer.parse? pointer with
    | none => simp [Need.offence?, hp] at h
    | some through =>
      have howner : owner ≠ .str through := by
        rintro rfl
        simp [Need.offence?, hp] at h
      refine ⟨owner, pointer, through, rfl, hp, howner, ?_⟩
      cases hdefinition : Entries.get? definitions (.str through) with
      | none =>
        have hmissing := Entries.get?_str_eq_none_iff.mp hdefinition
        rw [Need.offence?_undefined hp howner hmissing] at h
        obtain rfl := CompileError.undefinedTarget.inj (Option.some.inj h)
        exact .inl ⟨rfl, hmissing⟩
      | some definition =>
        cases levels with
        | zero =>
          have hlimit := expansion_zero overrides definitions limit owner hdefinition
          simp [Need.offence?, hp, howner, rulesWithin, hlimit, CompileError.innermost] at h
        | succ rest =>
          rw [Need.offence?_succ hp howner hdefinition] at h
          exact .inr ⟨rest, definition, rfl, rfl, h⟩

end Needs

/-! ## 2. One definition -/

/-- Compiling a node as a definition, with some levels of copies left, comes to a stray pointer
before anything else is wrong. The pointer is among the needs of the node, or the node strays
through a copy that it asks for. -/
inductive Strays (overrides : OverrideRules) (definitions : Definitions) (limit : Int)
    (target : String) : Nat → Scalar → Node → Prop
  | here {levels : Nat} {name owner : Scalar} {node : Node} {before after : List Need}
    {pointer : String} (hneeds : node.needs name = before ++ .pointer owner pointer :: after)
    (hbefore : ∀ need ∈ before,
      need.offence? (rulesWithin overrides definitions limit levels) = none)
    (hp : Pointer.parse? pointer = some target) (howner : owner ≠ .str target)
    (htarget : .str target ∉ definitions.keys) :
    Strays overrides definitions limit target levels name node
  | copy {levels : Nat} {name owner : Scalar} {node definition : Node} {before after : List Need}
    {pointer through : String}
    (hneeds : node.needs name = before ++ .pointer owner pointer :: after)
    (hbefore : ∀ need ∈ before,
      need.offence? (rulesWithin overrides definitions limit (levels + 1)) = none)
    (hp : Pointer.parse? pointer = some through) (howner : owner ≠ .str through)
    (hdefinition : Entries.get? definitions (.str through) = some definition)
    (h : Strays overrides definitions limit target levels (.str through) definition) :
    Strays overrides definitions limit target (levels + 1) name node

section Definitions

variable {overrides : OverrideRules} {definitions : Definitions} {limit : Int} {target : String}

/-- What the needs before one do not find wrong, that one decides. -/
theorem BuildRules.offence?_of_split {rules : BuildRules} {name : Scalar} {node : Node}
    {before after : List Need} {need : Need} {e : CompileError}
    (hneeds : node.needs name = before ++ need :: after)
    (hbefore : ∀ other ∈ before, other.offence? rules = none) (h : need.offence? rules = some e) :
    offence? (rules.build name node) = some e := by
  rw [build_offence?, hneeds, List.findSome?_append, List.findSome?_eq_none_iff.mpr hbefore,
    Option.none_or, List.findSome?_cons, h]

/-- **A definition fails for an undefined target exactly if it strays.** -/
theorem strays_iff_offence? {levels : Nat} {name : Scalar} {node : Node} :
    Strays overrides definitions limit target levels name node ↔
      offence? ((rulesWithin overrides definitions limit levels).build name node) =
        some (.undefinedTarget target) := by
  constructor
  · intro h
    induction h with
    | here hneeds hbefore hp howner htarget =>
      exact BuildRules.offence?_of_split hneeds hbefore (Need.offence?_undefined hp howner htarget)
    | copy hneeds hbefore hp howner hdefinition _ ih =>
      exact BuildRules.offence?_of_split hneeds hbefore
        ((Need.offence?_succ hp howner hdefinition).trans ih)
  · intro h
    induction levels using Nat.strong_induction_on generalizing name node with
    | _ levels ih =>
      rw [BuildRules.build_offence?] at h
      obtain ⟨before, need, after, hneeds, hneed, hbefore⟩ := List.findSome?_eq_some_iff.mp h
      obtain ⟨owner, pointer, through, rfl, hp, howner, ⟨rfl, htarget⟩ |
          ⟨rest, definition, rfl, hdefinition, hcopy⟩⟩ :=
        Need.cases_of_undefined hneed
      · exact .here hneeds hbefore hp howner htarget
      · exact .copy hneeds hbefore hp howner hdefinition (ih rest (Nat.lt_succ_self rest) hcopy)

end Definitions

/-! ## 3. All definitions -/

namespace Compiler

variable {c : Compiler} {definitions : Definitions} {target : String}

/-- A definition strays, on the level that the compiler starts with. -/
def Strays (c : Compiler) (definitions : Definitions) (target : String) (name : Scalar) : Prop :=
  ∃ node, Entries.get? definitions name = some node ∧
    ApiStore.Strays c.overrides definitions c.config.maxReferenceDepth target
      c.config.maxReferenceDepth.toNat name node

/-- A schema cannot be made for the sake of an undefined target exactly if its definition strays. -/
theorem buildSchema_undefined_iff {name : Scalar} :
    (∃ e, c.buildSchema definitions name = .error (.compile e) ∧
      e.root = .compile (.undefinedTarget target)) ↔
      c.Strays definitions target name := by
  rw [Strays, buildSchema]
  cases hnode : Entries.get? definitions name with
  | none =>
    constructor
    · rintro ⟨e, he, hroot⟩
      cases he
      cases hroot
    · rintro ⟨definition, hfound, -⟩
      cases hfound
  | some node =>
    simp only [Option.some.injEq, exists_eq_left', strays_iff_offence?]
    rw [← show c.rules definitions = rulesWithin _ _ _ _ from rfl, ← buildFields_eq]
    constructor
    · rintro ⟨e, he, hroot⟩
      rcases Outcome.bind_eq_error_iff.mp he with hfields | ⟨fields, -, hparts⟩
      · obtain ⟨found, hfound, heq⟩ := Outcome.mapError_eq_error_iff.mp hfields
        cases heq
        rw [hfound, offence?_error, CompileError.innermost_of_root hroot]
      · -- What is wrong with the parts of a schema is no compile error.
        obtain ⟨fault, -, heq⟩ := Outcome.mapError_eq_error_iff.mp hparts
        cases heq
    · intro h
      obtain ⟨e, he⟩ := offence?_ne_none_iff.mp (h ▸ Option.some_ne_none _)
      rw [he, offence?_error] at h
      have hinnermost := Option.some.inj h
      refine ⟨e, by rw [he]; rfl, ?_⟩
      rw [(CompileError.root_of_cause?_innermost (hinnermost ▸ rfl)).1, hinnermost]

/-- **The root cause is an undefined target exactly if the first definition to fail strays.** -/
theorem root_undefined_iff :
    (∃ e, c.buildSchemas definitions none = .error (.compile e) ∧
      e.root = .compile (.undefinedTarget target)) ↔
      ∃ before name after, definitions.keys = before ++ name :: after ∧
        (∀ n ∈ before, ∃ schema, c.buildSchema definitions n = .ok schema) ∧
        c.Strays definitions target name := by
  simp only [buildSchemas, Option.getD_none, buildInto_eq_error_iff, ← buildSchema_undefined_iff]
  constructor
  · rintro ⟨e, ⟨before, name, after, hsplit, hbefore, hname⟩, hroot⟩
    exact ⟨before, name, after, hsplit, hbefore, e, hname, hroot⟩
  · rintro ⟨before, name, after, hsplit, hbefore, e, hname, hroot⟩
    exact ⟨e, ⟨before, name, after, hsplit, hbefore, hname⟩, hroot⟩

end Compiler

end ApiStore
