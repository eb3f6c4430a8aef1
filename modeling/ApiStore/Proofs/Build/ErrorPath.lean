import ApiStore.Proofs.Build.SelfPointer
import ApiStore.Proofs.ErrorChain
/-
`ErrorPath.lean` -- a build error is the path to the first offence.

Compiling an object compiles its properties one after another, and ends with the first
that fails. A property fails for a reason of its own, such as a type that is not known, or
because an object fails that it leads to. There are two ways to one: the object is
anonymous and stands in the node, perhaps inside arrays, or the node is a pointer and the
object belongs to a definition. A definition may point on, and then the object is the one
that its pointer leads to.

**Owners and levels.** An anonymous object is compiled under the name of the property that
holds it, but a pointer is seen by the owner of the object around it, so `Opens` keeps both
names. Every pointer that is followed takes one level of copies. The induction over nodes
stops where a pointer is followed; from there on it is one over the levels that are left.
-/
set_option autoImplicit false

namespace ApiStore

/-! ## 1. Where properties lead -/

/-- What passes from the parts of a node to the node holds of every node. -/
@[elab_as_elim]
theorem Node.induction {P : Node → Prop}
    (primitive : ∀ facts type format, P (.primitive facts type format))
    (array : ∀ facts items, P items → P (.array facts items))
    (object : ∀ facts properties required, (∀ property ∈ properties, P property.2) →
      P (.object facts properties required))
    (reference : ∀ facts pointer, P (.reference facts pointer)) (any : ∀ facts, P (.any facts))
    (node : Node) : P node := by
  have hproperties : ∀ (first : String × Node) (rest : List (String × Node)), P first.2 →
    (∀ property ∈ rest, P property.2) →
      ∀ property ∈ first :: rest, P property.2 :=
        fun _ _ hfirst hrest => List.forall_mem_cons.mpr ⟨hfirst, hrest⟩
  exact @Node.rec P (fun properties => ∀ property ∈ properties, P property.2)
    (fun property => P property.2)
    primitive array object reference any nofun hproperties (fun _ _ hnode => hnode) node

/-- An object where it is compiled: for an owner, and with some levels of copies left. -/
structure Site where
  owner : Scalar
  levels : Nat
  properties : List (String × Node)
  required : List String

/-- A node is an anonymous object, or an array of one, or an array of such arrays. -/
inductive Node.Holds : Node → List (String × Node) → List String → Prop
  | object {facts : Facts} {properties : List (String × Node)} {required : List String} :
    Holds (.object facts properties required) properties required
  | array {facts : Facts} {items : Node} {properties : List (String × Node)}
    {required : List String} (h : items.Holds properties required) :
    Holds (.array facts items) properties required

/-- The object that a node leads to. An object that stands in the node is compiled for `within`; a
pointer is seen by `sees`, and leads on from the definition it names. -/
inductive Opens (definitions : Definitions) : (levels : Nat) → (within sees : Scalar) → Node →
    Site → Prop
  | own {levels : Nat} {within sees : Scalar} {node : Node} {properties : List (String × Node)}
    {required : List String} (h : node.Holds properties required) :
      Opens definitions levels within sees node ⟨within, levels, properties, required⟩
  | copy {levels : Nat} {within sees : Scalar} {node definition : Node} {pointer target : String}
    {site : Site} (hpointer : node.pointer? = some pointer)
    (htarget : Pointer.parse? pointer = some target) (hsees : sees ≠ .str target)
    (hdefinition : Entries.get? definitions (.str target) = some definition)
    (h : Opens definitions levels (.str target) (.str target) definition.forCopy site) :
    Opens definitions (levels + 1) within sees node site

theorem Node.Holds.unique {node : Node} {properties others : List (String × Node)}
    {required names : List String} (h : node.Holds properties required)
    (h' : node.Holds others names) :
    properties = others ∧ required = names := by
  induction h with
  | object =>
    cases h'
    exact ⟨rfl, rfl⟩
  | array _ ih =>
    cases h' with
    | array hitems => exact ih hitems

/-- A node that holds an object carries no pointer. -/
theorem Node.Holds.pointer?_eq_none {node : Node} {properties : List (String × Node)}
    {required : List String} (h : node.Holds properties required) : node.pointer? = none := by
  cases h with
  | object => rfl
  | array hitems => cases hitems <;> rfl

/-- A node leads to one object at most. -/
theorem Opens.unique {definitions : Definitions} {levels : Nat} {within sees : Scalar} {node : Node}
    {site other : Site} (h : Opens definitions levels within sees node site)
    (h' : Opens definitions levels within sees node other) :
    site = other := by
  induction h with
  | own hholds =>
    cases h' with
    | own hholds' =>
      obtain ⟨rfl, rfl⟩ := hholds.unique hholds'
      rfl
    | copy hpointer _ _ _ _ =>
      rw [hholds.pointer?_eq_none] at hpointer
      cases hpointer
  | copy hpointer htarget _ hdefinition _ ih =>
    cases h' with
    | own hholds =>
      rw [hholds.pointer?_eq_none] at hpointer
      cases hpointer
    | copy hpointer' htarget' _ hdefinition' hopens =>
      cases hpointer.symm.trans hpointer'
      cases htarget.symm.trans htarget'
      cases hdefinition.symm.trans hdefinition'
      exact ih hopens

/-! ## 2. The phase -/

section Build

variable (overrides : OverrideRules) (definitions : Definitions) (limit : Int)

/-- The rules with some levels of copies left. -/
def rulesWithin (levels : Nat) : BuildRules :=
  { overrides := overrides, expand := expansion overrides definitions limit levels }

/-- What a property of an object compiles to. -/
def Site.buildProperty (site : Site) (property : String × Node) : Except CompileError Compiled :=
  (rulesWithin overrides definitions limit site.levels).buildProperty site.owner
    (site.required.contains property.1) property.1 property.2

/-- Compiling properties. -/
def buildPhase : Phase Site (String × Node) where
  properties site := site.properties.filter fun property => !reservedNames.contains property.1
  key property := .str property.1
  raw property := property.2.raw
  Passes site property := ∃ compiled, site.buildProperty overrides definitions limit property =
    .ok compiled
  Fails site property cause :=
    site.buildProperty overrides definitions limit property =
      .error (.property (.str property.1) property.2.raw cause)
  Opens site property := Opens definitions site.levels (.str property.1) site.owner property.2
  Offence e := e.cause? = none
  offence_kind h hkind := CompileError.kind_of_cause?_eq_none h hkind
  opens_unique := Opens.unique

end Build

/-! ## 3. Offences -/

section Offences

variable {e : CompileError}

/-- What is wrong with a leaf is its type or its format. -/
theorem leafType_kind {node : Node} (h : leafType node = .error e) :
    e.kind = .unrecognizedFormat ∨ e.kind = .unrecognizedType := by
  cases node with
  | primitive facts type format =>
    rw [leafType, Outcome.map_eq_error_iff] at h
    unfold storageType at h
    split at h
    · cases h
    · split at h
      · split at h
        · cases h
        · rw [← Except.error.inj h]
          exact .inl rfl
      · split at h
        · cases h
        · rw [← Except.error.inj h]
          exact .inr rfl
  | object facts properties required =>
    rw [← Except.error.inj h]
    exact .inr rfl
  | array facts items =>
    rw [← Except.error.inj h]
    exact .inr rfl
  | reference facts pointer =>
    rw [← Except.error.inj h]
    exact .inr rfl
  | any facts =>
    rw [← Except.error.inj h]
    exact .inr rfl

/-- What is wrong with an override that was read is the name of its type. -/
theorem OverrideRules.resolve_kind {overrides : OverrideRules} {node : Node}
    (h : overrides.resolve node = .error e) :
    e.kind = .unrecognizedExtensionType := by
  unfold resolve at h
  split at h
  · cases h
  · rename_i own pointer _
    rw [Outcome.map_eq_error_iff] at h
    unfold payload at h
    -- Without a type name, and with the mark of a reference, there is always a payload.
    cases htype : own.type with
    | none => simp only [htype, reduceCtorEq] at h
    | some name =>
      simp only [htype] at h
      split at h
      · split at h <;> cases h
      · split at h
        · cases h
        · rw [← Except.error.inj h]
          rfl

/-- Neither is caused by anything else. -/
theorem CompileError.cause?_of_kind
    (h : e.kind = .unrecognizedFormat ∨ e.kind = .unrecognizedType ∨
      e.kind = .unrecognizedExtensionType) :
    e.cause? = none := by
  cases e <;> simp_all [kind, cause?]

theorem leafType_offence {node : Node} (h : leafType node = .error e) : e.cause? = none :=
  CompileError.cause?_of_kind ((leafType_kind h).imp_right .inl)

theorem OverrideRules.resolve_offence {overrides : OverrideRules} {node : Node}
    (h : overrides.resolve node = .error e) : e.cause? = none :=
  CompileError.cause?_of_kind (.inr (.inr (resolve_kind h)))

theorem Reference.describe_offence {node : Node} {owner : Scalar} {inArray : Bool}
    (h : Reference.describe node owner inArray = .error e) : e.cause? = none := by
  unfold describe at h
  split at h
  · rw [← Except.error.inj h]
    rfl
  · split at h
    · rw [← Except.error.inj h]
      rfl
    · cases h

end Offences

/-! ## 4. One object -/

/-- An object compiles the properties that are not reserved, in order, and puts their entries
together. -/
theorem BuildRules.buildProperties_eq_mapM (rules : BuildRules) (owner : Scalar)
    (required : List String) (properties : List (String × Node)) :
    rules.buildProperties owner required properties =
      ((properties.filter fun property => !reservedNames.contains property.1).mapM fun property =>
        (rules.buildProperty owner (required.contains property.1) property.1 property.2).map
          (·.entries property.1)).map List.flatten := by
  induction properties with
  | nil => rfl
  | cons property rest ih =>
    obtain ⟨key, node⟩ := property
    cases hk : reservedNames.contains key with
    | true =>
      rw [rules.buildProperties_cons_reserved owner required node rest hk, ih,
        List.filter_cons_of_neg (by simpa using hk)]
    | false =>
      rw [rules.buildProperties_cons owner required node rest hk, ih,
        List.filter_cons_of_pos (by simpa using hk), List.mapM_cons]
      cases rules.buildProperty owner (required.contains key) key node with
      | error e => rfl
      | ok compiled =>
        have hcons : ∀ others : Except CompileError (List (Entries Value)),
            (others.map List.flatten).map (compiled.entries key ++ ·) =
              (others >>= fun entries => pure
                (compiled.entries key :: entries)).map List.flatten := by
          intro others
          cases others <;> rfl
        exact hcons _

section Objects

variable {overrides : OverrideRules} {definitions : Definitions} {limit : Int}

/-- What an object compiles to. -/
def Site.build (overrides : OverrideRules) (definitions : Definitions) (limit : Int) (site : Site) :
    Except CompileError (Entries Value) :=
  (rulesWithin overrides definitions limit site.levels).buildProperties site.owner site.required
    site.properties

/-- An object fails as the first of its properties to fail. -/
theorem Site.build_eq_error_iff {site : Site} {e : CompileError} :
    site.build overrides definitions limit = .error e ↔
      ∃ property cause, (buildPhase overrides definitions limit).FirstToFail site property cause ∧
        e = .property (.str property.1) property.2.raw cause := by
  rw [build, BuildRules.buildProperties_eq_mapM, Outcome.map_eq_error_iff,
    Outcome.mapM_eq_error_iff]
  constructor
  · rintro ⟨before, property, after, hsplit, hbefore, hfails⟩
    -- Whatever a property fails with is reported under that property, so there is a cause to name.
    rw [Outcome.map_eq_error_iff] at hfails
    obtain ⟨cause, -, rfl⟩ := Outcome.mapError_eq_error_iff.mp hfails
    refine ⟨property, cause, ⟨before, after, hsplit, fun other hother => ?_, hfails⟩, rfl⟩
    obtain ⟨_, hok⟩ := hbefore other hother
    obtain ⟨compiled, hcompiled, -⟩ := Outcome.map_eq_ok_iff.mp hok
    exact ⟨compiled, hcompiled⟩
  · rintro ⟨property, cause, ⟨before, after, hsplit, hbefore, hfails⟩, rfl⟩
    refine ⟨before, property, after, hsplit, fun other hother => ?_,
      Outcome.map_eq_error_iff.mpr hfails⟩
    obtain ⟨compiled, hcompiled⟩ := hbefore other hother
    exact ⟨_, Outcome.map_eq_ok_iff.mpr ⟨compiled, hcompiled, rfl⟩⟩

/-- A path from an object is what the object fails with. -/
theorem Site.build_of_path {site : Site} {e : CompileError}
    (h : (buildPhase overrides definitions limit).Path site e) :
    site.build overrides definitions limit = .error e := by
  cases h with
  | here hfirst _ => exact build_eq_error_iff.mpr ⟨_, _, hfirst, rfl⟩
  | deeper hfirst _ _ => exact build_eq_error_iff.mpr ⟨_, _, hfirst, rfl⟩

/-- What an object fails with is a path if what its properties fail with is to be blamed on what
they lead to. -/
theorem Site.path_of_build {site : Site} {e : CompileError}
    (h : site.build overrides definitions limit = .error e)
    (hnext : ∀ property ∈ site.properties, ∀ cause,
      (buildPhase overrides definitions limit).Fails site property cause →
      (buildPhase overrides definitions limit).Blames
      ((buildPhase overrides definitions limit).Opens site property) cause) :
    (buildPhase overrides definitions limit).Path site e := by
  obtain ⟨property, cause, hfirst, rfl⟩ := build_eq_error_iff.mp h
  have hmem : property ∈ site.properties := (List.mem_filter.mp hfirst.mem).1
  exact .of_blames hfirst (hnext property hmem cause hfirst.fails)

end Objects

/-! ## 5. All nodes -/

section Nodes

variable (overrides : OverrideRules) (definitions : Definitions) (limit : Int) (levels : Nat)

/-- The object that a copy of a definition leads to. -/
def OpensCopy (target : String) (site : Site) : Prop :=
  ∃ n definition, levels = n + 1 ∧ Entries.get? definitions (.str target) = some definition ∧
    Opens definitions n (.str target) (.str target) definition.forCopy site

/-- What copies fail with is to be blamed on what they lead to. -/
def CopiesBlamed : Prop :=
  ∀ owner target e, expansion overrides definitions limit levels owner target = .error e →
    (buildPhase overrides definitions limit).Blames (OpensCopy definitions levels target) e

/-- What a node fails with is to be blamed on what it leads to, as an item and as a property. -/
structure NodeBlamed (node : Node) : Prop where
  item : ∀ owner e, (rulesWithin overrides definitions limit levels).itemType owner node =
    .error e → (buildPhase overrides definitions limit).Blames
      (fun site => ∃ properties required, node.Holds properties required ∧
        site = ⟨owner, levels, properties, required⟩) e
  property : ∀ owner required key cause,
    (rulesWithin overrides definitions limit levels).buildProperty owner required key node =
        .error (.property (.str key) node.raw cause) →
      (buildPhase overrides definitions limit).Blames
      (Opens definitions levels (.str key) owner node) cause

variable {overrides definitions limit levels}

/-- A pointer that is followed fails for a reason of its own, or as the copy does that it asks
for. -/
theorem blames_of_follow (hcopies : CopiesBlamed overrides definitions limit levels)
    {owner : Scalar} {node : Node} {inArray : Bool} {pointer : String}
    (hpointer : node.pointer? = some pointer) {e : CompileError}
    (h : Reference.describe node owner inArray >>=
      (rulesWithin overrides definitions limit levels).follow owner = .error e)
    (within : Scalar) :
    (buildPhase overrides definitions limit).Blames
    (Opens definitions levels within owner node) e := by
  rcases Outcome.bind_eq_error_iff.mp h with hdescribe | ⟨r, hr, hfollow⟩
  · exact .inl (Reference.describe_offence hdescribe)
  · cases htarget : Pointer.parse? pointer with
    | none =>
      simp only [Reference.describe, hpointer, htarget, reduceCtorEq] at hr
    | some target =>
      rw [Reference.describe_eq inArray hpointer htarget] at hr
      rw [← Except.ok.inj hr] at hfollow
      unfold BuildRules.follow at hfollow
      split at hfollow
      · cases hfollow
      · rename_i hother
        refine (hcopies _ _ _ hfollow).mono fun site hsite => ?_
        obtain ⟨n, definition, rfl, hdefinition, hopens⟩ := hsite
        exact .copy hpointer htarget (by simpa using hother) hdefinition hopens

theorem blames_of_resolve (hcopies : CopiesBlamed overrides definitions limit levels)
    {owner : Scalar} {node : Node} {inArray : Bool} {pointer : String}
    (hpointer : node.pointer? = some pointer) {e : CompileError}
    (h : (rulesWithin overrides definitions limit levels).resolve owner node inArray = .error e)
    (within : Scalar) :
    (buildPhase overrides definitions limit).Blames
    (Opens definitions levels within owner node) e := by
  have hfollow : Reference.describe node owner inArray >>=
      (rulesWithin overrides definitions limit levels).follow owner = .error e := by
    rcases Outcome.bind_eq_error_iff.mp h with hdescribe | ⟨r, hr, hrest⟩
    · exact Outcome.bind_eq_error_iff.mpr (.inl hdescribe)
    · rcases Outcome.bind_eq_error_iff.mp hrest with hfollow | ⟨fields, -, hpure⟩
      · exact Outcome.bind_eq_error_iff.mpr (.inr ⟨r, hr, hfollow⟩)
      · cases hpure
  exact blames_of_follow hcopies hpointer hfollow within

/-- What an object fails with is a path if all its properties are blamed as they should be. -/
theorem path_of_buildProperties {owner : Scalar} {required : List String}
    {properties : List (String × Node)}
    (hproperties : ∀ property ∈ properties,
      NodeBlamed overrides definitions limit levels property.2)
    {e : CompileError}
    (h : (rulesWithin overrides definitions limit levels).buildProperties owner required
      properties = .error e) :
    (buildPhase overrides definitions limit).Path ⟨owner, levels, properties, required⟩ e := by
  have hsite : Site.build overrides definitions limit ⟨owner, levels, properties, required⟩ =
    .error e := h
  refine Site.path_of_build hsite fun property hmem cause hfails => ?_
  exact (hproperties property hmem).property owner _ property.1 cause hfails

/-- A property fails for the sake of its override, or as its own shape does. -/
theorem blames_of_buildProperty {owner : Scalar} {required : Bool} {key : String} {node : Node}
    {cause : CompileError} {reached : Site → Prop}
    (hplain : ∀ e, (rulesWithin overrides definitions limit levels).buildPlain owner key node =
      .error e → (buildPhase overrides definitions limit).Blames reached e)
    (h : (rulesWithin overrides definitions limit levels).buildProperty owner required key node =
      .error (.property (.str key) node.raw cause)) :
    (buildPhase overrides definitions limit).Blames reached cause := by
  obtain ⟨e, he, heq⟩ := Outcome.mapError_eq_error_iff.mp h
  obtain rfl : e = cause := by
    injection heq
  split at he
  · exact .inl (OverrideRules.resolve_offence (Outcome.map_eq_error_iff.mp he))
  · rcases Outcome.bind_eq_error_iff.mp he with hshape | ⟨plain, -, hoverride⟩
    · exact hplain e hshape
    · unfold BuildRules.withOverride at hoverride
      split at hoverride
      · exact .inl (OverrideRules.resolve_offence (Outcome.map_eq_error_iff.mp hoverride))
      · cases hoverride

/-- **A node is blamed for what is wrong with itself, and for what it leads to.** -/
theorem nodeBlamed (hcopies : CopiesBlamed overrides definitions limit levels) (node : Node) :
    NodeBlamed overrides definitions limit levels node := by
  -- The induction follows the node. Where a pointer is followed it stops, and the copies take over.
  induction node using Node.induction with
  | primitive facts type format =>
    refine ⟨fun owner e h => .inl (leafType_offence h), fun owner required key cause =>
      blames_of_buildProperty ?_⟩
    intro e h
    rw [BuildRules.buildPlain, Outcome.map_eq_error_iff] at h
    exact .inl (leafType_offence h)
  | reference facts pointer =>
    refine ⟨fun owner e h => .inl (leafType_offence h), fun owner required key cause =>
      blames_of_buildProperty ?_⟩
    intro e h
    rw [BuildRules.buildPlain] at h
    exact blames_of_resolve hcopies rfl h (.str key)
  | any facts =>
    refine ⟨fun owner e h => .inl (leafType_offence h), fun owner required key cause =>
      blames_of_buildProperty ?_⟩
    intro e h
    cases h
  | object facts properties required ih =>
    constructor
    · intro owner e h
      rw [BuildRules.itemType, Outcome.map_eq_error_iff] at h
      exact .inr ⟨_, ⟨properties, required, .object, rfl⟩, path_of_buildProperties ih h⟩
    · intro owner wanted key cause
      refine blames_of_buildProperty fun e h => ?_
      rw [BuildRules.buildPlain, Outcome.map_eq_error_iff] at h
      exact .inr ⟨_, .own .object, path_of_buildProperties ih h⟩
  | array facts items ih =>
    constructor
    · intro owner e h
      rw [BuildRules.itemType, Outcome.map_eq_error_iff] at h
      refine (ih.item owner e h).mono ?_
      rintro site ⟨properties, required, hholds, rfl⟩
      exact ⟨properties, required, .array hholds, rfl⟩
    · intro owner required key cause
      refine blames_of_buildProperty fun e h => ?_
      rw [BuildRules.buildPlain] at h
      -- An array of references is a pointer; any other array is looked into.
      cases hpointer : items.ownPointer? with
      | some pointer =>
        rw [hpointer, Option.isSome_some, if_pos rfl] at h
        have hnode : (Node.array facts items).pointer? = some pointer := hpointer
        exact blames_of_resolve hcopies hnode h (.str key)
      | none =>
        rw [hpointer, Option.isSome_none, if_neg Bool.false_ne_true, Outcome.map_eq_error_iff] at h
        refine (ih.item (.str key) e h).mono ?_
        rintro site ⟨properties, names, hholds, rfl⟩
        exact .own (.array hholds)

/-- What a definition fails with is to be blamed on the object that it is, or that it leads to. -/
theorem blames_of_build (hcopies : CopiesBlamed overrides definitions limit levels) {owner : Scalar}
    {node : Node} {e : CompileError}
    (h : (rulesWithin overrides definitions limit levels).build owner node = .error e) :
    (buildPhase overrides definitions limit).Blames
    (Opens definitions levels owner owner node) e := by
  -- A definition fails with what stands in it, or with the definition that it points to.
  cases node with
  | object facts properties required =>
    rw [BuildRules.build] at h
    exact .inr ⟨_, .own .object, path_of_buildProperties
      (fun property _ => nodeBlamed hcopies property.2) h⟩
  | array facts items =>
    rw [BuildRules.build] at h
    cases hpointer : items.ownPointer? with
    | some pointer =>
      rw [hpointer, Option.isSome_some, if_pos rfl, Outcome.map_eq_error_iff] at h
      have hnode : (Node.array facts items).pointer? = some pointer := hpointer
      exact blames_of_resolve hcopies hnode h owner
    | none =>
      rw [hpointer, Option.isSome_none, if_neg Bool.false_ne_true] at h
      split at h
      · rw [Outcome.map_eq_error_iff] at h
        refine ((nodeBlamed hcopies items).item owner e h).mono ?_
        rintro site ⟨properties, names, hholds, rfl⟩
        exact .own (.array hholds)
      · cases h
  | primitive facts type format =>
    rw [BuildRules.build] at h
    split at h
    · exact .inl (leafType_offence (Outcome.map_eq_error_iff.mp h))
    · cases h
  | reference facts pointer =>
    rw [BuildRules.build] at h
    exact blames_of_follow hcopies rfl h owner
  | any facts => cases h

/-! ## 6. All levels -/

/-- Copies are blamed for what they lead to, on every level. -/
theorem copiesBlamed (levels : Nat) : CopiesBlamed overrides definitions limit levels := by
  -- With no levels left a copy is refused; with one more it is the definition, with one level less
  -- below it.
  induction levels with
  | zero =>
    intro owner target e h
    cases hdefinition : Entries.get? definitions (.str target) with
    | none =>
      rw [expansion_undefined overrides definitions limit 0 owner hdefinition] at h
      rw [← Except.error.inj h]
      exact .inl rfl
    | some definition =>
      rw [expansion_zero overrides definitions limit owner hdefinition] at h
      rw [← Except.error.inj h]
      exact .inl rfl
  | succ n ih =>
    intro owner target e h
    cases hdefinition : Entries.get? definitions (.str target) with
    | none =>
      rw [expansion_undefined overrides definitions limit _ owner hdefinition] at h
      rw [← Except.error.inj h]
      exact .inl rfl
    | some definition =>
      rw [expansion_succ overrides definitions limit n owner hdefinition] at h
      refine (blames_of_build ih h).mono fun site hopens => ?_
      exact ⟨n, definition, rfl, hdefinition, hopens⟩

end Nodes

/-- **An object fails with the path to the first offence below it, and with nothing else.** -/
theorem buildNode_object_eq_error_iff (overrides : OverrideRules) (definitions : Definitions)
    (start : BuildStart) (facts : Facts) (properties : List (String × Node))
    (required : List String) (e : CompileError) :
    buildNode overrides definitions start (.object facts properties required) = .error e ↔
      (buildPhase overrides definitions start.limit).Path
        ⟨start.owner, (start.limit - start.depth).toNat, properties, required⟩ e := by
  have hbuild : buildNode overrides definitions start (.object facts properties required) =
      Site.build overrides definitions start.limit
        ⟨start.owner, (start.limit - start.depth).toNat, properties, required⟩ := by
    rw [buildNode, BuildRules.build]
    rfl
  rw [hbuild]
  constructor
  · intro h
    exact path_of_buildProperties (fun property _ => nodeBlamed (copiesBlamed _) property.2) h
  · exact Site.build_of_path

end ApiStore
