import ApiStore.Build
import ApiStore.Proofs.Outcome
/-
`Property.lean` -- a single property of an object.

The compiler goes through the properties of an object one after another, and the entry of
each depends on that property alone. `buildProperty` is what happens to one of them, from
its own shape to its override, and `buildProperties_cons` says that an object is compiled
by nothing else. Everything about an object is then an induction over a list.
-/
set_option autoImplicit false

namespace ApiStore

/-- The entry that a compiled property makes under its key; one that is dropped makes none. -/
def Compiled.entries (key : String) : Compiled → Entries Value
  | .dropped => []
  | c => [(.str key, c.toValue)]

/-- The override that counts for a node is its own, if it has one. -/
theorem Node.resolve_of_extension {overrides : OverrideRules} {node : Node} {e : Extension}
    (h : node.extension = some e) :
    overrides.resolve node = (overrides.payload node.raw e node.pointer?).map some := by
  have hoverride : node.override? = some (e, node.pointer?) := by
    unfold override?
    rw [h]
  rw [OverrideRules.resolve, hoverride]

namespace BuildRules

variable (rules : BuildRules)

/-- What one property compiles to: a marker around the override of its items, or its own shape,
marked if it is required, under its own override. What fails is reported under the property. -/
def buildProperty (owner : Scalar) (required : Bool) (key : String) (node : Node) :
    Except CompileError Compiled :=
  (if node.hasItemOverride then rules.overrides.arrayOf node
    else rules.buildPlain owner key node >>= fun plain =>
      rules.withOverride node (markRequired required plain)).mapError
        (.property (.str key) node.raw)

/-- A reserved property is passed over. -/
theorem buildProperties_cons_reserved (owner : Scalar) (required : List String) {key : String}
    (node : Node) (rest : List (String × Node)) (h : reservedNames.contains key = true) :
    rules.buildProperties owner required ((key, node) :: rest) =
      rules.buildProperties owner required rest := by
  rw [buildProperties, if_pos h]

/-- Any other property makes its entry before the rest is compiled. -/
theorem buildProperties_cons (owner : Scalar) (required : List String) {key : String} (node : Node)
    (rest : List (String × Node)) (h : reservedNames.contains key = false) :
    rules.buildProperties owner required ((key, node) :: rest) =
      rules.buildProperty owner (required.contains key) key node >>= fun compiled =>
        (rules.buildProperties owner required rest).map fun others => compiled.entries key ++
          others := by
  rw [buildProperties, if_neg (by rw [h]; exact Bool.false_ne_true), buildProperty]
  congr 1
  funext compiled
  cases compiled <;> cases rules.buildProperties owner required rest <;> rfl

/-- Properties are compiled one after another, and so are lists of them. -/
theorem buildProperties_append (owner : Scalar) (required : List String)
    (before after : List (String × Node)) :
    rules.buildProperties owner required (before ++ after) =
      rules.buildProperties owner required before >>= fun left =>
        (rules.buildProperties owner required after).map fun right => left ++ right := by
  induction before with
  | nil =>
    rw [List.nil_append, buildProperties]
    cases rules.buildProperties owner required after <;> rfl
  | cons property rest ih =>
    obtain ⟨key, node⟩ := property
    rw [List.cons_append]
    cases hk : reservedNames.contains key with
    | true =>
      rw [rules.buildProperties_cons_reserved _ _ _ _ hk,
        rules.buildProperties_cons_reserved _ _ _ _ hk, ih]
    | false =>
      rw [rules.buildProperties_cons _ _ _ _ hk, rules.buildProperties_cons _ _ _ _ hk, ih]
      cases rules.buildProperty owner (required.contains key) key node with
      | error e => rfl
      | ok compiled =>
        cases rules.buildProperties owner required rest with
        | error e => rfl
        | ok left =>
          cases rules.buildProperties owner required after with
          | error e => rfl
          | ok right => exact congrArg Except.ok (List.append_assoc _ _ _).symm

variable {rules}

/-- An object that compiles is what is before one of its properties, the entry of that property, and
what is after it. -/
theorem split_of_buildProperties {owner : Scalar} {required : List String}
    {before after : List (String × Node)} {key : String} {node : Node} {fields : Entries Value}
    (hk : reservedNames.contains key = false)
    (h : rules.buildProperties owner required (before ++ (key, node) :: after) = .ok fields) :
    ∃ left compiled right, rules.buildProperties owner required before = .ok left ∧
      rules.buildProperty owner (required.contains key) key node = .ok compiled ∧
      rules.buildProperties owner required after = .ok right ∧
        fields = left ++ (compiled.entries key ++ right) := by
  rw [buildProperties_append, Outcome.bind_eq_ok_iff] at h
  obtain ⟨left, hleft, h⟩ := h
  obtain ⟨others, hothers, rfl⟩ := Outcome.map_eq_ok_iff.mp h
  rw [rules.buildProperties_cons _ _ _ _ hk, Outcome.bind_eq_ok_iff] at hothers
  obtain ⟨compiled, hcompiled, hothers⟩ := hothers
  obtain ⟨right, hright, rfl⟩ := Outcome.map_eq_ok_iff.mp hothers
  exact ⟨left, compiled, right, hleft, hcompiled, hright, rfl⟩

/-- Every property that is not reserved compiles, and makes its entry. -/
theorem mem_of_buildProperties {owner : Scalar} {required : List String}
    {properties : List (String × Node)} {fields : Entries Value}
    (h : rules.buildProperties owner required properties = .ok fields) {key : String} {node : Node}
    (hmem : (key, node) ∈ properties) (hk : reservedNames.contains key = false) :
    ∃ compiled, rules.buildProperty owner (required.contains key) key node = .ok compiled ∧
      compiled.entries key ⊆ fields := by
  induction properties generalizing fields with
  | nil => cases hmem
  | cons property rest ih =>
    obtain ⟨first, other⟩ := property
    cases hfirst : reservedNames.contains first with
    | true =>
      rw [rules.buildProperties_cons_reserved owner required other rest hfirst] at h
      rcases List.mem_cons.mp hmem with heq | hrest
      · cases heq
        rw [hk] at hfirst
        cases hfirst
      · exact ih h hrest
    | false =>
      rw [rules.buildProperties_cons owner required other rest hfirst, Outcome.bind_eq_ok_iff] at h
      obtain ⟨compiled, hcompiled, h⟩ := h
      obtain ⟨others, hothers, rfl⟩ := Outcome.map_eq_ok_iff.mp h
      rcases List.mem_cons.mp hmem with heq | hrest
      · cases heq
        exact ⟨compiled, hcompiled, List.subset_append_left _ _⟩
      · obtain ⟨own, hown, hsub⟩ := ih hothers hrest
        exact ⟨own, hown, List.Subset.trans hsub (List.subset_append_right _ _)⟩

end BuildRules

end ApiStore
