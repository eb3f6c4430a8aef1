import ApiStore.Proofs.Build.Source
/-
`Slot.lean` -- where a property stands in a definition.

To say what one property contributes, everything around it has to be held still. A `Slot` is
a definition that one property is left out of: the object which the property belongs to,
and around that the arrays and properties by way of which the compiler comes to the object.
`Slot.fill` puts a node in, and two definitions that differ in one property alone are one
slot, filled twice.

**Not every object is compiled.** Reserved properties are passed over, and where the items of
a property that is an array have an override, it stands for them. So the outcome of a definition
either does not depend on the object at all, or it hangs on the object: it is a success only
if the object is one, and a success of the object is enough if one such is (`Outcome.Hinges`).
Which of the two it is can be read off the surroundings, and the induction is on these.
-/
set_option autoImplicit false

namespace ApiStore

/-! ## 1. Outcomes that hang on another -/

/-- Of two outcomes that vary together, the first hangs on the second: it is a success only where
the second is, and if it is one anywhere then wherever the second is. If it does not `reach` the
second, it does not vary at all. -/
structure Outcome.Hinges {ι α β : Type} (reaches : Bool) (x : ι → Except CompileError α)
    (y : ι → Except CompileError β) : Prop where
  same : reaches = false → ∀ i j, x i = x j
  needs : reaches = true → ∀ i, offence? (x i) = none → offence? (y i) = none
  enough : reaches = true → ∀ i j, offence? (x i) = none → offence? (y j) = none →
    offence? (x j) = none

namespace Outcome.Hinges

variable {ι α β γ δ : Type} {reaches : Bool} {x : ι → Except CompileError α}
  {y : ι → Except CompileError β}

/-- An outcome hangs on itself. -/
theorem refl (y : ι → Except CompileError β) : Hinges true y y where
  same := nofun
  needs _ _ hy := hy
  enough _ _ _ _ hy := hy

/-- What is always the same does not reach the other outcome. -/
theorem const (z : Except CompileError α) (y : ι → Except CompileError β) :
    Hinges false (fun _ => z) y where
  same _ _ _ := rfl
  needs := nofun
  enough := nofun

/-- Going on after the first outcome, where what follows does not fail for the result's sake. -/
theorem bind (h : Hinges reaches x y) {g : α → Except CompileError γ} {o : Option CompileError}
    (hg : ∀ a, offence? (g a) = o) : Hinges reaches (fun i => x i >>= g) y where
  same hr i j := by rw [h.same hr i j]
  needs hr i hx := by
    rw [offence?_bind hg, Option.or_eq_none_iff] at hx
    exact h.needs hr i hx.1
  enough hr i j hx hy := by
    rw [offence?_bind hg, Option.or_eq_none_iff] at hx ⊢
    exact ⟨h.enough hr i j hx.1 hy, hx.2⟩

/-- A map of the values leaves what the first outcome hangs on. -/
theorem map (h : Hinges reaches x y) (g : α → γ) : Hinges reaches (fun i => (x i).map g) y where
  same hr i j := by rw [h.same hr i j]
  needs hr i hx := h.needs hr i (by rwa [offence?_map] at hx)
  enough hr i j hx hy := by
    rw [offence?_map] at hx ⊢
    exact h.enough hr i j hx hy

/-- So does to report its errors as those of a property. -/
theorem property (h : Hinges reaches x y) (key : Scalar) (node : Value) :
    Hinges reaches (fun i => (x i).mapError (.property key node)) y where
  same hr i j := by rw [h.same hr i j]
  needs hr i hx := h.needs hr i (by rwa [offence?_property] at hx)
  enough hr i j hx hy := by
    rw [offence?_property] at hx ⊢
    exact h.enough hr i j hx hy

/-- Something that does not vary, before the first outcome. -/
theorem after (h : Hinges reaches x y) (z : Except CompileError γ) (g : γ → α → δ) :
    Hinges reaches (fun i => z >>= fun c => (x i).map (g c)) y := by
  cases z with
  | ok c => exact h.map (g c)
  | error e =>
    refine ⟨fun _ _ _ => rfl, fun _ _ hx => ?_, fun _ _ _ hx _ => ?_⟩
    · cases hx
    · cases hx

/-- What results are turned into, without loss, does not matter. -/
theorem of_map {g : α → γ} (hg : Function.Injective g)
    (h : Hinges reaches (fun i => (x i).map g) y) :
    Hinges reaches x y where
  same hr i j := by
    have hmapped := h.same hr i j
    cases hi : x i <;> cases hj : x j <;> simp_all [Except.map, hg.eq_iff]
  needs hr i hx := h.needs hr i (by rwa [offence?_map])
  enough hr i j hx hy := by
    have hmapped := h.enough hr i j (by rwa [offence?_map]) hy
    rwa [offence?_map] at hmapped

end Outcome.Hinges

open Outcome

/-- Compiled values with the same value are the same. -/
theorem Compiled.toValue_injective : Function.Injective Compiled.toValue := by
  intro c d h
  cases c <;> cases d <;> simp_all [Compiled.toValue]

/-! ## 2. The surroundings of an object -/

/-- In which way the compiler comes to a node: as to a definition, as to the items of an array, or
as to a property, which knows whether it is required. -/
inductive Way where
  | definition (owner : Scalar)
  | items (owner : Scalar)
  | property (owner : Scalar) (required : Bool) (key : String)

namespace Way

/-- The owner within the object or the array that is come to. -/
def owner : Way → Scalar
  | .definition owner | .items owner => owner
  | .property _ _ key => .str key

/-- What is compiled when the compiler comes to a node. -/
def source : Way → Node → Source
  | .definition owner => .definition owner
  | .items owner => .items owner
  | .property owner required key => .property owner required key

def needs : Way → Node → List Need
  | .definition owner => Node.needs owner
  | .items owner => Node.itemNeeds owner
  | .property owner _ key => Node.propertyNeeds owner key

/-- Whether the compiler goes on from an array to its items, which are no pointer and have the given
override. -/
def entersItems (facts : Facts) (own : Option Extension) : Way → Bool
  | .definition _ => isSimpleType (entry facts.raw "type")
  | .items _ => true
  | .property _ _ _ => own.isNone

/-- What is needed by the properties of an object is needed by the object. -/
theorem needs_object (way : Way) (facts : Facts) (properties : List (String × Node))
    (required : List String) :
    Node.propertiesNeeds way.owner properties ⊆ way.needs (.object facts properties required) := by
  cases way with
  | definition owner => rw [needs, Node.needs, Way.owner]; exact List.Subset.refl _
  | items owner => rw [needs, Node.itemNeeds, Way.owner]; exact List.Subset.refl _
  | property owner marked key =>
    rw [needs, Node.propertyNeeds, if_neg (by simp [Node.hasItemOverride]), Node.plainNeeds]
    exact List.subset_append_left _ _

/-- What is needed by the items of an array is needed by the array, if the compiler goes on to
them. -/
theorem needs_array (way : Way) {facts : Facts} {items : Node} (hown : items.ownPointer? = none)
    (h : way.entersItems facts items.extension = true) :
      items.itemNeeds way.owner ⊆ way.needs (.array facts items) := by
  cases way with
  | definition owner =>
    rw [entersItems] at h
    rw [needs, Node.needs, hown, h, if_pos rfl, Way.owner]
    exact List.Subset.refl _
  | items owner => rw [needs, Node.itemNeeds, Way.owner]; exact List.Subset.refl _
  | property owner marked key =>
    have hitems : (Node.array facts items).hasItemOverride = false := by
      rw [Node.hasItemOverride, Option.isSome_eq_false_iff]
      exact h
    rw [needs, Node.propertyNeeds, hitems, if_neg Bool.false_ne_true, Node.plainNeeds, hown]
    exact List.subset_append_left _ _

end Way

/-- What stands around an object, from the outside in. -/
inductive Context where
  | here
  | items (facts : Facts) (inside : Context)
  | property (facts : Facts) (before : List (String × Node)) (key : String) (inside : Context)
    (after : List (String × Node)) (required : List String)

namespace Context

/-- The node that an object makes with its surroundings. -/
def fill (object : Node) : Context → Node
  | .here => object
  | .items facts inside => .array facts (inside.fill object)
  | .property facts before key inside after required =>
    .object facts (before ++ (key, inside.fill object) :: after) required

/-- The override of the filled node, if the object has the given one. -/
def extension (own : Option Extension) : Context → Option Extension
  | .here => own
  | .items facts _ | .property facts _ _ _ _ _ => facts.extension

/-- The owner within the object. -/
def owner : Way → Context → Scalar
  | way, .here => way.owner
  | way, .items _ inside => inside.owner (.items way.owner)
  | way, .property _ _ key inside _ required =>
    inside.owner (.property way.owner (required.contains key) key)

/-- Whether the object is compiled, if it has the given override. -/
def isCompiled (own : Option Extension) : Way → Context → Bool
  | _, .here => true
  | way, .items facts inside =>
    way.entersItems facts (inside.extension own) && inside.isCompiled own (.items way.owner)
  | way, .property _ _ key inside _ required =>
    !reservedNames.contains key &&
      inside.isCompiled own (.property way.owner (required.contains key) key)

variable {facts : Facts} {properties : List (String × Node)} {required : List String}

/-- A context decides from the override of its object what its own is. -/
theorem extension_fill (object : Node) (context : Context) :
    (context.fill object).extension = context.extension object.extension := by
  cases context <;> rfl

/-- A pointer has nothing inside. -/
theorem ownPointer?_fill (context : Context) :
    (context.fill (.object facts properties required)).ownPointer? = none := by
  cases context <;> rfl

/-- A context around an object is no pointer. -/
theorem pointer?_fill (context : Context) :
    (context.fill (.object facts properties required)).pointer? = none := by
  cases context with
  | items facts inside => exact inside.ownPointer?_fill
  | _ => rfl

end Context

/-! ## 3. One step outwards -/

namespace BuildRules

variable {rules : BuildRules} {ι β : Type} {reaches : Bool} {y : ι → Except CompileError β}
  {facts : Facts} {required : List String}

/-- The override of an object does not depend on the properties. -/
theorem withOverride_object (properties : List (String × Node)) (compiled : Compiled) :
    rules.withOverride (.object facts properties required) compiled =
      rules.withOverride (.object facts [] required) compiled := by
  have hoverride : (Node.object facts properties required).override? =
      (Node.object facts [] required).override? := by
    unfold Node.override? Node.extension Node.facts
    cases facts.extension <;> rfl
  unfold withOverride OverrideRules.merge OverrideRules.resolve
  rw [hoverride]
  rfl

/-- An object hangs on whatever its properties do. -/
theorem object_hinges {properties : ι → List (String × Node)} {way : Way}
    (h : Hinges reaches (fun i => rules.buildProperties way.owner required (properties i)) y) :
    Hinges reaches (fun i => rules.compile (way.source (.object facts (properties i) required)))
      y := by
  cases way with
  | definition owner => exact h.map Value.map
  | items owner => exact h.map Value.map
  | property owner marked key =>
    have hplain := h.map Compiled.table
    have hnode := hplain.bind fun c =>
      rules.withOverride_offence? (.object facts [] required) (markRequired marked c)
    refine Hinges.map ?_ _
    have heach : ∀ i, rules.buildProperty owner marked key (.object facts (properties i) required) =
        ((rules.buildProperties (.str key) required (properties i)).map .table >>= fun c =>
          rules.withOverride (.object facts [] required) (markRequired marked c)).mapError
            (.property (.str key) (.map facts.raw)) := by
      intro i
      simp only [buildProperty, Node.hasItemOverride, buildPlain, withOverride_object,
        Bool.false_eq_true, if_false]
      rfl
    simp only [heach]
    exact hnode.property _ _

/-- All items with one override that carry no pointer are the same to the override of their
array. -/
theorem resolve_array {overrides : OverrideRules} {items : Node} {own : Option Extension}
    (hextension : items.extension = own) (hown : items.ownPointer? = none)
    (hpointer : items.pointer? = none) :
    overrides.resolve (.array facts items) = overrides.resolve
      (.array facts (.any ⟨[], own, .null⟩)) := by
  have hoverride : ∀ i : Node, (Node.array facts i).override? =
      match facts.extension with
      | some e => some (e, i.ownPointer?)
      | none => i.extension.map fun e => (e, i.pointer?) := by
    intro i
    unfold Node.override? Node.extension Node.facts
    cases facts.extension <;> rfl
  unfold OverrideRules.resolve
  rw [hoverride, hoverride, hextension, hown, hpointer]
  rfl

/-- An array hangs on whatever its items do, if the compiler goes on to these. -/
theorem array_hinges {child : ι → Node} {own : Option Extension} {way : Way}
    (hextension : ∀ i, (child i).extension = own) (hown : ∀ i, (child i).ownPointer? = none)
    (hpointer : ∀ i, (child i).pointer? = none)
    (h : Hinges reaches (fun i => rules.itemType way.owner (child i)) y) :
    Hinges (way.entersItems facts own && reaches)
      (fun i => rules.compile (way.source (.array facts (child i)))) y := by
  have hresolve : ∀ i, rules.overrides.resolve (.array facts (child i)) = _ :=
    fun i => resolve_array (hextension i) (hown i) (hpointer i)
  cases way with
  | definition owner =>
    refine Hinges.map ?_ _
    simp only [build, hown, Option.isSome_none, Bool.false_eq_true, if_false, Way.entersItems]
    cases isSimpleType (entry facts.raw "type") with
    | true =>
      simp only [if_true, Bool.true_and]
      exact h.map _
    | false => exact .const _ _
  | items owner => exact h.map fun t => Value.list [t]
  | property owner marked key =>
    refine Hinges.map ?_ _
    have hitems : ∀ i, (Node.array facts (child i)).hasItemOverride = own.isSome :=
      fun i => congrArg Option.isSome (hextension i)
    have hraw : ∀ i, (Node.array facts (child i)).raw = .map facts.raw := fun _ => rfl
    cases own with
    | some e =>
      -- The override of the items stands for the property.
      simp only [buildProperty, hitems, Option.isSome_some, if_true, OverrideRules.arrayOf,
        hresolve, hraw]
      exact .const _ _
    | none =>
      have hmerge : ∀ i compiled, rules.withOverride (.array facts (child i)) compiled =
          rules.withOverride (.array facts (.any ⟨[], none, .null⟩)) compiled := by
        intro i compiled
        simp only [withOverride, OverrideRules.merge, hresolve]
        rfl
      simp only [buildProperty, hitems, Option.isSome_none, Bool.false_eq_true, if_false,
        buildPlain, hown, hmerge, hraw]
      exact ((h.map _).bind fun _ => rules.withOverride_offence? _ _).property _ _

/-- So does a list of properties on one of them, if its name is not reserved. -/
theorem properties_hinges {child : ι → Node} {owner : Scalar} {key : String}
    (h : Hinges reaches (fun i => rules.buildProperty owner (required.contains key) key
      (child i)) y)
    (before after : List (String × Node)) :
    Hinges (!reservedNames.contains key && reaches)
      (fun i => rules.buildProperties owner required (before ++ (key, child i) :: after)) y := by
  induction before with
  | nil =>
    simp only [List.nil_append]
    cases hk : reservedNames.contains key with
    | true =>
      simp only [rules.buildProperties_cons_reserved owner required _ after hk]
      exact .const _ _
    | false =>
      simp only [rules.buildProperties_cons owner required _ after hk]
      exact h.bind fun _ => offence?_map _ _
  | cons property rest ih =>
    obtain ⟨first, node⟩ := property
    simp only [List.cons_append]
    cases hfirst : reservedNames.contains first with
    | true =>
      simp only [rules.buildProperties_cons_reserved owner required node _ hfirst]
      exact ih
    | false =>
      simp only [rules.buildProperties_cons owner required node _ hfirst]
      exact ih.after _ _

end BuildRules

/-! ## 4. All the way -/

namespace Context

variable {facts : Facts} {required : List String}

/-- **A definition hangs on an object in it** and on whatever that does, if the object is compiled.
The induction is on what stands around the object. -/
theorem hinges (rules : BuildRules) {ι β : Type} {reaches : Bool} {y : ι → Except CompileError β}
    {properties : ι → List (String × Node)} (context : Context) (way : Way)
    (h : Hinges reaches (fun i => rules.buildProperties (context.owner way) required
      (properties i)) y) :
    Hinges (context.isCompiled facts.extension way && reaches)
      (fun i => rules.compile (way.source (context.fill (.object facts (properties i) required))))
        y := by
  induction context generalizing way with
  | here => exact BuildRules.object_hinges h
  | items outer inside ih =>
    rw [isCompiled, Bool.and_assoc]
    exact BuildRules.array_hinges (fun _ => inside.extension_fill _)
      (fun _ => inside.ownPointer?_fill) (fun _ => inside.pointer?_fill) (ih _ h)
  | property outer before key inside after names ih =>
    rw [isCompiled, Bool.and_assoc]
    have hproperty := (ih _ h).of_map Compiled.toValue_injective
    exact BuildRules.object_hinges (BuildRules.properties_hinges hproperty before after)

/-- What the properties of a compiled object need is needed by the definition. -/
theorem propertiesNeeds_subset {context : Context} {way : Way} {properties : List (String × Node)}
    (h : context.isCompiled facts.extension way = true) :
    Node.propertiesNeeds (context.owner way) properties ⊆ way.needs
      (context.fill (.object facts properties required)) := by
  induction context generalizing way with
  | here => exact way.needs_object facts properties required
  | items outer inside ih =>
    rw [isCompiled, Bool.and_eq_true] at h
    have hown : (inside.fill (.object facts properties required)).ownPointer? = none :=
      inside.ownPointer?_fill
    have hextension : (inside.fill (.object facts properties required)).extension =
        inside.extension facts.extension :=
      inside.extension_fill _
    rw [← hextension] at h
    exact List.Subset.trans (ih h.2) (way.needs_array hown h.1)
  | property outer before key inside after names ih =>
    rw [isCompiled, Bool.and_eq_true, Bool.not_eq_true'] at h
    refine List.Subset.trans (ih h.2) (List.Subset.trans ?_ (way.needs_object outer _ names))
    exact Node.propertyNeeds_subset (List.mem_append_right before List.mem_cons_self) h.1 way.owner

end Context

/-! ## 5. Slots -/

/-- A definition that a property is left out of: what stands around an object, the object's facts
and required names, its other properties, and the name of the one that is left out. -/
structure Slot where
  context : Context
  facts : Facts
  before : List (String × Node)
  key : String
  after : List (String × Node)
  required : List String

namespace Slot

/-- The properties of the object, with a node for the one that is left out. -/
def properties (slot : Slot) (n : Node) : List (String × Node) :=
  slot.before ++ (slot.key, n) :: slot.after

/-- The definition, with a node for the property that is left out. -/
def fill (slot : Slot) (n : Node) : Node :=
  slot.context.fill (.object slot.facts (slot.properties n) slot.required)

/-- The owner within the object, in the definition of a name. -/
def owner (slot : Slot) (name : Scalar) : Scalar := slot.context.owner (.definition name)

/-- What the object compiles to by itself, before any override of what stands around it. -/
def fields (slot : Slot) (rules : BuildRules) (name : Scalar) (n : Node) :
    Except CompileError (Entries Value) :=
  rules.buildProperties (slot.owner name) slot.required (slot.properties n)

/-- Whether the property is compiled: the object is, and the name is not reserved. -/
def isCompiled (slot : Slot) (name : Scalar) : Bool :=
  slot.context.isCompiled slot.facts.extension (.definition name) &&
    !reservedNames.contains slot.key

variable (slot : Slot) (rules : BuildRules) (name : Scalar)

/-- A definition hangs on a property in it that is compiled, and does not depend on one that is
not. -/
theorem hinges : Hinges (slot.isCompiled name) (fun n => rules.build name (slot.fill n)) fun n =>
    rules.buildProperty (slot.owner name) (slot.required.contains slot.key) slot.key n := by
  refine Hinges.of_map (g := Value.map) (fun _ _ => Value.map.inj) ?_
  have hproperty := BuildRules.properties_hinges (.refl fun n =>
    rules.buildProperty (slot.owner name) (slot.required.contains slot.key) slot.key n) slot.before
      slot.after
  rw [Bool.and_true] at hproperty
  exact slot.context.hinges rules (.definition name) hproperty

/-- Where a definition compiles, so does an object in it that is compiled. -/
theorem exists_fields {slot : Slot} {rules : BuildRules} {name : Scalar}
    (h : slot.isCompiled name = true) {n : Node} {whole : Entries Value}
    (hwhole : rules.build name (slot.fill n) = .ok whole) :
    ∃ fields, slot.fields rules name n = .ok fields := by
  rw [isCompiled, Bool.and_eq_true] at h
  have hobject : Hinges (slot.context.isCompiled slot.facts.extension (.definition name) && true)
      (fun m => rules.compile (.definition name (slot.fill m))) (slot.fields rules name) :=
    slot.context.hinges rules (.definition name) (.refl _)
  rw [Bool.and_true] at hobject
  have hvalue : rules.compile (.definition name (slot.fill n)) = .ok (.map whole) :=
    congrArg (Except.map Value.map) hwhole
  exact offence?_eq_none_iff.mp (hobject.needs h.1 n (offence?_eq_none_iff.mpr ⟨_, hvalue⟩))

end Slot

end ApiStore
