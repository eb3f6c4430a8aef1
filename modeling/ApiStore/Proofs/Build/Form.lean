import ApiStore.Proofs.Build.Property
import ApiStore.Proofs.Entries
/-
`Form.lean` -- the form of what a property compiles to, and field maps that have a type.

What a property compiles to is nothing, a table or a marker, and which of them depends on
the shape of its node alone: no pointer has to be followed to tell. Overrides make tables
of everything, except that the override of an array's items makes a marker.

**A property named `type`.** The fields of an object stand under names that the document
chooses, and `type` may be one of them. A table with a type that is no table counts as a
single field (`isField`), so the fields of an object count as one if and only if a property
of that name compiles to a marker. Tables under `type` are what the rule was made for, and
a property that is dropped has no entry; markers are what it takes for the type of a field.
-/
set_option autoImplicit false

namespace ApiStore

/-! ## 1. Forms -/

/-- The forms of what a property compiles to. -/
inductive Form where
  | dropped
  | table
  | marker
  deriving DecidableEq, Repr

def Compiled.form : Compiled → Form
  | .dropped => .dropped
  | .table _ => .table
  | .marker _ => .marker

/-- What is not dropped makes an entry. -/
theorem Compiled.mem_entries {compiled : Compiled} (h : compiled.form ≠ .dropped) (key : String) :
    (.str key, compiled.toValue) ∈ compiled.entries key := by
  cases compiled with
  | dropped => exact absurd rfl h
  | table fields => exact List.mem_singleton_self _
  | marker items => exact List.mem_singleton_self _

namespace Node

/-- Whether a node is an array. -/
def isArray : Node → Bool
  | .array _ _ => true
  | _ => false

/-- The form of a property before its override. -/
def plainForm : Node → Form
  | .array _ items => if items.ownPointer?.isSome then .marker else .table
  | .any _ => .dropped
  | _ => .table

/-- The form of a property. -/
def form (node : Node) : Form :=
  if node.hasItemOverride then .marker else if node.extension.isSome then .table else node.plainForm

/-- A node that carries a pointer is not dropped. -/
theorem form_ne_dropped {node : Node} {pointer : String} (hp : node.pointer? = some pointer) :
    node.form ≠ .dropped := by
  have hplain : node.plainForm ≠ .dropped := by
    cases node with
    | reference facts p => simp [plainForm]
    | array facts items =>
      rw [plainForm]
      split <;> simp
    | primitive _ _ _ => cases hp
    | object _ _ _ => cases hp
    | any _ => cases hp
  rw [form]
  split
  · simp
  · split
    · simp
    · exact hplain

/-- The form of the entry that properties make under `type`: of the first one of that name that
makes any. -/
def typeForm (properties : List (String × Node)) : Form :=
  ((properties.find? fun (key, node) => key == "type" && node.form != .dropped).map
    (·.2.form)).getD .dropped

end Node

/-! ## 2. Properties have the form of their nodes -/

namespace BuildRules

variable {rules : BuildRules} {owner : Scalar} {node : Node} {compiled : Compiled}

theorem markRequired_form (required : Bool) (plain : Compiled) :
    (markRequired required plain).form = plain.form := by
  cases plain with
  | table fields =>
    rw [markRequired]
    split <;> rfl
  | _ => rfl

/-- An override makes a table of anything. -/
theorem withOverride_form {plain : Compiled} (h : rules.withOverride node plain = .ok compiled) :
    compiled.form = if node.extension.isSome then .table else plain.form := by
  unfold withOverride at h
  cases he : node.extension with
  | none =>
    simp only [he, Option.isSome_none, Bool.false_eq_true, if_false, Except.ok.injEq] at h
    simp [h]
  | some e =>
    have hresolve : rules.overrides.resolve node =
        (rules.overrides.payload node.raw e node.pointer?).map some := by
      simp only [OverrideRules.resolve, Node.override?, he]
    simp only [he, Option.isSome_some, if_true, OverrideRules.merge, hresolve] at h
    obtain ⟨payload, hpayload, rfl⟩ := Outcome.map_eq_ok_iff.mp h
    obtain ⟨entries, -, rfl⟩ := Outcome.map_eq_ok_iff.mp hpayload
    rfl

/-- A pointer leads to a table, and the pointer of an array to a marker. -/
theorem resolve_form (h : rules.resolve owner node false = .ok compiled) :
    compiled.form = if node.isArray then .marker else .table := by
  obtain ⟨r, hr, h⟩ := Outcome.bind_eq_ok_iff.mp h
  obtain ⟨fields, -, h⟩ := Outcome.bind_eq_ok_iff.mp h
  have hmany : r.many = node.isArray := by
    unfold Reference.describe at hr
    split at hr
    · cases hr
    · split at hr
      · cases hr
      · rw [← Except.ok.inj hr]
        cases node <;> rfl
  rw [← Except.ok.inj h, Compiled.ofTable, hmany]
  split <;> rfl

theorem buildPlain_form {key : String} (h : rules.buildPlain owner key node = .ok compiled) :
    compiled.form = node.plainForm := by
  cases node with
  | primitive facts type format =>
    obtain ⟨t, -, rfl⟩ := Outcome.map_eq_ok_iff.mp h
    rfl
  | array facts items =>
    rw [buildPlain] at h
    rw [Node.plainForm]
    split at h
    · rw [resolve_form h, Node.isArray, if_pos rfl, if_pos ‹_›]
    · obtain ⟨t, -, rfl⟩ := Outcome.map_eq_ok_iff.mp h
      rw [if_neg ‹_›]
      rfl
  | object facts properties required =>
    obtain ⟨fields, -, rfl⟩ := Outcome.map_eq_ok_iff.mp h
    rfl
  | reference facts pointer => exact resolve_form h
  | any facts =>
    rw [← Except.ok.inj h]
    rfl

/-- What a property compiles to has the form of its node, whatever its name and its owner are and
wherever its pointers lead. -/
theorem buildProperty_form {required : Bool} {key : String}
    (h : rules.buildProperty owner required key node = .ok compiled) :
    compiled.form = node.form := by
  rw [buildProperty, Outcome.mapError_eq_ok_iff] at h
  rw [Node.form]
  split at h
  · rename_i hitems
    rw [if_pos hitems]
    obtain ⟨payload, -, rfl⟩ := Outcome.map_eq_ok_iff.mp h
    rfl
  · rename_i hitems
    rw [if_neg hitems]
    obtain ⟨plain, hplain, h⟩ := Outcome.bind_eq_ok_iff.mp h
    rw [withOverride_form h, markRequired_form, buildPlain_form hplain]

/-! ## 3. Field maps that have a type -/

theorem typeForm_cons {key : String} {rest : List (String × Node)} :
    Node.typeForm ((key, node) :: rest) =
      if key = "type" ∧ node.form ≠ .dropped then node.form else Node.typeForm rest := by
  unfold Node.typeForm
  by_cases h : key = "type" ∧ node.form ≠ .dropped
  · rw [if_pos h, List.find?_cons_of_pos (by simpa using h)]
    rfl
  · rw [if_neg h, List.find?_cons_of_neg (by simpa using h)]

/-- The entry that the properties of an object make under `type` has the form that their nodes
tell. -/
theorem get?_type_of_buildProperties {required : List String} {properties : List (String × Node)}
    {fields : Entries Value} (h : rules.buildProperties owner required properties = .ok fields) :
    ∃ compiled : Compiled, compiled.form = Node.typeForm properties ∧
      Entries.get? fields (.str "type") = Entries.get? (compiled.entries "type") (.str "type") := by
  induction properties generalizing fields with
  | nil =>
    obtain rfl := Except.ok.inj h
    exact ⟨.dropped, rfl, rfl⟩
  | cons property rest ih =>
    obtain ⟨key, node⟩ := property
    rw [typeForm_cons]
    cases hk : reservedNames.contains key with
    | true =>
      rw [rules.buildProperties_cons_reserved owner required node rest hk] at h
      have htype : key ≠ "type" := by
        rintro rfl
        cases hk
      rw [if_neg (htype ·.1)]
      exact ih h
    | false =>
      rw [rules.buildProperties_cons owner required node rest hk, Outcome.bind_eq_ok_iff] at h
      obtain ⟨compiled, hcompiled, h⟩ := h
      obtain ⟨others, hothers, rfl⟩ := Outcome.map_eq_ok_iff.mp h
      rw [← buildProperty_form hcompiled]
      by_cases htype : key = "type" ∧ compiled.form ≠ .dropped
      · rw [if_pos htype]
        obtain ⟨rfl, hform⟩ := htype
        refine ⟨compiled, rfl, ?_⟩
        cases compiled with
        | dropped => exact absurd rfl hform
        | _ => rfl
      · -- A property of another name, or one that makes no entry, leaves it to the rest.
        rw [if_neg htype]
        obtain ⟨entry, hentry, hget⟩ := ih hothers
        refine ⟨entry, hentry, ?_⟩
        rw [← hget]
        cases compiled with
        | dropped => rfl
        | _ => exact if_neg (by simpa [Compiled.form] using htype)

/-- The fields of an object count as a single field exactly if the entry under `type` is a
marker. -/
theorem isField_of_buildProperties {required : List String} {properties : List (String × Node)}
    {fields : Entries Value} (h : rules.buildProperties owner required properties = .ok fields) :
    isField fields = (Node.typeForm properties == .marker) := by
  obtain ⟨compiled, hform, hget⟩ := get?_type_of_buildProperties h
  rw [isField, hget, ← hform]
  cases compiled <;> rfl

/-- A marker under `type` is found there. -/
theorem exists_marker_of_buildProperties {required : List String}
    {properties : List (String × Node)} {fields : Entries Value}
    (h : rules.buildProperties owner required properties = .ok fields)
    (hform : Node.typeForm properties = .marker) :
    ∃ items, Entries.get? fields (.str "type") = some (.list items) := by
  obtain ⟨compiled, hcompiled, hget⟩ := get?_type_of_buildProperties h
  rw [hform] at hcompiled
  cases compiled with
  | marker items => exact ⟨items, hget⟩
  | dropped => cases hcompiled
  | table entries => cases hcompiled

/-- The object of a property without an override is a table of its fields, which is marked as
required only if it counts as a single field. -/
theorem buildProperty_object {required : Bool} {key : String} {facts : Facts}
    {properties : List (String × Node)} {names : List String} (he : facts.extension = none)
    (h : rules.buildProperty owner required key (.object facts properties names) = .ok compiled) :
    ∃ fields, rules.buildProperties (.str key) names properties = .ok fields ∧
      compiled = markRequired required (.table fields) := by
  rw [buildProperty, Outcome.mapError_eq_ok_iff] at h
  obtain ⟨plain, hplain, h⟩ := Outcome.bind_eq_ok_iff.mp h
  obtain ⟨fields, hfields, rfl⟩ := Outcome.map_eq_ok_iff.mp hplain
  have hnone : (Node.object facts properties names).extension.isSome = false := by
    rw [Node.extension, Node.facts, he, Option.isSome_none]
  rw [withOverride, hnone] at h
  exact ⟨fields, hfields, (Except.ok.inj h).symm⟩

end BuildRules

end ApiStore
