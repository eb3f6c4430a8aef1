import ApiStore.Proofs.Build.Form
import ApiStore.Proofs.Build.SelfPointer
import ApiStore.Proofs.Likeness
/-
`Likeness.lean` -- nodes that are alike compile alike.

Two nodes are alike if they have the same shape, part by part, and differ only in what the
compiler does not look at or hands on as it is. Of the raw data of a node that is all but
the question whether its type is a simple one; of a pointer it is the root; and defaults
and the options of overrides are quoted, so that they need only go together.

**One walk over two nodes.** `build_alike` follows both nodes at once and says that their
outcomes go together if those of all copies do. That the tables of both count as a single
field together does not follow from their being alike, since a quoted entry may stand under
`type`; but what an object counts as can be read off the forms of its properties, and those
are the same in both.
-/
set_option autoImplicit false

namespace ApiStore

open Outcome (Related)

/-! ## 1. Nodes -/

/-- Two pointers that lead to one name and are written down as one name. -/
structure Pointer.Alike (p q : String) : Prop where
  parse? : Pointer.parse? p = Pointer.parse? q
  name? : pointerName? (some p) = pointerName? (some q)

namespace Likeness

/-- Overrides with one type and one target, whose options go together. -/
structure Overrides (L : Likeness) (d e : Extension) : Prop where
  type : d.type = e.type
  ref : d.ref = e.ref
  options : L.Tables d.options e.options

/-- Facts of a leaf or an array: the overrides and the defaults go together, and whether there is a
default and whether the type is simple is the same. -/
structure Leaves (L : Likeness) (f g : Facts) : Prop where
  extension : Option.Rel L.Overrides f.extension g.extension
  simple : isSimpleType (entry f.raw "type") = isSimpleType (entry g.raw "type")
  truthy : f.default.isTruthy = g.default.isTruthy
  default : f.default.isTruthy = true → L.Quoted f.default g.default

mutual

/-- Nodes that the compiler cannot tell apart, up to what they quote. -/
inductive Nodes (L : Likeness) : Node → Node → Prop
  | primitive {f g : Facts} {type : String} {format : Option String} (h : L.Leaves f g) :
    Nodes L (.primitive f type format) (.primitive g type format)
  | array {f g : Facts} {i j : Node} (h : L.Leaves f g) (hitems : Nodes L i j) :
    Nodes L (.array f i) (.array g j)
  | object {f g : Facts} {ps qs : List (String × Node)} {required : List String}
    (h : Option.Rel L.Overrides f.extension g.extension) (hproperties : Properties L ps qs) :
    Nodes L (.object f ps required) (.object g qs required)
  | reference {f g : Facts} {p q : String} (h : Option.Rel L.Overrides f.extension g.extension)
    (hpointers : Pointer.Alike p q) : Nodes L (.reference f p) (.reference g q)
  | any {f g : Facts} (h : Option.Rel L.Overrides f.extension g.extension) :
    Nodes L (.any f) (.any g)

/-- Properties under the same names in the same order. -/
inductive Properties (L : Likeness) : List (String × Node) → List (String × Node) → Prop
  | nil : Properties L [] []
  | cons {key : String} {n m : Node} {ps qs : List (String × Node)} (h : Nodes L n m)
    (rest : Properties L ps qs) :
    Properties L ((key, n) :: ps) ((key, m) :: qs)

end

variable {L : Likeness} {n m : Node}

namespace Nodes

/-- Nodes that are alike have overrides that go together, or none. -/
theorem extension (h : L.Nodes n m) : Option.Rel L.Overrides n.extension m.extension := by
  cases h with
  | primitive h => exact h.extension
  | array h _ => exact h.extension
  | object h _ => exact h
  | reference h _ => exact h
  | any h => exact h

/-- So one of them has an override if the other does. -/
theorem extension_isSome (h : L.Nodes n m) : n.extension.isSome = m.extension.isSome :=
  isSome_eq_of_rel h.extension

/-- The pointers of references that are alike lead to one name. Other nodes are no references. -/
theorem ownPointer? (h : L.Nodes n m) : Option.Rel Pointer.Alike n.ownPointer? m.ownPointer? := by
  cases h with
  | reference _ hpointers => exact .some hpointers
  | _ => exact .none

/-- The same is true of the pointers that they carry, whether themselves or in their items. -/
theorem pointer? (h : L.Nodes n m) : Option.Rel Pointer.Alike n.pointer? m.pointer? := by
  cases h with
  | array _ hitems => exact hitems.ownPointer?
  | reference _ hpointers => exact .some hpointers
  | _ => exact .none

/-- The compiler asks what is an array, and the answer is the same for both. -/
theorem isArray (h : L.Nodes n m) : n.isArray = m.isArray := by
  cases h <;> rfl

/-- It asks for overrides of items as well. -/
theorem hasItemOverride (h : L.Nodes n m) : n.hasItemOverride = m.hasItemOverride := by
  cases h with
  | array _ hitems => exact hitems.extension_isSome
  | _ => rfl

/-- And it asks for references, which decides how an array is compiled. -/
theorem ownPointer?_isSome (h : L.Nodes n m) : n.ownPointer?.isSome = m.ownPointer?.isSome :=
  isSome_eq_of_rel h.ownPointer?

/-- What a property will be as an entry is read off shapes, overrides and pointers, and all of these
go together. -/
theorem form (h : L.Nodes n m) : n.form = m.form := by
  have hplain : n.plainForm = m.plainForm := by
    cases h with
    | array _ hitems => rw [Node.plainForm, Node.plainForm, hitems.ownPointer?_isSome]
    | _ => rfl
  rw [Node.form, Node.form, h.hasItemOverride, h.extension_isSome, hplain]

/-- The overrides that count for two nodes, and the pointers next to them. -/
theorem override? (h : L.Nodes n m) :
    Option.Rel (fun d e => L.Overrides d.1 e.1 ∧
      Option.Rel Pointer.Alike d.2 e.2) n.override? m.override? := by
  have hown := h.extension
  have hpointer := h.pointer?
  unfold Node.override?
  generalize n.extension = d at hown ⊢
  generalize m.extension = e at hown ⊢
  cases hown with
  | some hde => exact .some ⟨hde, hpointer⟩
  | none =>
    cases h with
    | array _ hitems =>
      have hitem := hitems.extension
      dsimp only
      generalize Node.extension _ = d at hitem ⊢
      generalize Node.extension _ = e at hitem ⊢
      cases hitem with
      | some hde => exact .some ⟨hde, hitems.pointer?⟩
      | none => exact .none
    | _ => exact .none

/-- Copies leave the same behind: what an object requires. -/
theorem forCopy (h : L.Nodes n m) : L.Nodes n.forCopy m.forCopy := by
  cases h with
  | primitive h => exact .primitive h
  | array h hitems => exact .array h hitems
  | object h hproperties => exact .object h hproperties
  | reference h hpointers => exact .reference h hpointers
  | any h => exact .any h

end Nodes

/-- Whether an object counts as a single field depends on the form of the property `type` alone. -/
theorem Properties.typeForm {ps qs : List (String × Node)} (h : L.Properties ps qs) :
    Node.typeForm ps = Node.typeForm qs := by
  induction ps generalizing qs with
  | nil =>
    cases h
    rfl
  | cons property rest ih =>
    cases h with
    | cons hnode hrest =>
      rw [BuildRules.typeForm_cons, BuildRules.typeForm_cons, hnode.form, ih hrest]

/-! ## 2. Parts of a compiled node -/

/-- Compiled properties that go together. -/
inductive Shapes (L : Likeness) : Compiled → Compiled → Prop
  | dropped : Shapes L .dropped .dropped
  | table {x y : Entries Value} (h : L.Tables x y) : Shapes L (.table x) (.table y)
  | marker {v w : Value} (h : L.Values v w) : Shapes L (.marker [v]) (.marker [w])

/-- Compiled fields that go together, and are a single field or not. -/
structure Fields (L : Likeness) (x y : Entries Value) : Prop where
  tables : L.Tables x y
  isField : isField x = isField y

/-- Compiled properties that go together before their overrides. -/
inductive Plain (L : Likeness) : Compiled → Compiled → Prop
  | dropped : Plain L .dropped .dropped
  | table {x y : Entries Value} (h : L.Fields x y) : Plain L (.table x) (.table y)
  | marker {v w : Value} (h : L.Values v w) : Plain L (.marker [v]) (.marker [w])

variable (L) in
/-- The compiler writes under `type` and `ref` itself, and neither is reserved. -/
theorem key_type : L.Key (.str "type") := L.key_of_not_reserved "type" rfl

variable (L) in
/-- So both are keys that tables which go together may have. -/
theorem key_ref : L.Key (.str "ref") := L.key_of_not_reserved "ref" rfl

/-- The data of compiled properties goes together as the properties do. -/
theorem Shapes.toValue {c d : Compiled} (h : L.Shapes c d) : L.Values c.toValue d.toValue := by
  cases h with
  | dropped => exact .atom .null
  | table h => exact .table h
  | marker h => exact .marker h

/-- That two tables are a single field together is needed up to the override, and not any more
afterwards. -/
theorem Plain.shapes {c d : Compiled} (h : L.Plain c d) : L.Shapes c d := by
  cases h with
  | dropped => exact .dropped
  | table h => exact .table h.tables
  | marker h => exact .marker h

/-- The entries that compiled properties make under one key, which is not reserved, go together. -/
theorem Shapes.entries {c d : Compiled} (h : L.Shapes c d) {key : String}
    (hk : reservedNames.contains key = false) :
    L.Tables (c.entries key) (d.entries key) := by
  have hkey := L.key_of_not_reserved key hk
  cases h with
  | dropped => exact .nil
  | table h => exact .made hkey (.table h) .nil
  | marker h => exact .made hkey (.marker h) .nil

/-- What a pointer leads to goes together in a list as well. -/
theorem Plain.ofTable {x y : Entries Value} (h : L.Fields x y) (many : Bool) :
    L.Plain (.ofTable many x) (.ofTable many y) := by
  cases many with
  | true => exact .marker (.table h.tables)
  | false => exact .table h

variable (L) in
/-- Two pointers that are alike have one stub. -/
theorem stub_fields (target : String) : L.Fields (Reference.stub target) (Reference.stub target) :=
  ⟨.made L.key_type (.atom _) (.made L.key_ref (.atom _) .nil), rfl⟩

/-- Single fields of types that go together. -/
theorem Values.typed {v w : Value} (h : L.Values v w) :
    L.Fields (BuildRules.typed v) (BuildRules.typed w) := by
  refine ⟨.made L.key_type h .nil, ?_⟩
  cases h <;> rfl

/-- Defaults are quoted, but whether there is one is the same for both, so both fields get one or
neither does. -/
theorem Leaves.withDefault {f g : Facts} (h : L.Leaves f g) {v w : Value} (hvw : L.Values v w) :
    L.Fields (BuildRules.withDefault f.default (BuildRules.typed v))
      (BuildRules.withDefault g.default (BuildRules.typed w)) := by
  unfold BuildRules.withDefault
  rw [← h.truthy]
  split
  · rename_i htruthy
    have hkey : L.Key (.str "default") := L.key_of_not_reserved "default" rfl
    refine ⟨hvw.typed.tables.insert hkey (.inr (h.default htruthy)), ?_⟩
    cases hvw <;> rfl
  · exact hvw.typed

/-- The mark of a required property depends on what is a single field, which is the same for
both. -/
theorem Plain.markRequired {c d : Compiled} (h : L.Plain c d) (required : Bool) :
    L.Shapes (BuildRules.markRequired required c) (BuildRules.markRequired required d) := by
  cases h with
  | dropped => exact .dropped
  | marker h => exact .marker h
  | table h =>
    simp only [BuildRules.markRequired, h.isField]
    split
    · exact .table (h.tables.insert (L.key_of_not_reserved "required" rfl) (.inl (.atom _)))
    · exact .table h.tables

/-- What an override is laid over goes together. -/
theorem Shapes.base {c d : Compiled} (h : L.Shapes c d) : L.Tables c.base d.base := by
  cases h with
  | dropped => exact .nil
  | table h => exact h
  | marker h => exact .made L.key_type (.marker h) .nil

/-! ## 3. Errors of nodes that are alike -/

/-- The type and the format decide; the raw data is only in the report. -/
theorem storageType_alike (raw other : Value) (type : String) (format : Option String) :
    Related CompileError.Alike Eq (storageType raw type format)
      (storageType other type format) := by
  unfold storageType
  split
  · exact .ok rfl
  · split
    · split
      · exact .ok rfl
      · exact .error ⟨rfl, rfl, rfl⟩
    · split
      · exact .ok rfl
      · exact .error ⟨rfl, rfl, rfl⟩

/-- The types of leaves go together. Where there is none, the errors differ in the raw data that
they report, and in nothing else. -/
theorem leafType_alike (h : L.Nodes n m) :
    Related CompileError.Alike L.Values (leafType n) (leafType m) := by
  cases h with
  | primitive h => exact (storageType_alike _ _ _ _).map fun t u htu => htu ▸ .atom _
  | array h hitems => exact .error ⟨rfl, rfl, rfl⟩
  | object h hproperties => exact .error ⟨rfl, rfl, rfl⟩
  | reference h hpointers => exact .error ⟨rfl, rfl, rfl⟩
  | any h => exact .error ⟨rfl, rfl, rfl⟩

/-- Pointers that are alike are described alike: they have one target, and so they are circular for
the same owners. -/
theorem describe_alike (h : L.Nodes n m) (owner : Scalar) (inArray : Bool) :
    Related CompileError.Alike Eq (Reference.describe n owner inArray)
      (Reference.describe m owner inArray) := by
  have hpointer := h.pointer?
  cases hp : n.pointer? with
  | none =>
    rw [hp] at hpointer
    cases hq : m.pointer? with
    | none =>
      simp only [Reference.describe, hp, hq]
      exact .error ⟨rfl, rfl, rfl⟩
    | some q =>
      rw [hq] at hpointer
      cases hpointer
  | some p =>
    cases hq : m.pointer? with
    | none =>
      rw [hp, hq] at hpointer
      cases hpointer
    | some q =>
      rw [hp, hq] at hpointer
      cases hpointer with
      | some hpq =>
        cases ht : Pointer.parse? p with
        | none =>
          have ht' := hpq.parse? ▸ ht
          simp only [Reference.describe, hp, hq, ht, ht']
          exact .error ⟨rfl, rfl, rfl⟩
        | some target =>
          rw [Reference.describe_eq inArray hp ht, Reference.describe_eq inArray hq
            (hpq.parse? ▸ ht), h.isArray]
          exact .ok rfl

variable {overrides : OverrideRules}

/-- The payloads of overrides that go together do, too. The pointer next to an override is read for
its name only. -/
theorem payload_alike {d e : Extension} (h : L.Overrides d e) {p q : Option String}
    (hpq : Option.Rel Pointer.Alike p q) (raw other : Value) :
    Related CompileError.Alike L.Tables (overrides.payload raw d p)
      (overrides.payload other e q) := by
  have hname : pointerName? p = pointerName? q := by
    cases hpq with
    | none => rfl
    | some hpq => exact hpq.name?
  unfold OverrideRules.payload
  rw [← h.type, ← h.ref, ← hname]
  extract_lets targeted marked targeted' marked'
  have htargeted : L.Tables targeted targeted' := by
    unfold targeted targeted'
    split
    · exact h.options.insert L.key_ref (.inl (.atom _))
    · exact h.options
  have htyped : ∀ t : StorageType, L.Tables (Entries.insert targeted (.str "type") t.toValue)
      (Entries.insert targeted' (.str "type") t.toValue) :=
    fun t => htargeted.insert L.key_type (.inl (.atom _))
  split
  · exact .ok htargeted
  · split
    · split
      · exact .ok ((htyped .objectId).insert L.key_ref (.inl (.atom _)))
      · exact .ok (htyped .objectId)
    · split
      · exact .ok (htyped _)
      · exact .error ⟨rfl, rfl, rfl⟩

/-- So do the payloads of the overrides that count for two nodes. -/
theorem resolve_alike (h : L.Nodes n m) :
    Related CompileError.Alike (Option.Rel L.Tables) (overrides.resolve n)
      (overrides.resolve m) := by
  have hoverride := h.override?
  unfold OverrideRules.resolve
  generalize n.override? = d at hoverride ⊢
  generalize m.override? = e at hoverride ⊢
  cases hoverride with
  | none => exact .ok .none
  | some hde => exact (payload_alike hde.1 hde.2 _ _).map fun _ _ hxy => .some hxy

/-- Laying them over compiled properties that go together keeps these together. -/
theorem merge_alike (h : L.Nodes n m) {c d : Compiled} (hcd : L.Shapes c d) :
    Related CompileError.Alike L.Shapes (overrides.merge c n) (overrides.merge d m) := by
  refine (resolve_alike h).map fun x y hxy => ?_
  cases hxy with
  | none => exact hcd
  | some hxy => exact .table (hcd.base.overlay hxy)

/-- The override of items stands for the property in both. -/
theorem arrayOf_alike (h : L.Nodes n m) :
    Related CompileError.Alike L.Shapes (overrides.arrayOf n) (overrides.arrayOf m) := by
  refine (resolve_alike h).map fun x y hxy => ?_
  cases hxy with
  | none => exact .marker (.table .nil)
  | some hxy => exact .marker (.table hxy)

/-! ## 4. The walk over two nodes -/

variable {f g : Scalar → String → Except CompileError (Entries Value)}

/-- All copies go together. -/
def Copies (L : Likeness) (f g : Scalar → String → Except CompileError (Entries Value)) : Prop :=
  ∀ owner target, Related CompileError.Alike L.Fields (f owner target) (g owner target)

/-- A reference leads to a stub in both runs, or to copies that go together. -/
theorem follow_alike (hfg : L.Copies f g) (owner : Scalar) (r : Reference) :
    Related CompileError.Alike L.Fields (BuildRules.follow ⟨overrides, f⟩ owner r)
      (BuildRules.follow ⟨overrides, g⟩ owner r) := by
  unfold BuildRules.follow
  split
  · exact .ok (L.stub_fields r.target)
  · exact hfg owner r.target

/-- What nodes that carry pointers compile to goes together. -/
theorem pointer_alike (hfg : L.Copies f g) (h : L.Nodes n m) (owner : Scalar) (inArray : Bool) :
    Related CompileError.Alike L.Plain (BuildRules.resolve ⟨overrides, f⟩ owner n inArray)
      (BuildRules.resolve ⟨overrides, g⟩ owner m inArray) := by
  unfold BuildRules.resolve
  refine (describe_alike h owner inArray).bind ?_
  rintro r _ rfl
  exact (follow_alike hfg owner r).bind fun x y hxy => .ok (.ofTable hxy r.many)

/-- One property goes together with the other, if their own shapes do. -/
theorem buildProperty_alike (h : L.Nodes n m) (owner : Scalar) (required : Bool) (key : String)
    (hplain : Related CompileError.Alike L.Plain (BuildRules.buildPlain ⟨overrides, f⟩ owner key n)
      (BuildRules.buildPlain ⟨overrides, g⟩ owner key m)) :
    Related CompileError.Alike L.Shapes
      (BuildRules.buildProperty ⟨overrides, f⟩ owner required key n)
      (BuildRules.buildProperty ⟨overrides, g⟩ owner required key m) := by
  unfold BuildRules.buildProperty
  refine Related.mapError (E := CompileError.Alike) ?_ fun d e hde => hde.property
    (.str key) n.raw m.raw
  rw [← h.hasItemOverride]
  split
  · exact arrayOf_alike h
  · refine hplain.bind fun c d hcd => ?_
    unfold BuildRules.withOverride
    rw [← h.extension_isSome]
    split
    · exact merge_alike h (hcd.markRequired required)
    · exact .ok (hcd.markRequired required)

mutual

/-- **Nodes that are alike compile alike**, if all copies do. -/
theorem build_alike (hfg : L.Copies f g) (owner : Scalar) : (n : Node) → {m : Node} → L.Nodes n m →
    Related CompileError.Alike L.Fields (BuildRules.build ⟨overrides, f⟩ owner n)
      (BuildRules.build ⟨overrides, g⟩ owner m)
  | .object _ ps required, _, .object _ hproperties => by
    rw [BuildRules.build, BuildRules.build]
    refine (buildProperties_alike hfg owner required ps hproperties).mono fun x y hx hy hxy =>
      ⟨hxy, ?_⟩
    rw [BuildRules.isField_of_buildProperties hx, BuildRules.isField_of_buildProperties hy,
      hproperties.typeForm]
  | .array _ items, _, .array h hitems => by
    rw [BuildRules.build, BuildRules.build, ← hitems.ownPointer?_isSome, ← h.simple]
    split
    · exact (pointer_alike hfg (.array h hitems) owner true).map fun c d hcd =>
        hcd.shapes.toValue.typed
    · split
      · exact (itemType_alike hfg owner items hitems).map fun v w hvw => (Values.marker hvw).typed
      · exact .ok ⟨.nil, rfl⟩
  | .primitive _ _ _, _, .primitive h => by
    rw [BuildRules.build, BuildRules.build, ← h.simple]
    split
    · exact (leafType_alike (.primitive h)).map fun v w hvw => hvw.typed
    · exact .ok ⟨.nil, rfl⟩
  | .reference _ _, _, .reference h hpointers => by
    rw [BuildRules.build, BuildRules.build]
    refine (describe_alike (.reference h hpointers) owner false).bind ?_
    rintro r _ rfl
    exact follow_alike hfg owner r
  | .any _, _, .any _ => .ok ⟨.nil, rfl⟩

/-- The types of the items of arrays go together. -/
theorem itemType_alike (hfg : L.Copies f g) (owner : Scalar) : (n : Node) → {m : Node} →
    L.Nodes n m → Related CompileError.Alike L.Values (BuildRules.itemType ⟨overrides, f⟩ owner n)
      (BuildRules.itemType ⟨overrides, g⟩ owner m)
  | .array _ items, _, .array _ hitems => by
    rw [BuildRules.itemType, BuildRules.itemType]
    exact (itemType_alike hfg owner items hitems).map fun v w hvw => .marker hvw
  | .object _ ps required, _, .object _ hproperties => by
    rw [BuildRules.itemType, BuildRules.itemType]
    exact (buildProperties_alike hfg owner required ps hproperties).map fun x y hxy => .table hxy
  | .primitive _ _ _, _, .primitive h => by
    rw [BuildRules.itemType, BuildRules.itemType]
    exact leafType_alike (.primitive h)
  | .reference _ _, _, .reference h hpointers => by
    rw [BuildRules.itemType, BuildRules.itemType]
    exact leafType_alike (.reference h hpointers)
  | .any _, _, .any h => by
    rw [BuildRules.itemType, BuildRules.itemType]
    exact leafType_alike (.any h)

/-- The own shapes of two properties do. An object in them is looked at as a whole, since it may
count as a single field. -/
theorem buildPlain_alike (hfg : L.Copies f g) (owner : Scalar) (key : String) : (n : Node) →
    {m : Node} → L.Nodes n m →
    Related CompileError.Alike L.Plain (BuildRules.buildPlain ⟨overrides, f⟩ owner key n)
      (BuildRules.buildPlain ⟨overrides, g⟩ owner key m)
  | .object _ ps required, _, .object _ hproperties => by
    rw [BuildRules.buildPlain, BuildRules.buildPlain]
    refine Related.map (R := L.Fields) ?_ fun x y hxy => .table hxy
    refine (buildProperties_alike hfg (.str key) required ps hproperties).mono fun x y hx hy hxy =>
      ⟨hxy, ?_⟩
    rw [BuildRules.isField_of_buildProperties hx, BuildRules.isField_of_buildProperties hy,
      hproperties.typeForm]
  | .array _ items, _, .array h hitems => by
    rw [BuildRules.buildPlain, BuildRules.buildPlain, ← hitems.ownPointer?_isSome]
    split
    · exact pointer_alike hfg (.array h hitems) owner false
    · exact (itemType_alike hfg (.str key) items hitems).map fun v w hvw => .table
        (h.withDefault (.marker hvw))
  | .primitive _ _ _, _, .primitive h => by
    rw [BuildRules.buildPlain, BuildRules.buildPlain]
    exact (leafType_alike (.primitive h)).map fun v w hvw => .table (h.withDefault hvw)
  | .reference _ _, _, .reference h hpointers => by
    rw [BuildRules.buildPlain, BuildRules.buildPlain]
    exact pointer_alike hfg (.reference h hpointers) owner false
  | .any _, _, .any _ => .ok .dropped

/-- The properties of two objects go together one by one, and reserved ones are passed over in
both. -/
theorem buildProperties_alike (hfg : L.Copies f g) (owner : Scalar) (required : List String) :
    (ps : List (String × Node)) → {qs : List (String × Node)} → L.Properties ps qs →
    Related CompileError.Alike L.Tables
      (BuildRules.buildProperties ⟨overrides, f⟩ owner required ps)
      (BuildRules.buildProperties ⟨overrides, g⟩ owner required qs)
  | [], _, .nil => .ok .nil
  | (key, n) :: rest, _, @Properties.cons _ _ _ m _ qs hnode hrest => by
    cases hk : reservedNames.contains key with
    | true =>
      rw [BuildRules.buildProperties_cons_reserved _ owner required n rest hk,
        BuildRules.buildProperties_cons_reserved _ owner required m qs hk]
      exact buildProperties_alike hfg owner required rest hrest
    | false =>
      rw [BuildRules.buildProperties_cons _ owner required n rest hk,
        BuildRules.buildProperties_cons _ owner required m qs hk]
      refine (buildProperty_alike hnode owner _ key (buildPlain_alike hfg owner key n hnode)).bind
        fun c d hcd => ?_
      exact (buildProperties_alike hfg owner required rest hrest).map fun x y hxy =>
        (hcd.entries hk).append hxy

end

/-! ## 5. Definition maps -/

/-- Definitions under the same names in the same order, which are alike. -/
def Maps (L : Likeness) (ds es : Definitions) : Prop :=
  List.Forall₂ (fun d e => d.1 = e.1 ∧ L.Nodes d.2 e.2) ds es

variable {ds es : Definitions}

/-- Under each name there are definitions that are alike, or none. -/
theorem Maps.get? (h : L.Maps ds es) (name : Scalar) :
    Option.Rel L.Nodes (Entries.get? ds name) (Entries.get? es name) := by
  induction h with
  | nil => exact .none
  | @cons d e ds es hde _ ih =>
    obtain ⟨hname, hnode⟩ := hde
    rw [Entries.get?, Entries.get?, ← hname]
    split
    · exact .some hnode
    · exact ih

/-- The names are the same, in the same order. -/
theorem Maps.keys (h : L.Maps ds es) : Entries.keys ds = Entries.keys es := by
  induction h with
  | nil => rfl
  | cons hde _ ih => exact congrArg₂ List.cons hde.1 ih

/-- Copies of definitions that are alike go together. The induction is on the levels left. -/
theorem Maps.copies (h : L.Maps ds es) (overrides : OverrideRules) (limit : Int) (levels : Nat) :
    L.Copies (expansion overrides ds limit levels) (expansion overrides es limit levels) := by
  induction levels with
  | zero =>
    intro owner target
    have hget := h.get? (.str target)
    unfold expansion
    generalize Entries.get? ds (.str target) = d at hget ⊢
    generalize Entries.get? es (.str target) = e at hget ⊢
    cases hget with
    | none => exact .error (.refl _)
    | some hnode => exact .error (.refl _)
  | succ levels ih =>
    intro owner target
    have hget := h.get? (.str target)
    unfold expansion
    generalize Entries.get? ds (.str target) = d at hget ⊢
    generalize Entries.get? es (.str target) = e at hget ⊢
    cases hget with
    | none => exact .error (.refl _)
    | some hnode => exact build_alike ih (.str target) _ hnode.forCopy

/-- **Nodes that are alike compile alike against definitions that are.** -/
theorem buildNode_alike (h : L.Maps ds es) (hnode : L.Nodes n m) (overrides : OverrideRules)
    (start : BuildStart) :
    Related CompileError.Alike L.Fields (buildNode overrides ds start n)
      (buildNode overrides es start m) :=
  build_alike (h.copies overrides start.limit _) start.owner n hnode

end Likeness

end ApiStore
