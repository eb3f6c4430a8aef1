import ApiStore.Assignments
import ApiStore.Failure
import ApiStore.FieldType
/-
`Override.lean` -- overrides laid over compiled properties.

An override contributes a payload: its options, the target of a reference, and a type.
Laid over a compiled property, the payload wins wherever both have an entry, and all
else of the property stays.

**The type `ObjectId`.** It marks the field as a reference by identity. If the override
names no target then, the pointer next to it supplies one. The name is compared before
the table of types is consulted, so no alias changes what it means.
-/
set_option autoImplicit false

namespace ApiStore

/-- The type name that marks a reference by identity. -/
def referenceMark : String := "ObjectId"

/-- What overrides are read with: the table of type names, and the key they stand under. -/
structure OverrideRules where
  types : TypeTable
  key : String

/-- Whether a pointer says anything. -/
def pointerName? (pointer : Option String) : Option String :=
  match pointer with
  | some p => if p.isEmpty then none else some (Pointer.stripRoots p)
  | none => none

/-- The payload of an override that stands next to a pointer. -/
def OverrideRules.payload (rules : OverrideRules) (raw : Value) (e : Extension)
    (pointer : Option String) :
    Except CompileError (Entries Value) :=
  let targeted := match e.ref with
    | some ref => Entries.insert e.options (.str "ref") (.str ref)
    | none => e.options
  match e.type with
  | none => .ok targeted
  | some name =>
    if name = referenceMark then
      let marked := Entries.insert targeted (.str "type") StorageType.objectId.toValue
      match e.ref, pointerName? pointer with
      | none, some target => .ok (Entries.insert marked (.str "ref") (.str target))
      | _, _ => .ok marked
    else
      match rules.types.get? name with
      | some type => .ok (Entries.insert targeted (.str "type") type.toValue)
      | none => .error (.unknownOverride rules.key name raw)

/-- The payload of the override that counts for a node, if there is one. -/
def OverrideRules.resolve (rules : OverrideRules) (node : Node) :
    Except CompileError (Option (Entries Value)) :=
  match node.override? with
  | none => .ok none
  | some (e, pointer) => (rules.payload node.raw e pointer).map some

/-- The entries that a compiled property brings: a marker becomes the type of a field. -/
def Compiled.base : Compiled → Entries Value
  | .dropped => []
  | .table fields => fields
  | .marker items => [(.str "type", .list items)]

/-- The override of a node laid over what the node compiled to. -/
def OverrideRules.merge (rules : OverrideRules) (computed : Compiled) (node : Node) :
    Except CompileError Compiled :=
  (rules.resolve node).map fun
    | none => computed
    | some payload => .table (computed.base.overlay payload)

/-- The compiled property that a value stands for. -/
def Compiled.ofValue : Value → Except Fault Compiled
  | .null => .ok .dropped
  | .list items => .ok (.marker items)
  | v => v.toTable.map .table

/-- The override of a node laid over any value. Only if there is an override does the value have to
be one that a property can compile to. -/
def OverrideRules.mergeValue (rules : OverrideRules) (computed : Value) (node : Node) :
    Except Failure Value := do
  let payload ← (rules.resolve node).mapError .compile
  match payload with
  | none => return computed
  | some entries =>
    let compiled ← (Compiled.ofValue computed).mapError .fault
    return .map (compiled.base.overlay entries)

/-- An array whose items have an override: a marker around the payload. -/
def OverrideRules.arrayOf (rules : OverrideRules) (node : Node) : Except CompileError Compiled :=
  (rules.resolve node).map fun payload => .marker [.map (payload.getD [])]

end ApiStore
