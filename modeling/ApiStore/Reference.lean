import ApiStore.CompileError
import ApiStore.Node
import ApiStore.Pointer
import ApiStore.StorageType
/-
`Reference.lean` -- what a pointer means where it stands.

A pointer is followed from somewhere: from the definition being compiled or, inside an
anonymous object, from the property that holds the object. That name is the *owner*. A
pointer to its owner is circular and compiles to a stub, a reference by identity. Every
other pointer is external, and compiles to a copy of what it points to.
-/
set_option autoImplicit false

namespace ApiStore

/-- A pointer as seen by its owner; `many` tells whether the field holds a list. -/
structure Reference where
  circular : Bool
  target : String
  many : Bool
  deriving DecidableEq, Repr

namespace Reference

/-- The word for the kind of a reference. -/
def kindName (r : Reference) : String := if r.circular then "circular" else "external"

/-- The stub of a target: a reference by identity. -/
def stub (target : String) : Entries Value :=
  [(.str "type", StorageType.objectId.toValue), (.str "ref", .str target)]

/-- The reference of a node that carries a pointer. `inArray` tells whether what encloses the node
is an array. -/
def describe (node : Node) (owner : Scalar) (inArray : Bool) : Except CompileError Reference :=
  match node.pointer? with
  | none => .error (.noPointer node.raw)
  | some pointer =>
    match Pointer.parse? pointer with
    | none => .error (.unknownPointer (.str pointer))
    | some target =>
      let isArray := match node with
        | .array _ _ => true
        | _ => false
      .ok { circular := owner == .str target, target := target, many := isArray || inArray }

end Reference

/-! ## What a node compiles to -/

/-- What a property compiles to: nothing, a table (of one field or of many), or a list marker. -/
inductive Compiled where
  | dropped
  | table (fields : Entries Value)
  | marker (items : List Value)
  deriving DecidableEq, Repr

namespace Compiled

/-- The compiled property as data; one that is dropped is null. -/
def toValue : Compiled → Value
  | .dropped => .null
  | .table fields => .map fields
  | .marker items => .list items

/-- A table, or a marker around it. -/
def ofTable (many : Bool) (fields : Entries Value) : Compiled :=
  if many then .marker [.map fields] else .table fields

end Compiled

/-- The stub of a circular reference, in a marker if it holds many. -/
def Reference.toCompiled (r : Reference) : Compiled := .ofTable r.many (stub r.target)

/-- Whether a table is a single field: it has a type, and the type is not itself a table. -/
def isField (fields : Entries Value) : Bool :=
  match Entries.get? fields (.str "type") with
  | none => false
  | some (.map _) => false
  | some _ => true

/-- Whether a value is a single field. -/
def Value.isField : Value → Bool
  | .map fields => ApiStore.isField fields
  | _ => false

end ApiStore
