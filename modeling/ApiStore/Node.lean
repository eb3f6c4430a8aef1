import ApiStore.Value
/-
`Node.lean` -- the nodes of an API document.

Every definition, property and item type of an API document is a node. A node has one
of five shapes, which is decided once, when the document is read; after that nothing
looks at raw data to find out what a node is. What all shapes have in common are the
node's raw data, kept for reports; its override, if it has one; and its default.

**Overrides.** A document may carry, next to a node, instructions for the storage
engine: a type, a target for references, and further options. They belong to the node
they stand in. For an array without an override of its own, the one of its items counts.
-/
set_option autoImplicit false

namespace ApiStore

/-! ## 1. Overrides -/

/-- Instructions for the storage engine: a type name, the target of a reference, and options. -/
structure Extension where
  type : Option String
  ref : Option String
  options : Entries Value
  deriving DecidableEq, Repr

/-- The override as it stands in a document: the options first, then type and target, if present. -/
def Extension.payload (e : Extension) : Entries Value :=
  let typed := match e.type with
    | some type => Entries.insert e.options (.str "type") (.str type)
    | none => e.options
  match e.ref with
  | some ref => Entries.insert typed (.str "ref") (.str ref)
  | none => typed

/-! ## 2. Nodes -/

/-- What all nodes have: raw data, override and default; a default that is absent is null. -/
structure Facts where
  raw : Entries Value
  extension : Option Extension
  default : Value
  deriving DecidableEq, Repr

/-- A node of an API document. -/
inductive Node where
  | primitive (facts : Facts) (type : String) (format : Option String)
  | array (facts : Facts) (items : Node)
  | object (facts : Facts) (properties : List (String × Node)) (required : List String)
  | reference (facts : Facts) (pointer : String)
  | any (facts : Facts)
  deriving Repr

/-- A definition map: nodes by name, in the order of the document. -/
abbrev Definitions := Entries Node

namespace Node

/-- What a node has in common with all others. -/
def facts : Node → Facts
  | .primitive f _ _ | .array f _ | .object f _ _ | .reference f _ | .any f => f

/-- The name of a node's shape. -/
def kind : Node → String
  | .primitive _ _ _ => "primitive"
  | .array _ _ => "array"
  | .object _ _ _ => "object"
  | .reference _ _ => "reference"
  | .any _ => "any"

/-- The raw data of a node, as a value. -/
def raw (n : Node) : Value := .map n.facts.raw

/-- The node's own override. -/
def extension (n : Node) : Option Extension := n.facts.extension

/-- The properties of an object, in order. -/
def properties : Node → List (String × Node)
  | .object _ properties _ => properties
  | _ => []

/-- The required names of an object, each once and in order. -/
def requiredNames : Node → List String
  | .object _ _ required => required.eraseDups.mergeSort fun a b => !decide (b < a)
  | _ => []

/-- A node that says nothing. -/
def empty : Node := .any { raw := [], extension := none, default := .null }

/-! ## 3. Views -/

/-- The pointer of a reference. -/
def ownPointer? : Node → Option String
  | .reference _ pointer => some pointer
  | _ => none

/-- The pointer that a node carries, itself or as the items of an array. -/
def pointer? : Node → Option String
  | .array _ items => items.ownPointer?
  | n => n.ownPointer?

/-- Whether a node is a reference or an array of references. -/
def hasPointer (n : Node) : Bool := n.pointer?.isSome

/-- Whether a node is an array whose items have an override. -/
def hasItemOverride : Node → Bool
  | .array _ items => items.extension.isSome
  | _ => false

/-- The override that counts for a node, and the pointer next to it. -/
def override? (n : Node) : Option (Extension × Option String) :=
  match n.extension, n with
  | some e, _ => some (e, n.pointer?)
  | none, .array _ items => items.extension.map fun e => (e, items.pointer?)
  | none, _ => none

end Node

/-- Names that belong to the storage engine; a property of such a name is never a field. -/
def reservedNames : List String := ["_id", "__v"]

end ApiStore
