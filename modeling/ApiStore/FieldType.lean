import ApiStore.Reference
/-
`FieldType.lean` -- from the types of an API document to the types of the storage engine.

Most type names decide alone. For `number` and `string` the format has a say: a number
without a known format is refused, a string with an unknown one is a string. An array
becomes a marker, a list of one item. What an object becomes is not decided here.
-/
set_option autoImplicit false

namespace ApiStore

/-- The type names that need no format. -/
def directTypes : List (String × StorageType) :=
  [("integer", .number), ("long", .number), ("float", .number), ("double", .number),
    ("password", .string), ("boolean", .boolean), ("date", .date), ("dateTime", .date)]

/-- The formats of a number. -/
def numberFormats : List String := ["integer", "long", "float", "double"]

/-- The formats of a string that make it a date. -/
def dateFormats : List String := ["date-time", "date"]

/-- The type names that a definition may have to be compiled as a single field. -/
def simpleTypes : List String := directTypes.map (·.1) ++ ["string", "number", "array", "object"]

/-- Whether a value is a simple type name. -/
def isSimpleType (v : Value) : Bool :=
  match v with
  | .str name => simpleTypes.contains name
  | _ => false

/-- The storage type of a type name and format. -/
def storageType (raw : Value) (type : String) (format : Option String) :
    Except CompileError StorageType :=
  match directTypes.lookup type with
  | some t => .ok t
  | none =>
    if type = "number" then
      if format.any numberFormats.contains then .ok .number else .error (.unknownFormat format raw)
    else if type = "string" then .ok (if format.any dateFormats.contains then .date else .string)
    else .error (.unknownType (.str type) raw)

/-- The type that a node without parts declares. One that declares none has no storage type. -/
def leafType (node : Node) : Except CompileError Value :=
  match node with
  | .primitive _ type format => (storageType node.raw type format).map StorageType.toValue
  | .object _ _ _ => .error (.objectAsField node.raw)
  | .array _ _ | .reference _ _ | .any _ =>
    .error (.unknownType ((Entries.get? node.facts.raw (.str "type")).getD .null) node.raw)

/-- The storage type of a node, given what becomes of objects within arrays. -/
def fieldType (onObject : Node → Except CompileError Value) : Node → Except CompileError Value
  | .array _ items => (fieldType onObject items).map fun t => .list [t]
  | .object facts properties required => onObject (.object facts properties required)
  | leaf => leafType leaf

end ApiStore
