import ApiStore.CompileError
/-
`StorageType.lean` -- the scalar types of the storage engine, and the table of their names.

The engine has eleven scalar types. Overrides in an API document name them, and a
configuration may add further names. The names form a table, which starts with every
type under its own name and is changed one name at a time.

**An alias is a binding, not a link.** `TypeTable.addAlias` looks its target up at once and
binds the new name to what it finds, so a later change to the target leaves the alias
alone, and a chain of aliases has to be given in order.
-/
set_option autoImplicit false

namespace ApiStore

/-! ## 1. Types -/

/-- A scalar type of the storage engine. -/
inductive StorageType where
  | string
  | number
  | boolean
  | date
  | buffer
  | objectId
  | mixed
  | decimal128
  | map
  | uuid
  | bigInt
  deriving DecidableEq, Repr, Inhabited

namespace StorageType

/-- The name of a type. -/
def name : StorageType → String
  | .string => "String"
  | .number => "Number"
  | .boolean => "Boolean"
  | .date => "Date"
  | .buffer => "Buffer"
  | .objectId => "ObjectId"
  | .mixed => "Mixed"
  | .decimal128 => "Decimal128"
  | .map => "Map"
  | .uuid => "UUID"
  | .bigInt => "BigInt"

/-- All types, in the order in which their names are listed. -/
def all : List StorageType :=
  [.string, .number, .boolean, .date, .buffer, .objectId, .mixed, .decimal128, .map, .uuid, .bigInt]

/-- The type of a name. -/
def ofName? (name : String) : Option StorageType := all.find? fun t => t.name == name

/-- A type as data. -/
def toValue (t : StorageType) : Value := .str t.name

theorem mem_all (t : StorageType) : t ∈ all := by cases t <;> decide

theorem ofName?_name (t : StorageType) : ofName? t.name = some t := by cases t <;> decide

end StorageType

/-! ## 2. The table of names -/

/-- Names of types, in the order in which they were bound. -/
structure TypeTable where
  bindings : List (String × StorageType)
  deriving DecidableEq, Repr

namespace TypeTable

/-- The table in which every type has its own name. -/
def initial : TypeTable := ⟨StorageType.all.map fun t => (t.name, t)⟩

/-- The type that a name is bound to. -/
def get? (table : TypeTable) (name : String) : Option StorageType :=
  (table.bindings.find? fun (n, _) => n == name).map (·.2)

/-- Whether a name is bound. -/
def contains (table : TypeTable) (name : String) : Bool := (table.get? name).isSome

/-- The bound names, in order. -/
def names (table : TypeTable) : List String := table.bindings.map (·.1)

/-- Binds a name, in its place if it is bound already and at the end if it is not. -/
def register (table : TypeTable) (name : String) (type : StorageType) : TypeTable :=
  if table.contains name then
    ⟨table.bindings.map fun (n, t) => if n == name then (n, type) else (n, t)⟩
  else ⟨table.bindings ++ [(name, type)]⟩

/-- Binds a name to what another name is bound to. The other name may be any value, but only a text
is bound to anything. -/
def addAlias (table : TypeTable) (name : String) (target : Value) : Except CompileError TypeTable :=
  match target.text?.bind table.get? with
  | some type => .ok (table.register name type)
  | none => .error (.unknownAliasTarget name target)

/-- Removes a name. -/
def unregister (table : TypeTable) (name : String) : TypeTable :=
  ⟨table.bindings.filter fun (n, _) => !(n == name)⟩

/-- The initial table with aliases added, one after another. -/
def ofAliases (aliases : List (String × Value)) : Except CompileError TypeTable :=
  aliases.foldlM (fun table (name, target) => table.addAlias name target) initial

end TypeTable

end ApiStore
