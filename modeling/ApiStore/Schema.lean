import ApiStore.Build
import ApiStore.Config
import ApiStore.Document
/-
`Schema.lean` -- compiled schemas, and how a document becomes them.

A schema is the compiled form of one definition: its name, its fields, and the override
of the definition itself, which holds options for the collection. A compiler is a
configuration together with the table of type names made from it; making the table can
fail, so a compiler is made before anything is read.
-/
set_option autoImplicit false

namespace ApiStore

/-! ## 1. Schemas -/

/-- The compiled form of a definition. -/
structure Schema where
  name : String
  fields : Entries Value
  options : Entries Value
  deriving DecidableEq, Repr

namespace Schema

/-- What is wrong with a part that has to be a table with texts for keys. -/
def tableMisfits (place : String) : Value → List Misfit
  | .map entries => Misfit.ofKeys [place] entries
  | v => [{ place := [place], flaw := .notTable, found := v }]

/-- The schema of given parts, or all that is wrong with them. -/
def ofParts (name fields options : Value) : Except Fault Schema :=
  match Misfit.textOf name, fields, options,
    tableMisfits "fields" fields ++ tableMisfits "options" options with
  | .ok n, .map f, .map o, [] =>
    .ok { name := n, fields := Misfit.spelled f, options := Misfit.spelled o }
  | text, _, _, misfits =>
    let wrongName := match text with
      | .ok _ => []
      | .error flaw => [{ place := ["name"], flaw := flaw, found := name }]
    .error (.misfit "CompiledSchema" (wrongName ++ misfits))

/-- The names of the fields, in order. -/
def fieldNames (s : Schema) : List Scalar := s.fields.keys

end Schema

/-! ## 2. Plain data -/

/-- An atom as plain data: dates become texts, bytes the text that they spell, and numbers that are
not finite become null. Bytes that spell no text are refused where the first of them stands. -/
def Scalar.plain : Scalar → Except Fault Scalar
  | .double d => .ok (if d.isFinite then .double d else .null)
  | .date d => .ok (.str d.iso)
  | .dateTime t => .ok (.str t.plain)
  | .bytes b =>
    match Text.decodeUtf8 b with
    | .ok s => .ok (.str s)
    | .error e => .error (.encoding { e with flaw := .unspecified, count := 1 })
  | s => .ok s

/-- A key as plain data. -/
def Scalar.plainKey : Scalar → Except Fault Scalar
  | .str s => .ok (.str s)
  | .null => .ok (.str "None")
  | .bool b => .ok (.str (if b then "true" else "false"))
  | .int i => .ok (.str (intText i))
  | .double d => .ok (.str (d.text messageNumbers))
  | k => k.plain

namespace Value

mutual

/-- A value as plain data: texts, finite numbers, booleans and null, in lists and tables with texts
for keys. -/
def plain : Value → Except Fault Value
  | .scalar s => s.plain.map .scalar
  | .list items => (plainItems items).map .list
  | .map entries => (plainEntries entries).map fun plainer => .map (Entries.ofList plainer)
  | .set members => (members.mapM Scalar.plain).map fun plainer => .list (plainer.map .scalar)
  | .pair a b => do
    let first ← plain a
    let second ← plain b
    return .list [first, second]

/-- The items of a list as plain data. -/
def plainItems : List Value → Except Fault (List Value)
  | [] => .ok []
  | v :: rest => do
    let first ← plain v
    let others ← plainItems rest
    return first :: others

/-- Entries as plain data. -/
def plainEntries : List (Scalar × Value) → Except Fault (List (Scalar × Value))
  | [] => .ok []
  | (k, v) :: rest => do
    let key ← k.plainKey
    let first ← plain v
    let others ← plainEntries rest
    return (key, first) :: others

end

end Value

/-- A schema as data. -/
def Schema.toValue (s : Schema) : Value :=
  .object [("name", .str s.name), ("fields", .map s.fields), ("options", .map s.options)]

/-! ## 3. The compiler -/

/-- A configuration, and the type names it makes known. -/
structure Compiler where
  config : Config
  types : TypeTable

namespace Compiler

/-- The compiler of a configuration. -/
def ofConfig (config : Config) : Except CompileError Compiler :=
  (TypeTable.ofAliases (config.typeAliases.map fun (name, target) => (name, .str target))).map
    fun types => { config := config, types := types }

/-- How a compiler treats overrides. -/
def overrides (c : Compiler) : OverrideRules := { types := c.types, key := c.config.extensionKey }

/-- Compiles a node as the definition of a name. -/
def buildFields (c : Compiler) (definitions : Definitions) (name : Scalar) (node : Node) :
    Except CompileError (Entries Value) :=
  buildNode c.overrides
    definitions { owner := name, depth := 0, limit := c.config.maxReferenceDepth } node

/-- The options of a definition: its own override. -/
def options (node : Node) : Entries Value := (node.extension.map Extension.payload).getD []

/-- Compiles one definition. -/
def buildSchema (c : Compiler) (definitions : Definitions) (name : Scalar) :
    Except Failure Schema :=
  match Entries.get? definitions name with
  | none => .error (.compile (.definitionNotFound name))
  | some node => do
    let fields ← (c.buildFields definitions name node).mapError .compile
    (Schema.ofParts (.scalar name) (.map fields) (.map (options node))).mapError .fault

/-- Compiles definitions one after another, into a table that is given. -/
def buildInto (c : Compiler) (definitions : Definitions) (schemas : Entries Schema) :
    List Scalar → Except Failure (Entries Schema)
  | [] => .ok schemas
  | name :: rest => do
    let schema ← c.buildSchema definitions name
    c.buildInto definitions (schemas.insert name schema) rest

/-- Compiles the named definitions, or all of them. Pointers are looked up among all of them in
either case. -/
def buildSchemas (c : Compiler) (definitions : Definitions) (names : Option (List Scalar)) :
    Except Failure (Entries Schema) :=
  c.buildInto definitions [] (names.getD definitions.keys)

/-- The definitions of a document, read under the configured key. -/
def extract (c : Compiler) (spec : Value) : Except Failure Definitions :=
  Document.extract spec c.config.extensionKey

end Compiler

end ApiStore
