import ApiStore.Override
import ApiStore.Node.Reading
/-
`Build.lean` -- compiling nodes into field maps.

A definition compiles to a table: an object to its field map, a node of a simple type to
a single field, a reference to what it points to. Inside an object every property is
compiled by itself, and an offence is reported as the failure of that property.

**Two recursions.** Within one definition the compiler follows the node's own structure.
Across definitions it follows pointers, and only that recursion could go on for ever; it
is bounded by the number of copies that may still be nested. The two are kept apart: the
structural recursion takes the copying of another definition as a function, `expand`, and
`expansion` ties the knot on the remaining number.

**The owner** is the name against which pointers are circular. It is the definition's
name, and within the object of a property that property's name.
-/
set_option autoImplicit false

namespace ApiStore

/-- What a definition is compiled with: the rules of overrides, and the copying of another
definition, which is told the owner that asks for it. -/
structure BuildRules where
  overrides : OverrideRules
  expand : Scalar → String → Except CompileError (Entries Value)

namespace BuildRules

/-! ## 1. References -/

/-- What a reference leads to: a stub if it is circular, and otherwise a copy. -/
def follow (rules : BuildRules) (owner : Scalar) (r : Reference) :
    Except CompileError (Entries Value) :=
  if r.circular then .ok (Reference.stub r.target) else rules.expand owner r.target

/-- A node that carries a pointer, compiled. -/
def resolve (rules : BuildRules) (owner : Scalar) (node : Node) (inArray : Bool) :
    Except CompileError Compiled := do
  let reference ← Reference.describe node owner inArray
  let fields ← rules.follow owner reference
  return .ofTable reference.many fields

/-! ## 2. Fields -/

/-- A field of a type. -/
def typed (type : Value) : Entries Value := [(.str "type", type)]

/-- A field with a default, if that says anything. -/
def withDefault (default : Value) (fields : Entries Value) : Entries Value :=
  if default.isTruthy then Entries.insert fields (.str "default") default else fields

/-- A property marked as required: only a single field can be. -/
def markRequired (required : Bool) (compiled : Compiled) : Compiled :=
  match compiled with
  | .table fields =>
    if required && isField fields then .table (Entries.insert fields (.str "required") (.bool true))
    else compiled
  | _ => compiled

/-- A compiled property with its own override laid over it, if it has one. -/
def withOverride (rules : BuildRules) (node : Node) (compiled : Compiled) :
    Except CompileError Compiled :=
  if node.extension.isSome then rules.overrides.merge compiled node else .ok compiled

/-! ## 3. Nodes -/

mutual

/-- Compiles a node that stands for a whole definition. -/
def build (rules : BuildRules) (owner : Scalar) : Node → Except CompileError (Entries Value)
  | .object _ properties required => rules.buildProperties owner required properties
  | .array facts items =>
    if items.ownPointer?.isSome then
      (rules.resolve owner (.array facts items) true).map fun c => typed c.toValue
    else if isSimpleType (entry facts.raw "type") then
      (rules.itemType owner items).map fun t => typed (.list [t])
    else .ok []
  | .primitive facts type format =>
    if isSimpleType (entry facts.raw "type") then
      (leafType (.primitive facts type format)).map typed
    else
      .ok []
  | .reference facts pointer => do
    let reference ← Reference.describe (.reference facts pointer) owner false
    rules.follow owner reference
  | .any _ => .ok []

/-- The storage type of the items of an array; objects are compiled under the given owner. -/
def itemType (rules : BuildRules) (owner : Scalar) : Node → Except CompileError Value
  | .array _ items => (rules.itemType owner items).map fun t => .list [t]
  | .object _ properties required => (rules.buildProperties owner required properties).map .map
  | .primitive facts type format => leafType (.primitive facts type format)
  | .reference facts pointer => leafType (.reference facts pointer)
  | .any facts => leafType (.any facts)

/-- What a property compiles to before its required mark and its override. -/
def buildPlain (rules : BuildRules) (owner : Scalar) (key : String) : Node →
    Except CompileError Compiled
  | .object _ properties required =>
    (rules.buildProperties (.str key) required properties).map .table
  | .array facts items =>
    if items.ownPointer?.isSome then rules.resolve owner (.array facts items) false
    else (rules.itemType (.str key) items).map fun t => .table
      (withDefault facts.default (typed (.list [t])))
  | .primitive facts type format =>
    (leafType (.primitive facts type format)).map fun t => .table
    (withDefault facts.default (typed t))
  | .reference facts pointer => rules.resolve owner (.reference facts pointer) false
  | .any _ => .ok .dropped

/-- Compiles the properties of an object, one after another. -/
def buildProperties (rules : BuildRules) (owner : Scalar) (required : List String) :
    List (String × Node) → Except CompileError (Entries Value)
  | [] => .ok []
  | (key, node) :: rest =>
    if reservedNames.contains key then rules.buildProperties owner required rest
    else do
      let compiled ←
        (if node.hasItemOverride then rules.overrides.arrayOf node
          else do
            let plain ← rules.buildPlain owner key node
            rules.withOverride node (markRequired (required.contains key) plain)).mapError
          (.property (.str key) node.raw)
      let others ← rules.buildProperties owner required rest
      match compiled with
      | .dropped => return others
      | c => return (.str key, c.toValue) :: others

end

end BuildRules

/-! ## 4. Copies of other definitions -/

/-- A definition as it is copied: what it requires is left behind. -/
def Node.forCopy : Node → Node
  | .object facts properties _ => .object facts properties []
  | n => n

/-- Compiles a copy of another definition. `remaining` copies may still be nested; `limit` is how
many there were at first, for the report. -/
def expansion (overrides : OverrideRules) (definitions : Definitions) (limit : Int) :
    (remaining : Nat) → Scalar → String → Except CompileError (Entries Value)
  | remaining, owner, target =>
    match Entries.get? definitions (.str target) with
    | none => .error (.undefinedTarget target)
    | some definition =>
      match remaining with
      | 0 => .error (.tooDeep target limit owner)
      | n + 1 =>
        BuildRules.build
          { overrides := overrides, expand := expansion overrides definitions limit n }
          (.str target) definition.forCopy

/-- Where a compilation starts: the owner, the copies nested already, and how many may be. -/
structure BuildStart where
  owner : Scalar
  depth : Int
  limit : Int

/-- Compiles a node against a definition map. -/
def buildNode (overrides : OverrideRules) (definitions : Definitions) (start : BuildStart)
    (node : Node) : Except CompileError (Entries Value) :=
  let remaining := (start.limit - start.depth).toNat
  BuildRules.build
    { overrides := overrides, expand := expansion overrides definitions start.limit remaining }
    start.owner node

end ApiStore
