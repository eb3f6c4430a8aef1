import ApiStore.Failure
import ApiStore.Node
/-
`Reading.lean` -- from the raw data of an API document to its nodes.

The shape of a node follows from the keys it has, tried in a fixed order: a pointer, the
type `array`, the type `object`, any other type, and no type at all. A definition may
leave out `type: object` if it has properties. What a shape does not look at is not
checked, so a node with a pointer may hold anything else besides.

**Order of checks.** The override of a node is read before its shape is looked at, its
items or properties before the list of its required names, and whether its keys are all
texts comes last. The first offence ends the reading. An offence inside a property is
reported as the failure of that property; an offence inside items is not wrapped.

**Recursion.** Items and properties are found by walking the entries of a node, so every
call is on a part of the value at hand, and the recursion is structural.
-/
set_option autoImplicit false

namespace ApiStore

/-! ## 1. Overrides -/

/-- A part of an override that has to be a text, null or absent. -/
def optionalText (payload : Entries Value) (key : String) : Except Misfit (Option String) :=
  match Entries.get? payload (.str key) with
  | none | some .null => .ok none
  | some v =>
    match Misfit.textOf v with
    | .ok s => .ok (some s)
    | .error flaw => .error { place := [key], flaw := flaw, found := v }

/-- The options among the entries of an override: all but type and target. -/
def optionsOf (payload : Entries Value) : Entries Value :=
  payload.filter fun (k, _) => !(k == .str "type" || k == .str "ref")

/-- Reads an override, or finds all that is wrong with it. -/
def Extension.ofPayload (payload : Entries Value) : Except (List Misfit) Extension :=
  let options := optionsOf payload
  match optionalText payload "type", optionalText payload "ref",
    Misfit.ofKeys ["options"] options with
  | .ok type, .ok ref, [] => .ok { type := type, ref := ref, options := Misfit.spelled options }
  | type, ref, keys =>
    let wrong (part : Except Misfit (Option String)) : List Misfit :=
      match part with
      | .ok _ => []
      | .error m => [m]
    .error (wrong type ++ wrong ref ++ keys)

/-- The override of a node under a key, if it has one. -/
def readExtension (key : String) (raw : Entries Value) : Except CompileError (Option Extension) :=
  match Entries.get? raw (.str key) with
  | none | some .null => .ok none
  | some (.map payload) =>
    match Extension.ofPayload payload with
    | .ok e => .ok (some e)
    | .error misfits => .error (.overrideMisfit key misfits (.map raw))
  | some _ => .error (.overrideNotTable key (.map raw))

/-! ## 2. Parts of nodes -/

/-- The entry of a node at a key; null if it has none. -/
def entry (raw : Entries Value) (key : String) : Value := (Entries.get? raw (.str key)).getD .null

/-- The texts of a list that holds nothing else. -/
def texts? : List Value → Option (List String)
  | [] => some []
  | .str s :: rest => (texts? rest).map (s :: ·)
  | _ :: _ => none

/-- The required names of an object. Anything but a list requires nothing. -/
def readRequired (raw : Entries Value) : Except CompileError (List String) :=
  match entry raw "required" with
  | .list names =>
    match texts? names with
    | some required => .ok required
    | none => .error (.requiredNotNames (.map raw))
  | _ => .ok []

/-- Refuses a node with keys that are not texts. -/
def checkKeys (record : String) (raw : Entries Value) (properties : List (Scalar × Node)) :
    Except Failure Unit :=
  match Misfit.ofKeys ["raw"] raw ++ Misfit.ofKeys ["properties"] properties with
  | [] => .ok ()
  | misfits => .error (.fault (.misfit record misfits))

/-- Properties by name. -/
def named (properties : List (Scalar × Node)) : List (String × Node) :=
  (Misfit.spelled properties).filterMap fun (k, n) =>
    match k with
    | .str name => some (name, n)
    | _ => none

/-- Whether a key is reserved. -/
def isReserved (key : Scalar) : Bool :=
  match key with
  | .str name => reservedNames.contains name
  | _ => false

/-- An offence inside a property, reported as the failure of that property. -/
def underProperty (key : Scalar) (raw : Value) : Failure → Failure
  | .compile e => .compile (.property key raw e)
  | f => f

/-! ## 3. Nodes -/

mutual

/-- Reads a node; `key` names the overrides, and `root` tells whether the node is a definition. -/
def readNode (key : String) (root : Bool) : Value → Except Failure Node
  | .map raw => do
    let extension ← (readExtension key raw).mapError .compile
    let facts : Facts :=
      { raw := Misfit.spelled raw, extension := extension, default := entry raw "default" }
    match Entries.get? raw (.str "$ref") with
    | some (.str pointer) =>
      checkKeys "ReferenceNode" raw []
      return .reference facts pointer
    | some pointer => throw (.compile (.pointerNotText pointer (.map raw)))
    | none =>
      let type := entry raw "type"
      if type = .str "array" then
        let items ← readItems key raw
        checkKeys "ArrayNode" raw []
        return .array facts items
      else if type = .str "object" ||
        (root && type = .null && Entries.contains raw (.str "properties")) then
        let properties ← readProperties key raw
        let required ← (readRequired raw).mapError .compile
        checkKeys "ObjectNode" raw properties
        return .object facts (named properties) required
      else
        match type with
        | .null =>
          checkKeys "AnyNode" raw []
          return .any facts
        | .str name =>
          match entry raw "format" with
          | .null =>
            checkKeys "PrimitiveNode" raw []
            return .primitive facts name none
          | .str format =>
            checkKeys "PrimitiveNode" raw []
            return .primitive facts name (some format)
          | format => throw (.compile (.formatNotText format (.map raw)))
        | type => throw (.compile (.typeNotText type (.map raw)))
  | v => .error (.compile (.nodeNotTable v))

/-- Reads the items of an array from its entries. -/
def readItems (key : String) : List (Scalar × Value) → Except Failure Node
  | [] => .ok .empty
  | (k, v) :: rest => if k.sameKey (.str "items") then readNode key false v else readItems key rest

/-- Reads the properties of an object from its entries. -/
def readProperties (key : String) : List (Scalar × Value) → Except Failure (List (Scalar × Node))
  | [] => .ok []
  | (k, v) :: rest =>
    if k.sameKey (.str "properties") then
      match v with
      | .map properties => readEach key properties
      | v => if v.isTruthy then .error (.compile (.propertiesNotTable v)) else .ok []
    else readProperties key rest

/-- Reads properties one after another, without the reserved ones. -/
def readEach (key : String) : List (Scalar × Value) → Except Failure (List (Scalar × Node))
  | [] => .ok []
  | (k, v) :: rest =>
    if isReserved k then readEach key rest
    else do
      let node ← (readNode key false v).mapError (underProperty k v)
      let others ← readEach key rest
      return (k, node) :: others

end

/-- Reads every definition of a definition map. -/
def readDefinitions (key : String) : Entries Value → Except Failure Definitions
  | [] => .ok []
  | (name, v) :: rest => do
    let node ← readNode key true v
    let others ← readDefinitions key rest
    return (name, node) :: others

end ApiStore
