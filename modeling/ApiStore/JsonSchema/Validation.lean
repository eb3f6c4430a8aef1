import ApiStore.Assignments
import ApiStore.Calendar.Iso
import ApiStore.JsonSchema
import ApiStore.Failure
import ApiStore.Pattern.Reading
import ApiStore.Value.Equality
/-
`Validation.lean` -- checking documents against a JSON Schema.

Every keyword says what it finds wrong, in the order of the keywords and depth first. A
keyword that is not about the kind of value at hand says nothing: lengths and patterns
are about texts, limits about numbers, properties about tables, items about lists.

A bound that makes no sense, such as a limit that is no number, is not noticed until a
value has to be compared with it. That ends the check with a fault, whatever was found
before.
-/
set_option autoImplicit false

namespace ApiStore.JsonSchema

/-- What a check comes to. -/
abbrev Findings := Except Fault (List Issue)

/-! ## 1. Types -/

/-- Whether a text denotes a date or a date-time; `Z` stands for universal time. -/
def isDateText (s : String) : Bool :=
  let spelled := s.toList.flatMap fun c => if c = 'Z' then ['+', '0', '0', ':', '0', '0'] else [c]
  (Iso.dateTime? (String.ofList spelled)).isSome

/-- Whether a text is an identity: 24 hexadecimal digits, and perhaps a line end. -/
def isObjectId (s : String) : Bool :=
  let digits := s.toList.takeWhile fun c => (Json.hexValue? c).isSome
  let rest := s.toList.drop digits.length
  digits.length == 24 && (rest == [] || rest == ['\n'])

/-- The number that a value is; a boolean is none. -/
def number? : Value → Option Number
  | .int i => some (.int i)
  | .double d => some (.double d)
  | _ => none

/-- Whether a value is of the type of a name; nothing if there is no such type. -/
def hasType? (name : String) (v : Value) : Option Bool :=
  match name with
  | "array" => some (match v with | .list _ => true | _ => false)
  | "object" => some (match v with | .map _ => true | _ => false)
  | "boolean" => some (match v with | .bool _ => true | _ => false)
  | "null" => some (match v with | .null => true | _ => false)
  | "string" => some (match v with | .str _ => true | _ => false)
  | "number" => some (number? v).isSome
  | "integer" => some (match v with | .int _ => true | .double d => d.toInt?.isSome | _ => false)
  | "date" =>
    some (match v with
      | .scalar (.date _) | .scalar (.dateTime _) => true
      | .str s => isDateText s
      | _ => false)
  | "objectId" => some (match v with | .str s => isObjectId s | _ => false)
  | "binary" => some (match v with | .scalar (.bytes _) => true | _ => false)
  | _ => none

/-- Whether a value is of the type that another value names. -/
def hasType (type v : Value) : Except Fault Bool :=
  match type with
  | .str name =>
    match hasType? name v with
    | some b => .ok b
    | none => .error .typeName
  | .scalar _ => .error .typeName
  | other => .error (.unhashable other.kind)

/-- The names that the argument of `type` stands for: a text is one, anything else lists some. -/
def typeNames (names : Value) : Except Fault (List Value) :=
  match names with
  | .str _ => .ok [names]
  | _ =>
    match names.elements? with
    | some items => .ok items
    | none => .error (.notIterable names.kind)

/-- Whether a value is of one of several types. Those after the first that fits are not looked
at. -/
def hasAnyType (v : Value) : List Value → Except Fault Bool
  | [] => .ok false
  | type :: rest => do if ← hasType type v then return true else hasAnyType v rest

/-! ## 2. Single keywords -/

/-- Nothing, or one thing wrong at the place at hand. -/
def noted (fine : Bool) (keyword message : String) : List Issue :=
  if fine then []
  else [{ message := "Schema validation failed: " ++ message, place := [], rule := [.str keyword] }]

/-- What `type` finds. -/
def typeIssues (names v : Value) : Findings := do
  let types ← typeNames names
  let fits ← hasAnyType v types
  return noted fits "type" (v.literal ++ " is not of type " ++
    ", ".intercalate (types.map Value.literal))

/-- What `required` finds. -/
def requiredIssues (names : List Scalar) (v : Value) : List Issue :=
  match v with
  | .map entries =>
    names.flatMap fun name =>
      noted (Entries.contains entries name) "required" (name.literal ++ " is a required property")
  | _ => []

/-- What `enum` finds. -/
def enumIssues (allowed v : Value) : Findings :=
  match allowed.elements? with
  | none => .error (.notIterable allowed.kind)
  | some items =>
    .ok (noted (items.any (·.identical v)) "enum"
      (v.literal ++ " is not one of " ++ allowed.literal))

/-- A limit as a number; booleans count as numbers here. -/
def limit (operator : String) (v bound : Value) : Except Fault Number :=
  match bound with
  | .scalar s =>
    match s.number? with
    | some n => .ok n
    | none => .error (.unordered operator v.kind bound.kind)
  | _ => .error (.unordered operator v.kind bound.kind)

/-- What `minimum` finds. -/
def minimumIssues (bound v : Value) : Findings :=
  match number? v with
  | none => .ok []
  | some n => do
    let least ← limit "<" v bound
    return noted (!n.lt least) "minimum" (v.literal ++ " is less than the minimum of " ++
      bound.literal)

/-- What `maximum` finds. -/
def maximumIssues (bound v : Value) : Findings :=
  match number? v with
  | none => .ok []
  | some n => do
    let most ← limit ">" v bound
    return noted (!most.lt n) "maximum" (v.literal ++ " is greater than the maximum of " ++
      bound.literal)

/-- What `minLength` finds. -/
def minLengthIssues (bound v : Value) : Findings :=
  match v with
  | .str s => do
    let least ← limit "<" (.int s.length) bound
    let words := if least.same (.int 1) then " should be non-empty" else " is too short"
    return noted (!(Number.int s.length).lt least) "minLength" (v.literal ++ words)
  | _ => .ok []

/-- What `maxLength` finds. -/
def maxLengthIssues (bound v : Value) : Findings :=
  match v with
  | .str s => do
    let most ← limit ">" (.int s.length) bound
    let words := if most.same (.int 0) then " is expected to be empty" else " is too long"
    return noted (!most.lt (.int s.length)) "maxLength" (v.literal ++ words)
  | _ => .ok []

/-- The pattern that a value denotes. -/
def patternOf (source : Value) : Except Fault Pattern :=
  match source with
  | .str s => Pattern.read s
  | .scalar _ => .error .patternNotText
  | other => .error (.unhashable other.kind)

/-- What `pattern` finds. -/
def patternIssues (source v : Value) : Findings :=
  match v with
  | .str s => do
    let p ← patternOf source
    return noted (p.search s) "pattern" (v.literal ++ " does not match " ++ source.literal)
  | _ => .ok []

/-! ## 3. Schemas -/

/-- An issue of a part, as an issue of the whole. -/
def Issue.within (place rule : List Scalar) (i : Issue) : Issue :=
  { i with place := place ++ i.place, rule := rule ++ i.rule }

/-- What is found at the items of a list, from a position on. -/
def eachItem (check : Value → Findings) : (index : Nat) → List Value → Findings
  | _, [] => .ok []
  | index, v :: rest => do
    let here ← check v
    let others ← eachItem check (index + 1) rest
    return here.map (Issue.within [.int index] [.str "items"]) ++ others

mutual

/-- What a keyword finds at a value. -/
def keywordIssues : Keyword → Value → Findings
  | .dialect _, _ | .title _, _ | .format _, _ | .default _, _ => .ok []
  | .type names, v => typeIssues names v
  | .properties schemas, v =>
    match v with
    | .map entries => propertyIssues schemas entries
    | _ => .ok []
  | .required names, v => .ok (requiredIssues names v)
  | .items schema, v =>
    match v with
    | .list items => eachItem (issues schema) 0 items
    | _ => .ok []
  | .enum allowed, v => enumIssues allowed v
  | .minimum bound, v => minimumIssues bound v
  | .maximum bound, v => maximumIssues bound v
  | .minLength bound, v => minLengthIssues bound v
  | .maxLength bound, v => maxLengthIssues bound v
  | .pattern source, v => patternIssues source v

/-- What a schema finds at a value. -/
def issues : List Keyword → Value → Findings
  | [], _ => .ok []
  | k :: rest, v => do
    let here ← keywordIssues k v
    let others ← issues rest v
    return here ++ others

/-- What the schemas of properties find at the entries that are there. -/
def propertyIssues : List (Scalar × List Keyword) → Entries Value → Findings
  | [], _ => .ok []
  | (key, schema) :: rest, entries => do
    let here ← match Entries.get? entries key with
      | some v => issues schema v
      | none => .ok []
    let others ← propertyIssues rest entries
    return here.map (Issue.within [key] [.str "properties", key]) ++ others

end

/-- Whether a schema finds nothing wrong with a value. -/
def accepts (schema : JsonSchema) (v : Value) : Except Fault Bool :=
  (issues schema v).map List.isEmpty

end ApiStore.JsonSchema
