import ApiStore.StorageType
/-
`JsonSchema.lean` -- the JSON Schemas that the library makes and checks with.

A JSON Schema is a list of keywords. The list is ordered because the order decides in
which order problems are reported; no keyword occurs twice. The schemas of properties
and items are lists of keywords in turn.

**What a bound may be.** The arguments of `enum`, the limits and `pattern` come from
override options, where a document may put anything. They are kept as found, and are
looked at when a document is checked.
-/
set_option autoImplicit false

namespace ApiStore

/-- A keyword of a JSON Schema, with its argument. -/
inductive Keyword where
  | dialect (address : String)
  | title (name : String)
  | type (names : Value)
  | format (name : String)
  | properties (schemas : List (Scalar × List Keyword))
  | required (names : List Scalar)
  | items (schema : List Keyword)
  | default (v : Value)
  | enum (allowed : Value)
  | minimum (limit : Value)
  | maximum (limit : Value)
  | minLength (limit : Value)
  | maxLength (limit : Value)
  | pattern (source : Value)
  deriving Repr

/-- A JSON Schema. -/
abbrev JsonSchema := List Keyword

namespace Keyword

/-- The name of a keyword. -/
def name : Keyword → String
  | .dialect _ => "$schema"
  | .title _ => "title"
  | .type _ => "type"
  | .format _ => "format"
  | .properties _ => "properties"
  | .required _ => "required"
  | .items _ => "items"
  | .default _ => "default"
  | .enum _ => "enum"
  | .minimum _ => "minimum"
  | .maximum _ => "maximum"
  | .minLength _ => "minLength"
  | .maxLength _ => "maxLength"
  | .pattern _ => "pattern"

mutual

/-- The argument of a keyword, as data. -/
def argument : Keyword → Value
  | .dialect s | .title s | .format s => .str s
  | .type v | .default v | .enum v | .minimum v | .maximum v | .minLength v | .maxLength v |
    .pattern v => v
  | .properties schemas => .map (propertyArguments schemas)
  | .required names => .list (names.map .scalar)
  | .items schema => .map (arguments schema)

/-- Keywords as entries. -/
def arguments : List Keyword → List (Scalar × Value)
  | [] => []
  | k :: rest => (.str k.name, k.argument) :: arguments rest

/-- The schemas of properties as entries. -/
def propertyArguments : List (Scalar × List Keyword) → List (Scalar × Value)
  | [] => []
  | (key, schema) :: rest => (key, .map (arguments schema)) :: propertyArguments rest

end

end Keyword

/-- A JSON Schema as data. -/
def JsonSchema.toValue (schema : JsonSchema) : Value := .map (Keyword.arguments schema)

end ApiStore
