import ApiStore.JsonSchema
import ApiStore.Schema
/-
`Conversion.lean` -- the JSON Schema of compiled fields.

What a compiled value is shows in its form alone: a list is an array of its first item;
a text names a storage type; a table with a type is a single field, whose options become
keywords; any other table is an object, with a schema for every entry. Storage types
without a counterpart in JSON have type names of their own, `date`, `objectId` and
`binary`. A value of any other form, or a type that is not known, allows everything.
-/
set_option autoImplicit false

namespace ApiStore

/-- The address of the dialect that the schemas are written in. -/
def schemaDialect : String := "https://json-schema.org/draft/2020-12/schema"

/-- The keywords of a storage type. -/
def StorageType.keywords : StorageType → List Keyword
  | .string => [.type (.str "string")]
  | .number => [.type (.str "number")]
  | .boolean => [.type (.str "boolean")]
  | .date => [.type (.str "date")]
  | .buffer => [.type (.str "binary")]
  | .objectId => [.type (.str "objectId")]
  | .mixed => []
  | .decimal128 => [.type (.str "number")]
  | .map => [.type (.str "object")]
  | .uuid => [.type (.str "string"), .format "uuid"]
  | .bigInt => [.type (.str "integer")]

namespace JsonSchema

/-- The options of a field that become keywords, in the order of the keywords. -/
def optionKeywords : List (String × (Value → Keyword)) :=
  [("default", .default), ("enum", .enum), ("min", .minimum), ("max", .maximum),
    ("minlength", .minLength), ("maxlength", .maxLength), ("match", .pattern)]

/-- The keywords of a field's options. -/
def ofOptions (field : Entries Value) : List Keyword :=
  optionKeywords.filterMap fun (option, keyword) => (Entries.get? field (.str option)).map keyword

/-- The keywords of a type's name. -/
def ofTypeName (name : String) : List Keyword :=
  ((StorageType.ofName? name).map StorageType.keywords).getD []

/-- Whether a compiled value is a field that is required. -/
def isRequired (v : Value) : Bool := v.isField && v.get? "required" == some (.bool true)

/-- The names of the required fields. -/
def requiredNames (fields : Entries Value) : List Scalar :=
  (fields.filter fun (_, v) => isRequired v).map (·.1)

/-- The keywords of an object, given the schemas of its properties. -/
def ofProperties (fields : Entries Value) (properties : List (Scalar × List Keyword)) :
    List Keyword :=
  let required := requiredNames fields
  [.type (.str "object"), .properties properties] ++
    (if required.isEmpty then [] else [.required required])

mutual

/-- The JSON Schema of a compiled value. -/
def ofValue : Value → List Keyword
  | .scalar (.str name) => ofTypeName name
  | .scalar _ | .set _ | .pair _ _ => []
  | .list items => [.type (.str "array"), .items (ofFirst items)]
  | .map fields =>
    if isField fields then ofTypeEntry fields ++ ofOptions fields
    else ofProperties fields (ofEntries fields)

/-- The JSON Schema of the items of a marker: that of its first item. -/
def ofFirst : List Value → List Keyword
  | [] => []
  | v :: _ => ofValue v

/-- The keywords of a field's type, which is found among its entries. -/
def ofTypeEntry : List (Scalar × Value) → List Keyword
  | [] => []
  | (k, v) :: rest =>
    if k.sameKey (.str "type") then
      match v with
      | .scalar (.str name) => ofTypeName name
      | .scalar _ => []
      | .list items => [.type (.str "array"), .items (ofFirst items)]
      | .map _ | .set _ | .pair _ _ => []
    else ofTypeEntry rest

/-- The JSON Schemas of entries. -/
def ofEntries : List (Scalar × Value) → List (Scalar × List Keyword)
  | [] => []
  | (k, v) :: rest => (k, ofValue v) :: ofEntries rest

end

/-- The JSON Schema of a compiled schema. -/
def ofSchema (s : Schema) : JsonSchema :=
  [.dialect schemaDialect, .title s.name] ++ ofValue (.map s.fields)

end JsonSchema

end ApiStore
