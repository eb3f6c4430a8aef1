import ApiStore.JsonSchema.Conversion
import ApiStore.JsonSchema.Validation
/-
`Collection.lean` -- collections of documents.

A collection belongs to a schema. It prepares the documents it is given, checks them
against the JSON Schema of its fields, keeps those that pass, and answers queries by
equality. Documents are only ever added, at the end.

**Options of the definition.** `strict`, unless it is false, drops keys that are neither
fields nor managed. `versionKey` names the key of the revision number; a name that says
nothing switches the number off. `timestamps` adds two times. The identity, the revision
and the times are the keys that the collection manages itself. A revision key that
cannot be a key is not noticed before a document is handled.
-/
set_option autoImplicit false

namespace ApiStore

/-- A named collection: its schema, and the documents in the order of their insertion. -/
structure Collection where
  schema : Schema
  documents : List (Entries Value)
  deriving DecidableEq, Repr

/-- What an insertion is stamped with: an identity that is not in use, and the time. -/
structure Stamp where
  id : String
  now : DateTime

namespace Collection

/-! ## 1. Options -/

/-- The key of a document's identity. -/
def idKey : Scalar := .str "_id"

/-- The keys of the times of creation and of the last change. -/
def timeKeys : List Scalar := [.str "createdAt", .str "updatedAt"]

/-- The collection of a schema, with no documents. -/
def ofSchema (schema : Schema) : Collection := { schema := schema, documents := [] }

/-- The name of a collection. -/
def name (c : Collection) : String := c.schema.name

/-- The compiled fields. -/
def fields (c : Collection) : Entries Value := c.schema.fields

/-- The JSON Schema of the fields. -/
def jsonSchema (c : Collection) : JsonSchema := JsonSchema.ofSchema c.schema

/-- An option of the definition, or its default. -/
def option (c : Collection) (name : String) (default : Value) : Value :=
  (Entries.get? c.schema.options (.str name)).getD default

/-- Whether keys that are neither fields nor managed are dropped. -/
def isStrict (c : Collection) : Bool := c.option "strict" (.bool true) != .bool false

/-- The key of the revision number, as it is configured. -/
def versionKey (c : Collection) : Value := c.option "versionKey" (.str "__v")

/-- Whether times are kept. -/
def keepsTimes (c : Collection) : Bool := (c.option "timestamps" (.bool false)).isTruthy

/-- The key of the revision number; none if revisions are switched off. -/
def versionKey? (c : Collection) : Except Fault (Option Scalar) :=
  if c.versionKey.isTruthy then
    match c.versionKey with
    | .scalar key => .ok (some key)
    | other => .error (.unhashable other.kind)
  else .ok none

/-- The keys that the collection manages itself. -/
def managedKeys (c : Collection) : Except Fault (List Scalar) :=
  c.versionKey?.map fun version => [idKey] ++ version.toList ++
    (if c.keepsTimes then timeKeys else [])

/-! ## 2. Preparing and checking -/

/-- The entries of a document under the given keys. -/
def restrict (allowed : List Scalar) (document : Entries Value) : Entries Value :=
  document.filter fun (k, _) => allowed.any (·.sameKey k)

/-- Fields that a document does not have and that have a default, added with their defaults. -/
def withDefaults (fields document : Entries Value) : Entries Value :=
  fields.foldl
    (fun doc (name, spec) =>
      match spec.isField, spec.get? "default" with
      | true, some default => if Entries.contains doc name then doc else doc ++ [(name, default)]
      | _, _ => doc)
    document

/-- A document as it will be checked: a table, without the keys that are dropped, with defaults. A
collection whose schema is a single field takes its documents as they are. -/
def prepare (c : Collection) (document : Value) : Except Fault (Entries Value) := do
  let table ← document.toTable
  if isField c.fields then return table
  else if c.isStrict then do
    let managed ← c.managedKeys
    return withDefaults c.fields (restrict (c.fields.keys ++ managed) table)
  else return withDefaults c.fields table

/-- What is wrong with a document. -/
def validate (c : Collection) (document : Value) : Except Fault Report :=
  (JsonSchema.issues c.jsonSchema document).map fun issues => { model := c.name, issues := issues }

/-- What is wrong with a document once it is prepared. -/
def check (c : Collection) (document : Value) : Except Fault Report := do
  let prepared ← c.prepare document
  c.validate (.map prepared)

/-! ## 3. Inserting -/

/-- A document with the keys that the collection manages: an identity unless it has one, revision
zero, and the time. -/
def stamped (c : Collection) (stamp : Stamp) (document : Entries Value) :
    Except Fault (Entries Value) := do
  let version ← c.versionKey?
  let identified :=
    if Entries.contains document idKey then document
    else Entries.insert document idKey (.str stamp.id)
  let versioned := match version with
    | some key => Entries.insert identified key (.int 0)
    | none => identified
  return if c.keepsTimes then
      timeKeys.foldl (fun doc key => Entries.insert doc key
        (.scalar (.dateTime stamp.now))) versioned
    else versioned

/-- Adds a document, if it is valid; answers with the document as it is stored. -/
def insert (c : Collection) (stamp : Stamp) (document : Value) :
    Except Failure (Collection × Entries Value) := do
  let prepared ← (c.prepare document).mapError .fault
  let report ← (c.validate (.map prepared)).mapError .fault
  if report.isValid then do
    let stored ← (c.stamped stamp prepared).mapError .fault
    return ({ c with documents := c.documents ++ [stored] }, stored)
  else throw (.invalid report)

/-! ## 4. Queries -/

/-- Whether the entries of a document equal those of a filter. A key that is absent counts as
null. -/
def fits (filter document : Entries Value) : Bool :=
  filter.all fun (key, wanted) => ((Entries.get? document key).getD .null).same wanted

/-- The documents that fit a filter, in order. The name `self` cannot be filtered by. -/
def find (c : Collection) (filter : Entries Value) : Except Fault (List (Entries Value)) :=
  if Entries.contains filter (.str "self") then .error (.nameTwice "self")
  else .ok (c.documents.filter (fits filter))

/-- The first document that fits a filter. -/
def findOne (c : Collection) (filter : Entries Value) : Except Fault (Option (Entries Value)) :=
  (c.find filter).map List.head?

/-- The number of documents. -/
def count (c : Collection) : Nat := c.documents.length

end Collection

end ApiStore
