import ApiStore.Node.Reading
/-
`Document.lean` -- API documents and their definitions.

A document is given as data, as JSON text, or as the bytes of such a text; what comes
out is a table. Its definitions stand under one of two roots: under `definitions`, or
under `schemas` within `components`. The first root counts if it is there at all, even
if it is of no use.
-/
set_option autoImplicit false

namespace ApiStore.Document

/-! ## 1. Loading -/

/-- A text that was refused as JSON: as a document that is no JSON, or for a fault of another
kind. -/
def refused (e : Json.ReadError) : Failure :=
  match Fault.ofJson e with
  | .json e => .compile (.specNotJson (.json e))
  | f => .fault f

/-- The value of a JSON text given as text or as bytes. -/
def readJson (text : List Char ⊕ List UInt8) : Except Failure Value :=
  match text with
  | .inl chars => (Json.readDecoded chars).mapError refused
  | .inr bytes =>
    match Text.decodeJson bytes with
    | .error e => .error (.compile (.specNotJson (.encoding e)))
    | .ok s => (Json.read s.toList).mapError refused

/-- The table that a value is. -/
def table (v : Value) : Except CompileError (Entries Value) :=
  match v with
  | .map entries => .ok entries
  | _ => .error .specNotTable

/-- The table of a JSON text given as text or as bytes. -/
def readTable (text : List Char ⊕ List UInt8) : Except Failure (Entries Value) := do
  let v ← readJson text
  (table v).mapError .compile

/-- The document that is given as a value. Texts and bytes are read as JSON. -/
def load (spec : Value) : Except Failure (Entries Value) :=
  match spec with
  | .null => .error (.compile .specMissing)
  | .map entries => .ok entries
  | .str s => if s.isEmpty then .error (.compile .specMissing) else readTable (.inl s.toList)
  | .scalar (.bytes b) => if b.isEmpty then .error (.compile .specMissing) else readTable (.inr b)
  | v => .error (.compile (.specUnreadable v.kind))

/-! ## 2. Definitions -/

/-- The definitions of a document, as data: null if it has none. -/
def definitionsEntry (document : Entries Value) : Value :=
  match entry document "definitions" with
  | .null =>
    match entry document "components" with
    | .map components => entry components "schemas"
    | _ => .null
  | v => v

/-- The raw definitions of a document. -/
def rawDefinitions (document : Entries Value) : Except CompileError (Entries Value) :=
  match definitionsEntry document with
  | .null => .error .noDefinitions
  | .map entries => .ok entries
  | v => .error (.definitionsNotTable v)

/-- The definitions of a document that is given as a value, with the overrides under `key`. -/
def extract (spec : Value) (key : String) : Except Failure Definitions := do
  let document ← load spec
  let definitions ← (rawDefinitions document).mapError .compile
  readDefinitions key definitions

/-- The names of a document's definitions, in order. -/
def definitionNames (spec : Value) : Except Failure (List Scalar) := do
  let document ← load spec
  let definitions ← (rawDefinitions document).mapError .compile
  return definitions.keys

end ApiStore.Document
