import ApiStore.Console.Markup
import ApiStore.Json.Reader
import ApiStore.Misfit
/-
`Fault.lean` -- what goes wrong outside the compiler.

Reading a text, filling a record, handling a document that is not a table: each can
fail in ways that have nothing to do with API documents. A `Fault` names the cause; its
category is the word that reports use for it, and its message is what a user reads.
-/
set_option autoImplicit false

namespace ApiStore

/-- A failure outside the compiler. -/
inductive Fault where
  /-- The text is not JSON. -/
  | json (e : Json.ReadError)
  /-- The bytes are not text. -/
  | encoding (e : Text.DecodingError)
  /-- The text is not YAML. -/
  | yaml
  /-- The parts of a date, a time or a number in a YAML text are out of range. -/
  | range (reason : String)
  /-- A pattern that is no regular expression. -/
  | pattern
  /-- A pattern that is meant for ASCII and for all characters at once. -/
  | patternScope
  /-- A number that is too large for what it is meant for. -/
  | overflow (reason : String)
  /-- A text that is no numeral where one should be, or has too many digits. -/
  | notNumeral
  /-- Nothing where a numeral should be. -/
  | emptyNumeral
  /-- A text that is no date where one should be. -/
  | notTimestamp
  /-- A table where the text of a date should be. -/
  | timestampTable
  /-- Data that is nested too deeply, or without end. -/
  | tooDeep
  /-- A type name that no JSON Schema knows. -/
  | typeName
  /-- A file that should be there and is not. -/
  | missingFile (path : String)
  /-- A directory where a file should be. -/
  | directory (path : String)
  /-- A file where a directory should be. -/
  | fileInPlace (path : String)
  /-- A path that leads through a file. -/
  | throughFile (path : String)
  /-- A text that the console cannot show. -/
  | markup (e : Console.MarkupError)
  /-- A key that should be there and is not. -/
  | missingKey (key : Scalar)
  /-- Data that does not fit a record. -/
  | misfit (record : String) (misfits : List Misfit)
  /-- A value of this kind has no items. -/
  | notIterable (kind : String)
  /-- A value of this kind has no members. -/
  | noMembers (kind : String)
  /-- The item at this position of a list of assignments is not a sequence. -/
  | notSequence (index : Nat)
  /-- The item at this position of a list of assignments is not a pair. -/
  | notPair (index length : Nat)
  /-- A value of this kind cannot be a key. -/
  | unhashable (kind : String)
  /-- Keys of this kind cannot be written as JSON. -/
  | unwritableKey (kind : String)
  /-- Values of these kinds have no order. -/
  | unordered (operator left right : String)
  /-- A pattern that is not a text. -/
  | patternNotText
  /-- A name given twice in a query. -/
  | nameTwice (name : String)
  /-- A value of this kind has no entries to look up. -/
  | noEntries (kind : String)
  /-- A configuration that is not a table. -/
  | configNotTable
  deriving DecidableEq, Repr

namespace Fault

/-- The word for the kind of a fault. -/
def category : Fault → String
  | .json _ => "JSONDecodeError"
  | .encoding _ => "UnicodeDecodeError"
  | .yaml => "YAMLError"
  | .pattern => "error"
  | .tooDeep => "RecursionError"
  | .typeName => "UnknownType"
  | .missingFile _ => "FileNotFoundError"
  | .directory _ => "IsADirectoryError"
  | .fileInPlace _ => "FileExistsError"
  | .throughFile _ => "NotADirectoryError"
  | .markup _ => "MarkupError"
  | .missingKey _ => "KeyError"
  | .misfit _ _ => "ValidationError"
  | .notIterable _ | .noMembers _ | .notSequence _ | .unhashable _ | .unwritableKey _ |
    .unordered _ _ _ | .patternNotText
  | .nameTwice _ | .timestampTable => "TypeError"
  | .notPair _ _ | .configNotTable | .range _ | .patternScope | .notNumeral => "ValueError"
  | .overflow _ => "OverflowError"
  | .emptyNumeral => "IndexError"
  | .noEntries _ | .notTimestamp => "AttributeError"

/-- What is wrong with a text that was read as JSON. A number that is too long is no offence against
JSON itself, nor is a text that nests too deeply. -/
def ofJson (e : Json.ReadError) : Fault :=
  match e.offence with
  | .oversizedNumber => .notNumeral
  | .nestedTooDeeply => .tooDeep
  | _ => .json e

/-- The words for a fault. -/
def message : Fault → String
  | .json e => e.message
  | .encoding e => e.message
  | .yaml => "invalid document"
  | .range reason => reason
  | .pattern => "invalid regular expression"
  | .patternScope => "ASCII and UNICODE flags are incompatible"
  | .overflow reason => reason
  | .notNumeral => "invalid numeral"
  | .emptyNumeral => "string index out of range"
  | .notTimestamp => "'NoneType' object has no attribute 'groupdict'"
  | .timestampTable => "expected string or bytes-like object, got 'list'"
  | .tooDeep => "maximum recursion depth exceeded"
  | .typeName => "unknown type"
  | .missingFile path => "Config file not found: " ++ path
  | .directory path => "[Errno 21] Is a directory: " ++ Text.quoted path
  | .fileInPlace path => "[Errno 17] File exists: " ++ Text.quoted path
  | .throughFile path => "[Errno 20] Not a directory: " ++ Text.quoted path
  | .markup e => e.message
  | .missingKey key => key.literal
  | .misfit record misfits => Misfit.report record misfits
  | .notIterable kind => "'" ++ kind ++ "' object is not iterable"
  | .noMembers kind => "argument of type '" ++ kind ++ "' is not iterable"
  | .notSequence index =>
    "cannot convert dictionary update sequence element #" ++ natText index ++ " to a sequence"
  | .notPair index length =>
    "dictionary update sequence element #" ++ natText index ++ " has length " ++ natText length ++
      "; 2 is required"
  | .unhashable kind => "unhashable type: '" ++ kind ++ "'"
  | .unwritableKey kind => "keys must be str, int, float, bool or None, not " ++ kind
  | .unordered operator left right =>
    "'" ++ operator ++ "' not supported between instances of '" ++ left ++ "' and '" ++ right ++ "'"
  | .patternNotText => "first argument must be string or compiled pattern"
  | .nameTwice name => "got multiple values for argument '" ++ name ++ "'"
  | .noEntries kind => "'" ++ kind ++ "' object has no attribute 'get'"
  | .configNotTable => "Config must be a YAML mapping"

end Fault

end ApiStore
