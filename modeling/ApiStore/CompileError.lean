import ApiStore.Fault
import ApiStore.Json.Printer
/-
`CompileError.lean` -- why an API document cannot be compiled.

Each way in which a document can fail is a constructor, with the data that the report
of it needs. From a constructor follow the error's kind, a stable code; its message; and
the node at fault, as data.

**Errors form a chain.** A property that cannot be compiled is reported as such, with
the error of its own as the cause, so the chain of keys is the path to the offence. The
message of every link quotes the innermost cause, once, rather than the next link.
-/
set_option autoImplicit false

namespace ApiStore

/-! ## 1. Kinds -/

/-- The kinds of compile errors. -/
inductive ErrorKind where
  | invalidSpec
  | missingSpec
  | missingDefinitions
  | missingSchemas
  | unrecognizedFormat
  | unrecognizedType
  | unrecognizedReference
  | undefinedReference
  | unrecognizedExtensionType
  | propertyProcessing
  | recursionLimitExceeded
  deriving DecidableEq, Repr

/-- The code of a kind. -/
def ErrorKind.code : ErrorKind → String
  | .invalidSpec => "INVALID_SPEC"
  | .missingSpec => "MISSING_SPEC"
  | .missingDefinitions => "MISSING_DEFINITIONS"
  | .missingSchemas => "MISSING_SCHEMAS"
  | .unrecognizedFormat => "UNRECOGNIZED_FORMAT"
  | .unrecognizedType => "UNRECOGNIZED_TYPE"
  | .unrecognizedReference => "UNRECOGNIZED_REFERENCE"
  | .undefinedReference => "UNDEFINED_REFERENCE"
  | .unrecognizedExtensionType => "UNRECOGNIZED_EXTENSION_TYPE"
  | .propertyProcessing => "PROPERTY_PROCESSING"
  | .recursionLimitExceeded => "RECURSION_LIMIT_EXCEEDED"

/-! ## 2. Errors -/

/-- Why a document cannot be compiled. -/
inductive CompileError where
  /-- No document was given. -/
  | specMissing
  /-- The document is of a kind that cannot be read. -/
  | specUnreadable (kind : String)
  /-- The document's text is not JSON. -/
  | specNotJson (cause : Fault)
  /-- The document's text is not YAML. -/
  | specNotYaml
  /-- The document is not a table. -/
  | specNotTable
  /-- The document has no definitions. -/
  | noDefinitions
  /-- The definitions are not a table. -/
  | definitionsNotTable (definitions : Value)
  /-- A node is not a table. -/
  | nodeNotTable (node : Value)
  /-- The override of a node is not a table. -/
  | overrideNotTable (key : String) (node : Value)
  /-- The override of a node does not fit. -/
  | overrideMisfit (key : String) (misfits : List Misfit) (node : Value)
  /-- A pointer is not a text. -/
  | pointerNotText (pointer node : Value)
  /-- A type name is not a text. -/
  | typeNotText (type node : Value)
  /-- A format name is not a text. -/
  | formatNotText (format node : Value)
  /-- A list of required names holds something else. -/
  | requiredNotNames (node : Value)
  /-- The properties of a node are not a table. -/
  | propertiesNotTable (properties : Value)
  /-- A property failed. -/
  | property (key : Scalar) (node : Value) (cause : CompileError)
  /-- A pointer has neither of the two recognized roots, or no name after it. -/
  | unknownPointer (pointer : Value)
  /-- A node that should carry a pointer has none. -/
  | noPointer (node : Value)
  /-- A pointer leads to no definition. -/
  | undefinedTarget (target : String)
  /-- References are nested deeper than allowed. -/
  | tooDeep (target : String) (limit : Int) (owner : Scalar)
  /-- An object stands where only a single field can. -/
  | objectAsField (node : Value)
  /-- A type name is not known. -/
  | unknownType (type node : Value)
  /-- A numeric format is not known, or not given. -/
  | unknownFormat (format : Option String) (node : Value)
  /-- The type name of an override is not known. -/
  | unknownOverride (key type : String) (node : Value)
  /-- An alias names a type that is not known. -/
  | unknownAliasTarget (name : String) (target : Value)
  /-- There are no definitions to compile. -/
  | definitionsNotGiven
  /-- A definition that was asked for does not exist. -/
  | definitionNotFound (name : Scalar)
  /-- There are no schemas to register. -/
  | schemasNotGiven
  deriving DecidableEq, Repr

namespace CompileError

/-- The kind of an error. -/
def kind : CompileError → ErrorKind
  | .specMissing => .missingSpec
  | .specUnreadable _ | .specNotJson _ | .specNotYaml | .specNotTable | .definitionsNotTable _
  | .nodeNotTable _ | .overrideNotTable _ _ | .overrideMisfit _ _ _ | .requiredNotNames _
  | .propertiesNotTable _ => .invalidSpec
  | .noDefinitions | .definitionsNotGiven | .definitionNotFound _ => .missingDefinitions
  | .schemasNotGiven => .missingSchemas
  | .formatNotText _ _ | .unknownFormat _ _ => .unrecognizedFormat
  | .typeNotText _ _ | .objectAsField _ | .unknownType _ _ => .unrecognizedType
  | .pointerNotText _ _ | .unknownPointer _ | .noPointer _ => .unrecognizedReference
  | .undefinedTarget _ => .undefinedReference
  | .unknownOverride _ _ _ | .unknownAliasTarget _ _ => .unrecognizedExtensionType
  | .property _ _ _ => .propertyProcessing
  | .tooDeep _ _ _ => .recursionLimitExceeded

/-- The node at fault, as data. -/
def node : CompileError → Value
  | .definitionsNotTable v | .nodeNotTable v | .overrideNotTable _ v | .overrideMisfit _ _ v |
    .pointerNotText _ v
  | .typeNotText _ v | .formatNotText _ v | .requiredNotNames v | .propertiesNotTable v |
    .property _ v _
  | .unknownPointer v | .noPointer v | .objectAsField v | .unknownType _ v | .unknownFormat _ v
  | .unknownOverride _ _ v => v
  | .undefinedTarget target | .tooDeep target _ _ => .str target
  | .specMissing | .specUnreadable _ | .specNotJson _ | .specNotYaml | .specNotTable
  | .noDefinitions | .unknownAliasTarget _ _ | .definitionsNotGiven | .definitionNotFound _
  | .schemasNotGiven => .null

/-! ## 3. Causes -/

/-- What an error is caused by, if by something else: another compile error, or a fault. -/
inductive Cause where
  | compile (e : CompileError)
  | fault (f : Fault)

/-- The direct cause of an error. -/
def cause? : CompileError → Option Cause
  | .property _ _ cause => some (.compile cause)
  | .specNotJson fault => some (.fault fault)
  | .specNotYaml => some (.fault .yaml)
  | .overrideMisfit _ misfits _ => some (.fault (.misfit "ExtensionMeta" misfits))
  | _ => none

/-- The first error of a chain that is not the failure of a property. -/
def innermost : CompileError → CompileError
  | .property _ _ cause => cause.innermost
  | e => e

/-- The keys along a chain, from the outside in. -/
def path : CompileError → List Scalar
  | .property key _ cause => key :: cause.path
  | _ => []

/-- The end of the chain of causes. -/
def root (e : CompileError) : Cause := (e.innermost.cause?).getD (.compile e.innermost)

/-! ## 4. Messages -/

/-- The message of an error that is not the failure of a property. -/
def plainMessage : CompileError → String
  | .specMissing => "Swagger spec not supplied"
  | .specUnreadable kind => "Unknown or invalid spec object: " ++ kind
  | .specNotJson cause => "Invalid JSON: " ++ cause.message
  | .specNotYaml => "Invalid YAML: " ++ Fault.message .yaml
  | .specNotTable => "Swagger spec must be a JSON object"
  | .noDefinitions => "No definitions found: expected 'definitions' or 'components.schemas'"
  | .definitionsNotTable _ => "Definitions must be an object"
  | .nodeNotTable v => "Schema node must be an object, got " ++ v.kind
  | .overrideNotTable key _ => "'" ++ key ++ "' must be an object"
  | .overrideMisfit key misfits _ =>
    "Invalid '" ++ key ++ "' payload: " ++ natText misfits.length ++ " error(s)"
  | .pointerNotText pointer _ | .unknownPointer pointer =>
    "Unrecognised reference \"" ++ pointer.display ++ "\""
  | .typeNotText type _ => "Unrecognised property type: " ++ type.display
  | .formatNotText format _ => "Unrecognised schema format: " ++ format.display
  | .requiredNotNames _ => "'required' must list property names"
  | .propertiesNotTable _ => "'properties' must be an object"
  | .property _ _ _ => ""
  | .noPointer _ => "Node carries no reference"
  | .undefinedTarget target => "Reference target '" ++ target ++ "' is not defined"
  | .tooDeep target limit owner =>
    "Reference expansion of '" ++ target ++ "' exceeds depth " ++ intText limit ++
      "; check for an indirect reference cycle through '" ++ owner.display ++ "'"
  | .objectAsField v => "Object nodes are compiled by the schema builder at: " ++ Json.snapshot v
  | .unknownType type v =>
    "Unrecognised property type: " ++ type.display ++ " at: " ++ Json.snapshot v
  | .unknownFormat format _ => "Unrecognised schema format: " ++ format.getD Scalar.null.display
  | .unknownOverride key type v =>
    "Unrecognised " ++ key ++ " type: " ++ type ++ " at: " ++ Json.snapshot v
  | .unknownAliasTarget name target =>
    "Cannot alias '" ++ name ++ "' to unknown type '" ++ target.display ++ "'"
  | .definitionsNotGiven => "Definitions not supplied"
  | .definitionNotFound name => "Definition '" ++ name.display ++ "' not found"
  | .schemasNotGiven => "Schemas not supplied"

/-- The words for the end of a chain of causes. -/
def Cause.text : Cause → String
  | .compile e => e.plainMessage
  | .fault f => f.message

/-- The message of an error. -/
def message (e : CompileError) : String :=
  match e with
  | .property key node _ =>
    "Exception processing key \"" ++ key.display ++ "\" at: " ++ Json.snapshot node ++ ": " ++
      e.root.text
  | _ => e.plainMessage

/-! ## 5. Errors as data -/

/-- A fault as data. -/
def ofFault (f : Fault) : Value := .object [("kind", .str f.category), ("message", .str f.message)]

/-- An error as data: kind, message, node and the chain of causes. -/
def toValue (e : CompileError) : Value :=
  match e with
  | .property key node cause =>
    .object [("kind", .str ErrorKind.propertyProcessing.code),
      ("message", .str (message (.property key node cause))), ("node", node),
      ("cause", cause.toValue)]
  | e =>
    .object [("kind", .str e.kind.code), ("message", .str e.message), ("node", e.node),
      ("cause", match e.cause? with
        | some (.fault f) => ofFault f
        | _ => .null)]

end CompileError

end ApiStore
