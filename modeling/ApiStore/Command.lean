import ApiStore.Command.Arguments
import ApiStore.Console.Frame
import ApiStore.Document.File
import ApiStore.Store
/-
`Command.lean` -- the command line.

Three commands work on the file of an API document. `compile` writes its schemas as JSON
or YAML, `list-definitions` shows its definitions in a table, and `validate` checks a
document against one of them. A run is a function of the words and of the folder it runs
in; what it prints and writes is its outcome.

**Exit codes.** 0 is success, 1 a failure of the work itself, which is printed, and 2 a
command line that cannot be used. A text that the console cannot show ends a run at the
place where it should have been printed.
-/
set_option autoImplicit false

namespace ApiStore.Command

/-! ## 1. Outcomes -/

/-- What a run leaves behind. -/
structure Outcome where
  exitCode : Nat
  output : String
  usage : Option UsageError
  /-- The path of the file that was written, and its text. -/
  written : Option (String × String)
  deriving DecidableEq, Repr

namespace Outcome

/-- A run that ended well. -/
def success (output : String) : Outcome :=
  { exitCode := 0, output := output, usage := none, written := none }

/-- A run that failed. -/
def failure (output : String) : Outcome :=
  { exitCode := 1, output := output, usage := none, written := none }

/-- A run that never began. -/
def misuse (e : Option UsageError) : Outcome :=
  { exitCode := 2, output := "", usage := e, written := none }

/-- Prints marked texts one after another, up to one that cannot be shown; then the exit code is
1. -/
def printing (exitCode : Nat) (output : String) : List String → Outcome
  | [] => { exitCode := exitCode, output := output, usage := none, written := none }
  | markup :: rest =>
    match Console.printed markup with
    | .ok s => printing exitCode (output ++ s) rest
    | .error _ => failure output

end Outcome

/-! ## 2. Failures -/

/-- The panel that shows a compile error in full. -/
def errorPanel (e : CompileError) : Option String :=
  (Json.indented? e.toValue).bind fun text =>
    (Console.panel e.kind.code (Console.escape text)).toOption

/-- The outcome of a failure: its message under a title, and with `verbose` what there is to say
about a compile error. -/
def reported (title : String) (verbose : Bool) (f : Failure) : Outcome :=
  let outcome :=
    Outcome.printing 1 "" ["[red]" ++ title ++ ": " ++ Console.escape f.message ++ "[/red]"]
  match verbose, f with
  | true, .compile e => { outcome with output := outcome.output ++ (errorPanel e).getD "" }
  | _, _ => outcome

/-- Reads the configuration that a line names, or takes the default. -/
def readConfig (folder : Folder) (l : Line) : Except Failure Config :=
  match l.value? "--config" with
  | none => .ok .initial
  | some path => (folder.read path >>= Config.ofFile).mapError .fault

/-- Reads the document that is the first argument of a line. -/
def readSpec (folder : Folder) (l : Line) : Except Failure Value := do
  let path := l.arguments.headD ""
  let bytes ← (folder.read path).mapError .fault
  return .map (← Document.loadFile path bytes)

/-- The compiler that a line configures, and the definitions of the document that it names. -/
def readDefinitions (folder : Folder) (l : Line) : Except Failure (Compiler × Definitions) := do
  let compiler ← (Compiler.ofConfig (← readConfig folder l)).mapError .compile
  return (compiler, ← compiler.extract (← readSpec folder l))

/-! ## 3. Compiling -/

/-- The schemas as a table of plain data. -/
def schemasEntries (schemas : Entries Schema) : Except Fault (Entries Value) :=
  schemas.mapM fun (name, s) => s.toValue.plain.map fun v => (name, v)

/-- The text of schemas in a format. -/
def rendered (format : String) (schemas : Entries Schema) : Except Fault String := do
  let entries ← schemasEntries schemas
  if format = "yaml" then return Yaml.text true entries
  else
    match Json.indented? (.map entries) with
    | some text => return text
    | none => throw (.unwritableKey "bytes")

/-- The outcome of writing schemas to a file. The file stays even if its path cannot be shown. -/
def saved (folder : Folder) (verbose : Bool) (schemas : Entries Schema) (path text : String) :
    Outcome :=
  match folder.write path text.toUTF8.toList with
  | .error f => reported "Error compiling schemas" verbose (.fault f)
  | .ok _ =>
    let markup :=
      "[green]Compiled " ++ natText schemas.length ++ " schema(s) to " ++ path ++ "[/green]"
    let outcome := match Console.printed markup with
      | .ok s => Outcome.success s
      | .error e => reported "Error compiling schemas" verbose (.fault (.markup e))
    { outcome with written := some (path, text) }

/-- Compiles the definitions of a document, or those that are asked for. -/
def compile (folder : Folder) (verbose : Bool) (l : Line) : Outcome :=
  match readDefinitions folder l with
  | .error f => reported "Error compiling schemas" verbose f
  | .ok (compiler, definitions) =>
    let names := l.values "--definition"
    match names.filter fun name => !Entries.contains definitions (.str name) with
    | [] =>
      match compiler.buildSchemas definitions
          (if names.isEmpty then none else some (names.map .str)) with
      | .error f => reported "Error compiling schemas" verbose f
      | .ok schemas =>
        match rendered ((l.value? "--format").getD "json") schemas with
        | .error f => reported "Error compiling schemas" verbose (.fault f)
        | .ok text =>
          let path := (l.value? "--output").getD ""
          if path.isEmpty then .success (text ++ "\n") else saved folder verbose schemas path text
    | unknown => .misuse (some (.unknownDefinitions unknown))

/-! ## 4. Listing -/

/-- The cells of a name: nothing for null. Other keys than texts cannot be shown. -/
def nameCell : Scalar → Option Console.Cell
  | .str name => (Console.lines name).toOption
  | .null => some [""]
  | _ => none

/-- A row for each definition: its name, its shape, how many properties it has, and which of them
are required. -/
def definitionRow (name : Scalar) (node : Node) : Option (List Console.Cell) := do
  let shown ← nameCell name
  let required := ", ".intercalate node.requiredNames
  let names ← (Console.lines (if node.requiredNames.isEmpty then "-" else required)).toOption
  return [shown, [node.kind], [natText node.properties.length], names]

/-- The columns of the table of definitions. -/
def definitionColumns : List Console.Column :=
  [⟨"Name", .left⟩, ⟨"Kind", .left⟩, ⟨"Properties", .right⟩, ⟨"Required", .left⟩]

/-- Shows the definitions of a document. -/
def listDefinitions (folder : Folder) (verbose : Bool) (l : Line) : Outcome :=
  match readDefinitions folder l with
  | .error f => reported "Error loading document" verbose f
  | .ok (_, []) => .printing 0 "" ["[yellow]No definitions found[/yellow]"]
  | .ok (_, definitions) =>
    match definitions.mapM fun (name, node) => definitionRow name node with
    | some rows => .success (Console.table "Definitions" definitionColumns rows)
    | none => .failure ""

/-! ## 5. Validating -/

/-- What the model of a name has to say about a document in a file; nothing if there is no such
model. -/
def checkFile (folder : Folder) (l : Line) (name : String) : Except Failure (Option Report) := do
  let config ← readConfig folder l
  -- the type names are made known before the document is read
  let _ ← (Compiler.ofConfig config).mapError .compile
  let spec ← readSpec folder l
  match Store.empty.compile config spec with
  | (_, .error f) => throw f
  | (store, .ok _) =>
    match store.get? name with
    | none => return none
    | some model =>
      let bytes ← (folder.read (l.arguments.getD 1 "")).mapError .fault
      let text ← (fileText bytes).mapError .fault
      let document ← (Json.readDecoded text).mapError fun e => .fault (.ofJson e)
      return some (← (model.check document).mapError .fault)

/-- The lines for an issue. -/
def issueLines (i : Issue) : List String :=
  ("  [red]ERROR[/red]: " ++ Console.escape i.message) ::
    (if i.path.isEmpty then [] else ["    Path: " ++ i.path])

/-- The lines for a report on a document. -/
def reportLines (name : String) (r : Report) : List String :=
  ("\n" ++ name ++ ": " ++ (if r.isValid then "[green]VALID[/green]" else "[red]INVALID[/red]")) ::
    r.issues.flatMap issueLines

/-- Checks a document against a definition. -/
def validate (folder : Folder) (verbose : Bool) (l : Line) : Outcome :=
  let name := (l.value? "--definition").getD ""
  match checkFile folder l name with
  | .error f => reported "Error validating document" verbose f
  | .ok none =>
    match Console.printed ("[red]Definition '" ++ name ++ "' not found[/red]") with
    | .ok s => .failure s
    | .error e => reported "Error validating document" verbose (.fault (.markup e))
  | .ok (some r) => .printing (if r.isValid then 0 else 1) "" (reportLines name r)

/-! ## 6. Commands -/

/-- The name of the program. -/
def programName : String := "swaggering"

/-- The version of the program. -/
def version : String := "0.1.0"

/-- An option that asks for the help page. -/
def helpSwitch : Switch := { long := "--help", short := none, form := .flag, required := false }

/-- An option for the configuration. -/
def configSwitch : Switch :=
  { long := "--config", short := some 'c', form := .existing, required := false }

/-- An option for the name of a definition. -/
def definitionSwitch (required : Bool) : Switch :=
  { long := "--definition", short := some 'd', form := .text, required := required }

/-- What can stand before the name of a command. -/
def programGrammar : Grammar :=
  { switches :=
      [{ long := "--version", short := none, form := .flag, required := false },
       { long := "--verbose", short := some 'v', form := .flag, required := false }, helpSwitch],
    arguments := [], mixed := false }

/-- A command: its name, what it takes, and what it does. -/
structure Verb where
  name : String
  grammar : Grammar
  run : Folder → Bool → Line → Outcome

/-- The commands. -/
def verbs : List Verb :=
  [{ name := "compile"
     grammar :=
      { switches :=
          [{ long := "--output", short := some 'o', form := .text, required := false },
           { long := "--format", short := some 'f', form := .oneOf ["json", "yaml"],
             required := false },
           definitionSwitch false, configSwitch, helpSwitch],
        arguments := ["SPEC_FILE"], mixed := true }
     run := compile },
   { name := "list-definitions"
     grammar :=
       { switches := [configSwitch, helpSwitch], arguments := ["SPEC_FILE"], mixed := true }
     run := listDefinitions },
   { name := "validate"
     grammar :=
      { switches := [definitionSwitch true, configSwitch, helpSwitch],
        arguments := ["SPEC_FILE", "DOCUMENT_FILE"], mixed := true }
     run := validate }]

/-! ## 7. Running -/

/-- How a command is used, or the program if none is named. -/
def usageText (verb : Option Verb) : String :=
  let form := match verb with
    | some v => v.name ++ " [OPTIONS]" ++ String.join (v.grammar.arguments.map (" " ++ ·))
    | none => "[OPTIONS] COMMAND [ARGS]..."
  "Usage: " ++ programName ++ " " ++ form ++ "\n"

/-- What a command line asks for. -/
inductive Request where
  /-- How to use a command, or the program. -/
  | help (verb : Option Verb)
  | version
  | run (verb : Verb) (verbose : Bool) (line : Line)

/-- What the words after the name of a command ask for. -/
def readVerb (verb : Verb) (verbose : Bool) (words : List String) : Except UsageError Request :=
  (verb.grammar.split words).map fun l => if l.has "--help" then .help verb else .run verb verbose l

/-- What words ask for. Of `--help` and `--version` the first one counts. -/
def readRequest (words : List String) : Except UsageError Request := do
  let l ← programGrammar.split words
  match (l.settings.map (·.switch.long)).find? fun long => long = "--help" || long = "--version",
    l.arguments with
  | some "--version", _ => return .version
  | some _, _ => return .help none
  | none, [] => throw .missingCommand
  | none, name :: rest =>
    match verbs.find? fun v => v.name = name with
    | some verb => readVerb verb (l.has "--verbose") rest
    | none => throw (.noSuchCommand name)

/-- Runs a command line in a folder. -/
def run (folder : Folder) (words : List String) : Outcome :=
  if words.isEmpty then .misuse none
  else
    match readRequest words with
    | .error e => .misuse (some e)
    | .ok (.help verb) => .success (usageText verb)
    | .ok .version => .success (programName ++ ", version " ++ version ++ "\n")
    | .ok (.run verb verbose l) =>
      match l.errors verb.grammar folder with
      | e :: _ => .misuse (some e)
      | [] => verb.run folder verbose l

/-- The paths that a command line names. -/
def paths (words : List String) : List String :=
  match readRequest words with
  | .ok (.run _ _ l) => l.paths
  | _ => []

end ApiStore.Command
