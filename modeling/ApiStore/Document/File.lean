import ApiStore.Config.Reading
import ApiStore.Document
import ApiStore.Yaml.Printer
/-
`File.lean` -- documents and configurations in files.

A file is given by its name and its bytes. Its text is UTF-8, and however its lines end,
they are read as ending with a line feed. A document is YAML if the name of its file says
so, and JSON if it does not. A configuration is always YAML.
-/
set_option autoImplicit false

namespace ApiStore

/-- The text of a file. -/
def fileText (bytes : List UInt8) : Except Fault (List Char) :=
  match Text.decodeUtf8 bytes with
  | .ok s => .ok (Text.unixLines s.toList)
  | .error e => .error (.encoding e)

/-- The last part of a path: what follows its last slash, slashes at its end apart. -/
def fileName (path : String) : List Char :=
  ((path.toList.reverse.dropWhile (· == '/')).takeWhile (· != '/')).reverse

/-- The ending of a file's name, from its last point on. A point at either end of the name is part
of the name. -/
def fileEnding (path : String) : List Char :=
  let backwards := (fileName path).reverse
  let ending := backwards.takeWhile (· != '.')
  let before := (backwards.drop ending.length).drop 1
  if ending.isEmpty || before.isEmpty then [] else '.' :: ending.reverse

/-- Whether the name of a file says that it is YAML. -/
def isYamlName (path : String) : Bool :=
  [".yaml", ".yml"].contains (String.ofList ((fileEnding path).map Char.toLower))

namespace Document

/-- Whether the document in a file holds itself. Only YAML can say so. -/
def isEndless (path : String) (bytes : List UInt8) : Bool :=
  match fileText bytes with
  | .ok text => isYamlName path && Yaml.isEndless text
  | .error _ => false

/-- The document in a file. -/
def loadFile (path : String) (bytes : List UInt8) : Except Failure (Entries Value) := do
  let text ← (fileText bytes).mapError .fault
  if isYamlName path then
    match Yaml.read text with
    | .ok v => load v
    | .error .yaml => throw (.compile .specNotYaml)
    | .error e => throw (.fault e)
  else load (.str (String.ofList text))

/-- The document in a file, to be shown in full, which one that holds itself cannot be. -/
def showFile (path : String) (bytes : List UInt8) : Except Failure (Entries Value) := do
  let document ← loadFile path bytes
  if isEndless path bytes then throw (.fault .tooDeep) else return document

end Document

namespace Config

/-- The configuration of a YAML text. -/
def ofYaml (text : List Char) : Except Fault Config := Yaml.read text >>= ofValue

/-- The configuration in a file. -/
def ofFile (bytes : List UInt8) : Except Fault Config := fileText bytes >>= ofYaml

/-- The YAML text of a configuration, in ASCII. -/
def yamlText (c : Config) : String := Yaml.text false c.toEntries

end Config

end ApiStore
