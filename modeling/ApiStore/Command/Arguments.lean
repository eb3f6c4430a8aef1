import ApiStore.Command.Folder
import ApiStore.Text.Likeness
/-
`Arguments.lean` -- reading the words of a command line.

A word that starts with a dash is an option, or several one-letter options in a row; the
word `--` ends the options. An option that takes a value finds it after an equals sign, if
its long name is used, or in what is left of the word, or in the word after it, whatever
that looks like. All other words are arguments.

Reading comes in two steps. Splitting the words needs to know only which options there
are and which of them take values. Then each value is checked, those of options first, in
the order in which the options were given, then those of arguments; what is missing shows
at its place in this order.
-/
set_option autoImplicit false

namespace ApiStore.Command

/-! ## 1. What a command takes -/

/-- What the value of an option can be. -/
inductive Form where
  /-- The option has no value. -/
  | flag
  | text
  | oneOf (choices : List String)
  /-- The path of something that exists. -/
  | existing
  deriving DecidableEq, Repr

/-- An option of a command. -/
structure Switch where
  long : String
  short : Option Char
  form : Form
  required : Bool
  deriving DecidableEq, Repr

/-- Whether an option takes a value. -/
def Switch.takesValue (s : Switch) : Bool := s.form ≠ .flag

/-- The names of an option in messages. -/
def Switch.hint (s : Switch) : String :=
  " / ".intercalate (("'" ++ s.long ++ "'") :: s.short.toList.map fun c => "'-" ++
    String.singleton c ++ "'")

/-- What a command takes: options, and arguments, which are paths of things that exist. -/
structure Grammar where
  switches : List Switch
  arguments : List String
  /-- Whether options may follow arguments. -/
  mixed : Bool
  deriving DecidableEq, Repr

/-! ## 2. Errors -/

/-- Why a command line cannot be used. -/
inductive UsageError where
  /-- There is no such option; some that exist are like it. -/
  | noSuchOption (name : String) (alike : List String)
  /-- The value of an option is missing. -/
  | noValue (name : String)
  /-- An option is given a value that takes none. -/
  | valueGiven (name : String)
  | missingArgument (name : String)
  | missingOption (hint : String)
  /-- Nothing exists at a path. -/
  | noSuchPath (hint path : String)
  /-- A value is none of those allowed. -/
  | notAChoice (hint value : String) (choices : List String)
  | extraArguments (words : List String)
  | noSuchCommand (name : String)
  | missingCommand
  /-- Definitions were asked for that the document does not have. -/
  | unknownDefinitions (names : List String)
  deriving DecidableEq, Repr

/-- The hint at options that are like one that does not exist. -/
def alikeText : List String → String
  | [] => ""
  | [name] => " Did you mean " ++ name ++ "?"
  | names => " (Possible options: " ++ ", ".intercalate names ++ ")"

/-- The words for an error. -/
def UsageError.message : UsageError → String
  | .noSuchOption name alike => "No such option: " ++ name ++ alikeText alike
  | .noValue name => "Option " ++ Text.quoted name ++ " requires an argument."
  | .valueGiven name => "Option " ++ Text.quoted name ++ " does not take a value."
  | .missingArgument name => "Missing argument '" ++ name ++ "'."
  | .missingOption hint => "Missing option " ++ hint ++ "."
  | .noSuchPath hint path =>
    "Invalid value for " ++ hint ++ ": Path " ++ Text.quoted path ++ " does not exist."
  | .notAChoice hint value choices =>
    "Invalid value for " ++ hint ++ ": " ++ Text.quoted value ++ " is not one of " ++
      ", ".intercalate (choices.map Text.quoted) ++ "."
  | .extraArguments words =>
    "Got unexpected extra argument" ++ (if words.length = 1 then "" else "s") ++ " (" ++
      " ".intercalate words ++ ")"
  | .noSuchCommand name => "No such command " ++ Text.quoted name ++ "."
  | .missingCommand => "Missing command."
  | .unknownDefinitions names => "Unknown definition(s): " ++ ", ".intercalate names

/-! ## 3. Splitting -/

/-- An option as it was given. -/
structure Setting where
  switch : Switch
  /-- The value; empty for a flag. -/
  value : String
  deriving DecidableEq, Repr

/-- A command line, split. -/
structure Line where
  settings : List Setting
  arguments : List String
  deriving DecidableEq, Repr

/-- What a word of options says: the options in it, and one whose value is the next word, with its
name as given. -/
structure OptionWord where
  settings : List Setting
  open? : Option (Switch × String)

/-- The letters of a word as options. -/
def readLetters (g : Grammar) : List Char → Except UsageError OptionWord
  | [] => .ok ⟨[], none⟩
  | c :: rest =>
    match g.switches.find? fun s => s.short = some c with
    | none => .error (.noSuchOption (String.ofList ['-', c]) [])
    | some s =>
      if s.takesValue then
        if rest.isEmpty then .ok ⟨[], some (s, String.ofList ['-', c])⟩
        else .ok ⟨[⟨s, String.ofList rest⟩], none⟩
      else (readLetters g rest).map fun w => { w with settings := ⟨s, ""⟩ :: w.settings }

/-- A word that starts with a dash. A word with one dash may still be a long name. -/
def readOption (g : Grammar) (word : String) : Except UsageError OptionWord :=
  let name := String.ofList (word.toList.takeWhile (· != '='))
  let value := (word.toList.dropWhile (· != '=')).tail?
  match g.switches.find? fun s => s.long = name with
  | none =>
    if word.startsWith "--" then
      .error (.noSuchOption name (Text.likeWords name (g.switches.map (·.long))))
    else readLetters g word.toList.tail
  | some s =>
    match s.takesValue, value with
    | true, some v => .ok ⟨[⟨s, String.ofList v⟩], none⟩
    | true, none => .ok ⟨[], some (s, name)⟩
    | false, some _ => .error (.valueGiven name)
    | false, none => .ok ⟨[⟨s, ""⟩], none⟩

/-- Whether a word is read as options. -/
def isOptionWord (word : String) : Bool := word.startsWith "-" && word ≠ "-"

/-- Splits words; `waiting` is an option whose value is the next word. -/
def splitWords (g : Grammar) (waiting : Option (Switch × String)) : List String →
    Except UsageError Line
  | [] =>
    match waiting with
    | some (_, name) => .error (.noValue name)
    | none => .ok ⟨[], []⟩
  | word :: rest =>
    match waiting with
    | some (s, _) =>
      (splitWords g none rest).map fun l => { l with settings := ⟨s, word⟩ :: l.settings }
    | none =>
      if word = "--" then .ok ⟨[], rest⟩
      else if isOptionWord word then do
        let w ← readOption g word
        let l ← splitWords g w.open? rest
        return { l with settings := w.settings ++ l.settings }
      else if g.mixed then
        (splitWords g none rest).map fun l => { l with arguments := word :: l.arguments }
      else .ok ⟨[], word :: rest⟩

/-- A command line, split by a grammar. -/
def Grammar.split (g : Grammar) (words : List String) : Except UsageError Line :=
  splitWords g none words

namespace Line

/-- Whether an option was given. -/
def has (l : Line) (long : String) : Bool := l.settings.any fun s => s.switch.long = long

/-- The values of an option, in order. -/
def values (l : Line) (long : String) : List String :=
  (l.settings.filter fun s => s.switch.long = long).map (·.value)

/-- The value of an option: the last one, if it was given more than once. -/
def value? (l : Line) (long : String) : Option String := (l.values long).getLast?

/-! ## 4. Checking -/

/-- What is wrong with a path that has to exist. -/
def pathError? (folder : Folder) (hint path : String) : Option UsageError :=
  match folder.look path with
  | .nothing => some (.noSuchPath hint path)
  | _ => none

/-- What is wrong with the value of an option that was given. -/
def settingError? (folder : Folder) (s : Switch) (value : String) : Option UsageError :=
  match s.form with
  | .existing => pathError? folder s.hint value
  | .oneOf choices =>
    if choices.contains value then none else some (.notAChoice s.hint value choices)
  | .flag | .text => none

/-- What is wrong with an argument. -/
def argumentError? (folder : Folder) (name : String) : Option String → Option UsageError
  | none => some (.missingArgument name)
  | some path => pathError? folder ("'" ++ name ++ "'") path

/-- The options of a line, each once, in the order in which they were first given. -/
def given (l : Line) : List Switch := l.settings.foldl
  (fun found s => if found.contains s.switch then found else found ++ [s.switch]) []

/-- All that is wrong with a line, first things first. -/
def errors (g : Grammar) (folder : Folder) (l : Line) : List UsageError :=
  (l.given.filterMap fun s => (l.value? s.long).bind (settingError? folder s)) ++
    ((List.range g.arguments.length).filterMap fun i =>
      argumentError? folder (g.arguments.getD i "") l.arguments[i]?) ++
    (g.switches.filterMap fun s =>
      if s.required && !l.has s.long then some (.missingOption s.hint) else none) ++
    (match l.arguments.drop g.arguments.length with
      | [] => []
      | extra => [.extraArguments extra])

/-- The paths that a line names. -/
def paths (l : Line) : List String :=
  l.arguments ++ (l.settings.filter fun s => s.switch.takesValue).map (·.value)

end Line

end ApiStore.Command
