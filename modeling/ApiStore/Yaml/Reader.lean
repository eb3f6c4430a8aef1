import ApiStore.Yaml.Meaning
import ApiStore.Yaml.Token
/-
`Reader.lean` -- from YAML texts to values.

The tokens of a text make nodes: scalars, lists and maps, each with its type. An alias
stands for what its anchor marks, unless it stands within what its anchor marks: then it
is a cycle. A text holds one document; one that holds none is the empty scalar. What a
node denotes is found as soon as the node is complete.

**Entries that are left out.** Where a value, a key or an entry may stand and nothing
does, there is an empty plain scalar. A list that is the value of a key may stand at the
key's own column; it then has no token that ends it.

**Types.** A tag that says nothing but that there is one leaves the type to the node's
shape, and asks of a scalar what it looks like even if it is in quotes.

**Depth.** Collections nest to a fixed depth, and a text that goes deeper is refused
where it does.
-/
set_option autoImplicit false

namespace ApiStore.Yaml

/-! ## 1. Reading tokens -/

/-- What is left to read: the tokens and the fault that ends them, the anchors so far, each with
what it marks, what the handles of tags stand for, and how many more collections may be open at
once. -/
structure Pending where
  tokens : List Token
  ending : Option Fault
  anchors : List (String × Meaning)
  handles : List (String × String)
  room : Nat

/-- How many collections may be open at once. -/
def mostOpen : Nat := 485

/-- What the handles stand for unless a directive says something else. -/
def knownHandles : List (String × String) := [("!", "!"), ("!!", Tag.standard)]

/-- Reads part of a text. -/
abbrev Reading := StateT Pending (Except Fault)

namespace Reading

/-- Refuses a text. -/
def refuse {α : Type} : Reading α := throw .yaml

/-- The next token; nothing at the end of the text. -/
def peek : Reading (Option Token) := do
  let p ← get
  match p.tokens, p.ending with
  | t :: _, _ => return some t
  | [], none => return none
  | [], some f => throw f

/-- Passes over the next token. -/
def skip : Reading Unit := modify fun p => { p with tokens := p.tokens.tail }

/-- Whether the next token is one of some. -/
def nextIs (wanted : List Token) : Reading Bool := return (← peek).any wanted.contains

/-- Passes over the next token if it is the given one. -/
def accept (t : Token) : Reading Bool := do
  if (← peek) = some t then
    skip
    return true
  else return false

/-- Passes over a token that has to be there. -/
def expect (t : Token) : Reading Unit := do if ← accept t then return else refuse

/-! ## 2. Anchors and tags -/

/-- The anchor at the start of a node. -/
def anchor : Reading (Option String) := do
  match ← peek with
  | some (.anchor name) =>
    skip
    return some name
  | _ => return none

/-- The tag at the start of a node. -/
def tagName : Reading (Option TagName) := do
  match ← peek with
  | some (.tag name) =>
    skip
    return some name
  | _ => return none

/-- The full name of a tag. -/
def fullName (name : TagName) : Reading String := do
  match name.handle with
  | none => return name.suffix
  | some handle =>
    match (← get).handles.lookup handle with
    | some stem => return stem ++ name.suffix
    | none => refuse

/-- The anchor and the full tag of a node, each of which may be given once and in either order. -/
def properties : Reading (Option String × Option String) := do
  let before ← anchor
  let tag ← tagName
  let after ← if before.isNone && tag.isSome then anchor else pure none
  return (before.or after, ← tag.mapM fullName)

/-- The type of a list or a map whose tag is given, or of one without a tag. -/
def typeOr (default : Tag) (tag : Option String) : Tag :=
  match tag with
  | none | some "!" => default
  | some name => .ofName name

/-- A scalar whose tag is given; without a tag a plain scalar is what it looks like. -/
def scalarOf (tag : Option String) (plain : Bool) (text : List Char) : Meaning :=
  match tag with
  | none => .scalar (if plain then .implicit text else .str) text
  | some name => .scalar (if name = "!" then .implicit text else .ofName name) text

/-- Remembers what an anchor marks; a collection is a cycle as long as it is not complete. -/
def remember (anchor : Option String) (m : Meaning) : Reading Unit :=
  modify fun p =>
    match anchor with
    | none => p
    | some name =>
      { p with anchors := (name, m) :: p.anchors.filter fun (known, _) => known != name }

/-- Refuses an anchor that marks something already. -/
def checkFree (anchor : Option String) : Reading Unit := do
  let p ← get
  if anchor.any fun name => (p.anchors.lookup name).isSome then refuse

/-- What an alias stands for. -/
def marked (name : String) : Reading Meaning := do
  match (← get).anchors.lookup name with
  | some m => return m
  | none => refuse

/-- Completes a node that an anchor may mark. -/
def finish (anchor : Option String) (m : Meaning) : Reading Meaning := do
  remember anchor m
  return m

/-- Reads the parts of a collection, which is open meanwhile. -/
def inside {α : Type} (parts : Reading α) : Reading α := do
  let p ← get
  if p.room = 0 then throw .tooDeep
  set { p with room := p.room - 1 }
  let result ← parts
  modify fun q => { q with room := p.room }
  return result

/-! ## 3. Nodes -/

/-- Where a node stands: whether it may be a block, and whether it may be a list at its key's
column. -/
inductive Place where
  | flow
  | block
  | afterKey
  deriving DecidableEq

mutual

/-- A node. -/
def node (place : Place) : (steps : Nat) → Reading Meaning
  | 0 => refuse
  | steps + 1 => do
    match ← peek with
    | some (.aliasName name) =>
      skip
      marked name
    | _ =>
      let (anchor, tag) ← properties
      checkFree anchor
      content place anchor tag steps

/-- What follows the anchor and the tag of a node. -/
def content (place : Place) (anchor tag : Option String) : (steps : Nat) → Reading Meaning
  | 0 => refuse
  | steps + 1 => do
    let isNamed := anchor.isSome || tag.isSome
    let list (items : Reading (List Meaning)) : Reading Meaning := do
      remember anchor (.cycle false)
      finish anchor (.list (typeOr .seq tag) (← inside items))
    let map (entries : Reading (List (Meaning × Meaning))) : Reading Meaning := do
      remember anchor (.cycle true)
      finish anchor (.map (typeOr .map tag) (← inside entries))
    match ← peek with
    | some (.scalar plain text) =>
      skip
      finish anchor (scalarOf tag plain text.toList)
    | some .openList =>
      skip
      list (flowItems true steps)
    | some .openMap =>
      skip
      map (flowEntries true steps)
    | some .listEntry =>
      if place = .afterKey then list (entries false steps)
      else if isNamed then finish anchor (scalarOf tag true [])
      else refuse
    | some .blockList =>
      if place ≠ .flow then
        skip
        list (entries true steps)
      else if isNamed then finish anchor (scalarOf tag true [])
      else refuse
    | some .blockMap =>
      if place ≠ .flow then
        skip
        map (blockEntries steps)
      else if isNamed then finish anchor (scalarOf tag true [])
      else refuse
    | _ => if isNamed then finish anchor (scalarOf tag true []) else refuse

/-- A node, or nothing if one of some tokens follows. -/
def nodeUnless (stops : List Token) (place : Place) : (steps : Nat) → Reading Meaning
  | 0 => refuse
  | steps + 1 => do if ← nextIs stops then return .empty else node place steps

/-- The entries of a list in a block; `closed` tells whether a token ends it. -/
def entries (closed : Bool) : (steps : Nat) → Reading (List Meaning)
  | 0 => refuse
  | steps + 1 => do
    if ← accept .listEntry then
      let stops := if closed then [.listEntry, .blockEnd] else [.listEntry, .key, .value, .blockEnd]
      let first ← nodeUnless stops .block steps
      let others ← entries closed steps
      return first :: others
    else
      if closed then expect .blockEnd
      return []

/-- The entries of a map in a block. -/
def blockEntries : (steps : Nat) → Reading (List (Meaning × Meaning))
  | 0 => refuse
  | steps + 1 => do
    if ← accept .key then
      let key ← nodeUnless [.key, .value, .blockEnd] .afterKey steps
      let v ←
        if ← accept .value then nodeUnless [.key, .value, .blockEnd] .afterKey steps
        else pure .empty
      let others ← blockEntries steps
      return (key, v) :: others
    else
      expect .blockEnd
      return []

/-- The items of a list in brackets. A key among them makes an item of one entry. -/
def flowItems (first : Bool) : (steps : Nat) → Reading (List Meaning)
  | 0 => refuse
  | steps + 1 => do
    if ← accept .closeList then return []
    if !first then expect .flowEntry
    if ← accept .closeList then return []
    let item ←
      if ← accept .key then do
        let key ← nodeUnless [.value, .flowEntry, .closeList] .flow steps
        let v ←
          if ← accept .value then nodeUnless [.flowEntry, .closeList] .flow steps
          else pure .empty
        pure (.map .map [(key, v)])
      else node .flow steps
    let others ← flowItems false steps
    return item :: others

/-- The entries of a map in brackets. -/
def flowEntries (first : Bool) : (steps : Nat) → Reading (List (Meaning × Meaning))
  | 0 => refuse
  | steps + 1 => do
    if ← accept .closeMap then return []
    if !first then expect .flowEntry
    if ← accept .closeMap then return []
    let entry ←
      if ← accept .key then do
        let key ← nodeUnless [.value, .flowEntry, .closeMap] .flow steps
        let v ←
          if ← accept .value then nodeUnless [.flowEntry, .closeMap] .flow steps
          else pure .empty
        pure (key, v)
      else do
        let key ← node .flow steps
        pure (key, .empty)
    let others ← flowEntries false steps
    return entry :: others

end

/-! ## 4. Documents -/

/-- Reads the directives in front of a document: at most one version, which has to be understood,
and at most one meaning for each handle. -/
def directives (versioned : Bool) (handles : List (String × String)) : (steps : Nat) → Reading Unit
  | 0 => refuse
  | steps + 1 => do
    match ← peek with
    | some (.directive d) =>
      skip
      match d with
      | .version major => if versioned || major != 1 then refuse else directives true handles steps
      | .handle name stem =>
        if (handles.lookup name).isSome then refuse
        else directives versioned ((name, stem) :: handles) steps
      | .other => directives versioned handles steps
    | _ => modify fun p => { p with handles := handles ++ knownHandles }

/-- Whether a token is a directive. -/
def isDirective : Token → Bool
  | .directive _ => true
  | _ => false

/-- A document whose start is marked. -/
def markedDocument (steps : Nat) : Reading Meaning := do
  directives false [] steps
  expect .documentStart
  match ← peek with
  | none => return .empty
  | some t =>
    if isDirective t || t = .documentStart || t = .documentEnd then return .empty
    else node .block steps

/-- Passes over marks of a document's end; nothing else may follow. -/
def ending : (steps : Nat) → Reading Unit
  | 0 => refuse
  | steps + 1 => do
    match ← peek with
    | none => return
    | some .documentEnd =>
      skip
      ending steps
    | some _ => refuse

/-- The only document of a text. -/
def document (steps : Nat) : Reading Meaning := do
  match ← peek with
  | none => return .empty
  | some t =>
    let m ← if isDirective t || t = .documentStart then markedDocument steps else node .block steps
    ending steps
    return m

end Reading

/-! ## 5. Texts -/

/-- What the tokens of a text denote. -/
def Meaning.ofTokens (tokens : Tokens) : Except Fault Meaning :=
  let start : Pending :=
    { tokens := tokens.all, ending := tokens.ending, anchors := [], handles := knownHandles,
      room := mostOpen }
  (·.1) <$> (Reading.document (8 * tokens.all.length + 8)).run start

/-- What a YAML text denotes. -/
def meaning (text : List Char) : Except Fault Meaning := Meaning.ofTokens (Token.scan text)

/-- The value of a YAML text; a text that holds nothing is null, and so is a list or a table within
itself. -/
def read (text : List Char) : Except Fault Value := do
  let m ← meaning text
  m.value.mapError Finding.fault

/-- Whether a YAML text denotes a value that holds itself. -/
def isEndless (text : List Char) : Bool :=
  match meaning text with
  | .ok m => m.isEndless
  | .error _ => false

end ApiStore.Yaml
