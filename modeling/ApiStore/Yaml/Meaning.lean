import ApiStore.Yaml.Atom
/-
`Meaning.lean` -- what the nodes of a YAML text denote.

A scalar denotes an atom of its type, a list a list, a map a table. A set is written as a
map, whose keys are its members, and two types are written as lists of maps with one
entry each, and denote lists of pairs. Where an atom is wanted and a map given, the map
may name the atom under the key `=`.

**A meaning is all that can be asked.** What stands around a node asks it for its value,
but also for its type, for its text, for the pair that it is in a list of pairs, and for
the entries that it brings into a table under the key `<<`. The meaning of a node answers
each of these, and is made from the meanings of its parts. So a node that is used again
under another name is not looked at again, however often its parts are used.

**Keys.** Keys of a table are atoms. A key `<<` brings in the entries of other tables, in
front of the table's own, which win.

**Which fault counts.** A text is understood from the outside in: first the whole, then
all of its parts, then theirs. So of several faults the least nested one is met first,
and of equally nested ones the first in the text. A finding is a fault with its depth in
the node at hand. The parts of a collection are one level below it, and so is what is
wrong with the collection's own form, unless its type is not known at all.
-/
set_option autoImplicit false

namespace ApiStore.Yaml

/-! ## 1. Findings -/

/-- A fault, and how deep in a node it is met. -/
structure Finding where
  depth : Nat
  fault : Fault

/-- What a node denotes, or the fault that is met first in it. -/
abbrev Outcome (α : Type) := Except Finding α

namespace Outcome

/-- A fault at a depth. -/
def fail {α : Type} (depth : Nat) (fault : Fault) : Outcome α :=
  .error { depth := depth, fault := fault }

/-- A result whose fault is met at the node itself. -/
def here {α : Type} (result : Except Fault α) : Outcome α :=
  result.mapError fun fault => { depth := 0, fault := fault }

/-- An outcome of the parts of a node, as one of the node. -/
def deeper {α : Type} (result : Outcome α) : Outcome α :=
  result.mapError fun finding => { finding with depth := finding.depth + 1 }

/-- Two outcomes, the second of which stands behind the first. -/
def both {α β γ : Type} (combine : α → β → γ) : Outcome α → Outcome β → Outcome γ
  | .ok a, .ok b => .ok (combine a b)
  | .error e, .ok _ => .error e
  | .ok _, .error f => .error f
  | .error e, .error f => .error (if f.depth < e.depth then f else e)

/-- The outcomes of a list, one behind the other. -/
def all {α : Type} (outcomes : List (Outcome α)) : Outcome (List α) :=
  outcomes.foldr (both (· :: ·)) (.ok [])

end Outcome

/-! ## 2. Meanings -/

/-- What a node denotes, as far as what stands around it can ask. -/
structure Meaning where
  tag : Tag
  /-- The text of a scalar, or of the scalar that a map has under the key `=`. -/
  text? : Option (List Char)
  isMap : Bool
  value : Outcome Value
  /-- The pair that a map with one entry is. -/
  pair? : Option (Outcome Value)
  /-- The entries that a map brings into a table, or several maps do in a list. -/
  merged? : Option (Outcome (List (Scalar × Value)))
  /-- Whether it holds itself, so that it would be without end if it were written out. -/
  isEndless : Bool

namespace Meaning

/-- Whether a type is one of atoms. -/
def isAtomic (t : Tag) : Bool :=
  [Tag.null, .bool, .int, .float, .binary, .timestamp, .str].contains t

/-- Whether a type is one of collections. -/
def isCollection (t : Tag) : Bool := [Tag.seq, .map, .set, .omap, .pairs].contains t

/-- The atom of a type that a text spells. The text of a timestamp has to be written directly. -/
def atomOf (t : Tag) (isMap : Bool) : Option (List Char) → Except Fault Scalar
  | none => .error .yaml
  | some text => if isMap && t = .timestamp then .error .timestampTable else Atom.read t text

/-- The key that a node denotes. It has to be an atom, and `=` is a text. -/
def key (m : Meaning) : Outcome Scalar :=
  let t := if m.tag = .value then .str else m.tag
  if isAtomic t then .here (atomOf t m.isMap m.text?) else .fail 0 .yaml

/-- Whether a node is the key that brings in the entries of others. -/
def isMergeKey (m : Meaning) : Bool := m.tag = .merge

/-! ## 3. Scalars and lists -/

/-- A scalar. -/
def scalar (t : Tag) (text : List Char) : Meaning :=
  let value : Outcome Value :=
    if isAtomic t then .here ((atomOf t false (some text)).map .scalar)
    else .fail (if isCollection t then 1 else 0) .yaml
  { tag := t, text? := some text, isMap := false, value := value, pair? := none, merged? := none,
    isEndless := false }

/-- The empty scalar. -/
def empty : Meaning := scalar .null []

/-- The value of a list of a type. -/
def listValue (t : Tag) (items : List Meaning) : Outcome Value :=
  match t with
  | .seq => (Outcome.all (items.map value)).deeper.map .list
  | .omap | .pairs =>
    (Outcome.all (items.map fun m => m.pair?.getD (.fail 0 .yaml))).deeper.map .list
  | .map | .set => .fail 1 .yaml
  | _ => .fail 0 .yaml

/-- The entries that the maps of a list bring into a table, those of the last one first. -/
def listMerged? (items : List Meaning) : Option (Outcome (List (Scalar × Value))) :=
  if items.all (·.isMap) then
    (items.mapM merged?).map fun outcomes => (Outcome.all outcomes.reverse).map List.flatten
  else none

/-- A list. -/
def list (t : Tag) (items : List Meaning) : Meaning :=
  { tag := t, text? := none, isMap := false, value := listValue t items, pair? := none,
    merged? := listMerged? items, isEndless := items.any (·.isEndless) }

/-! ## 4. Maps -/

/-- The text of the first entry whose key is `=`. -/
def textUnder? (entries : List (Meaning × Meaning)) : Option (List Char) :=
  (entries.find? fun (k, _) => k.tag = .value).bind fun (_, v) => v.text?

/-- The entries of a map, without what it brings in. -/
def ownEntries (entries : List (Meaning × Meaning)) : Outcome (List (Scalar × Value)) :=
  Outcome.all ((entries.filter fun (k, _) => !k.isMergeKey).map fun (k, v) =>
    .both Prod.mk k.key v.value)

/-- All that a map holds, what it brings in before its own entries, if it brings in nothing but
maps. -/
def mapMerged? (entries : List (Meaning × Meaning)) : Option (Outcome (List (Scalar × Value))) :=
  let others := (entries.filter fun (k, _) => k.isMergeKey).map (·.2)
  (others.mapM merged?).map fun outcomes =>
    .both (· ++ ·) ((Outcome.all outcomes).map List.flatten) (ownEntries entries)

/-- The table of a map. What it brings in is checked before any entry is looked at. -/
def tableOf (entries : List (Meaning × Meaning)) : Outcome (Entries Value) :=
  ((mapMerged? entries).getD (.fail 0 .yaml)).map Entries.ofList

/-- The value of a map of a type. -/
def mapValue (t : Tag) (entries : List (Meaning × Meaning)) : Outcome Value :=
  match t with
  | .map => (tableOf entries).deeper.map .map
  | .set => (tableOf entries).deeper.map fun table => .set table.keys
  | .seq | .omap | .pairs => .fail 1 .yaml
  | t =>
    if isAtomic t then .here ((atomOf t true (textUnder? entries)).map .scalar) else .fail 0 .yaml

/-- The pair of a map that has one entry. -/
def mapPair? : List (Meaning × Meaning) → Option (Outcome Value)
  | [(k, v)] => some (.both .pair k.value v.value)
  | _ => none

/-- A map. -/
def map (t : Tag) (entries : List (Meaning × Meaning)) : Meaning :=
  { tag := t, text? := textUnder? entries, isMap := true, value := mapValue t entries,
    pair? := mapPair? entries, merged? := mapMerged? entries,
    isEndless := t = .map && entries.any fun (k, v) => !k.isMergeKey && v.isEndless }

/-- A map or a list within itself, where it has no content of its own. -/
def cycle (isMap : Bool) : Meaning :=
  { tag := .unknown, text? := none, isMap := isMap, value := .ok .null, pair? := none,
    merged? := some (.ok []), isEndless := true }

end Meaning

end ApiStore.Yaml
