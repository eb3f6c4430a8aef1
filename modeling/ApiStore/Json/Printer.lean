import ApiStore.Value.Literal
/-
`Printer.lean` -- values as JSON text.

One printer writes three texts: the one-line snapshot of a node inside an error
message, with its keys in order so that equal nodes look alike; the indented text of
compiled schemas; and the indented text of an error report. Atoms that JSON does not
have are written as texts, in display form. A table whose keys JSON cannot write, or
whose keys have no common order where one is asked for, has no JSON text; a snapshot
then falls back on the literal form.
-/
set_option autoImplicit false

namespace ApiStore.Json

/-! ## 1. Atoms and keys -/

/-- Doubles in JSON text. -/
def numbers : NumberStyle :=
  { nan := "NaN", infinite := "Infinity", negInfinite := "-Infinity", pointBeforeExponent := false }

/-- An atom as JSON text. -/
def scalarText : Scalar → String
  | .null => "null"
  | .bool b => if b then "true" else "false"
  | .int i => intText i
  | .double d => d.text numbers
  | .str s => Text.jsonQuoted s
  | s => Text.jsonQuoted s.display

/-- The text that a key becomes. -/
def keyText? : Scalar → Option String
  | .null => some "null"
  | .bool b => some (if b then "true" else "false")
  | .int i => some (intText i)
  | .double d => some (d.text numbers)
  | .str s => some s
  | _ => none

/-- Whether one key sorts before or with another: texts by code points, numbers by size. -/
def keyLe (a b : Scalar) : Bool :=
  match a, b with
  | .str s, .str t => !decide (t < s)
  | _, _ =>
    match a.number?, b.number? with
    | some m, some n => !n.lt m
    | _, _ => true

/-- Entries in the order of their keys. Keys have a common order if all are texts or all are
numbers, or if there is only one. -/
def sortEntries? {α : Type} (entries : List (Scalar × α)) : Option (List (Scalar × α)) :=
  let texts := entries.all fun (k, _) => match k with | .str _ => true | _ => false
  let numeric := entries.all fun (k, _) => k.number?.isSome
  if texts || numeric || entries.length ≤ 1 then some (entries.mergeSort fun a b => keyLe a.1 b.1)
  else none

/-! ## 2. Layout -/

/-- How a JSON text is laid out: on one line, or with each item on a line of its own. -/
structure Layout where
  sortKeys : Bool
  indent : Option Nat

/-- Parts between brackets, at a depth of nesting. -/
def enclose (layout : Layout) (depth : Nat) (opening closing : String) (parts : List String) :
    String :=
  match parts, layout.indent with
  | [], _ => opening ++ closing
  | _, none => opening ++ ", ".intercalate parts ++ closing
  | _, some width =>
    let line (d : Nat) := "\n" ++ String.ofList (List.replicate (d * width) ' ')
    opening ++ line (depth + 1) ++ ("," ++ line (depth + 1)).intercalate parts ++ line depth ++
      closing

mutual

/-- The JSON text of a value at a depth of nesting. -/
def text? (layout : Layout) (depth : Nat) : Value → Option String
  | .scalar s => some (scalarText s)
  | .list items => do
    let parts ← itemTexts? layout (depth + 1) items
    some (enclose layout depth "[" "]" parts)
  | .map entries => do
    let named ← entryTexts? layout (depth + 1) entries
    let ordered ← if layout.sortKeys then sortEntries? named else some named
    some (enclose layout depth "\x7b" "\x7d" (ordered.map (·.2)))
  | .set members => some (Text.jsonQuoted (Value.set members).display)
  | .pair a b => do
    let first ← text? layout (depth + 1) a
    let second ← text? layout (depth + 1) b
    some (enclose layout depth "[" "]" [first, second])

/-- The JSON texts of the items of a list. -/
def itemTexts? (layout : Layout) (depth : Nat) : List Value → Option (List String)
  | [] => some []
  | v :: rest => do
    let first ← text? layout depth v
    let others ← itemTexts? layout depth rest
    some (first :: others)

/-- The JSON texts of entries, under their keys. -/
def entryTexts? (layout : Layout) (depth : Nat) : List (Scalar × Value) →
    Option (List (Scalar × String))
  | [] => some []
  | (k, v) :: rest => do
    let key ← keyText? k
    let value ← text? layout depth v
    let others ← entryTexts? layout depth rest
    some ((k, Text.jsonQuoted key ++ ": " ++ value) :: others)

end

/-- The text of a value with each item on its own line, two columns deeper than its parent. -/
def indented? (v : Value) : Option String := text? { sortKeys := false, indent := some 2 } 0 v

/-- The one-line text of a node in an error message. -/
def snapshot (v : Value) : String := (text? { sortKeys := true, indent := none } 0 v).getD v.literal

end ApiStore.Json
