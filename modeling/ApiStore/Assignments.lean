import ApiStore.Fault
/-
`Assignments.lean` -- tables from other values.

Where a table is wanted, a list of assignments will do: a list whose items are pairs of a
key and a value. A pair is anything with two items, so also a text of two characters or
a table of two keys. Nothing at all, as a text or as a list, is the empty table.
-/
set_option autoImplicit false

namespace ApiStore.Value

/-- The items of a value that has some: of a list or a pair, the keys of a table, the members of a
set, the characters of a text, or the bytes of a byte string. -/
def elements? : Value → Option (List Value)
  | .list items => some items
  | .map entries => some (entries.map fun (k, _) => .scalar k)
  | .str s => some (s.toList.map fun c => .str (String.singleton c))
  | .scalar (.bytes b) => some (b.map fun c => .int c.toNat)
  | .set members => some (members.map .scalar)
  | .pair a b => some [a, b]
  | .scalar _ => none

/-- The assignment that an item of a list makes. -/
def assignment (index : Nat) (item : Value) : Except Fault (Scalar × Value) :=
  match item.elements? with
  | none => .error (.notSequence index)
  | some [.scalar key, v] => .ok (key, v)
  | some [key, _] => .error (.unhashable key.kind)
  | some parts => .error (.notPair index parts.length)

/-- The assignments that items make, one after another. -/
def assignments (index : Nat) : List Value → Except Fault (List (Scalar × Value))
  | [] => .ok []
  | item :: rest => do
    let first ← assignment index item
    let others ← assignments (index + 1) rest
    return first :: others

/-- The table that a value makes. -/
def toTable (v : Value) : Except Fault (Entries Value) :=
  match v with
  | .map entries => .ok entries
  | _ =>
    match v.elements? with
    | none => .error (.notIterable v.kind)
    | some items => (assignments 0 items).map Entries.ofList

end ApiStore.Value
