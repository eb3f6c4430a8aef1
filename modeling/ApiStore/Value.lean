import ApiStore.Scalar
/-
`Value.lean` -- documents as data.

A `Value` is what a JSON or YAML text holds, and the same type carries what the
library makes of it: compiled fields, stored documents, JSON Schemas as plain data. It
has three shapes, an atom, a list and a table; a YAML text may also hold a set of atoms,
and lists of pairs. Recursion over values is structural throughout, by three functions that
call each other: one on values, one on lists of values, one on lists of entries.
-/
set_option autoImplicit false

namespace ApiStore

/-- A document: an atom, a list, a table in the order of its entries, a set, or a pair. -/
inductive Value where
  | scalar (s : Scalar)
  | list (items : List Value)
  | map (entries : List (Scalar × Value))
  | set (members : List Scalar)
  | pair (first second : Value)
  deriving Repr, Inhabited

namespace Value

/-! ## 1. Shapes -/

@[match_pattern] abbrev null : Value := .scalar .null
@[match_pattern] abbrev bool (b : Bool) : Value := .scalar (.bool b)
@[match_pattern] abbrev int (i : Int) : Value := .scalar (.int i)
@[match_pattern] abbrev double (d : Double) : Value := .scalar (.double d)
@[match_pattern] abbrev str (s : String) : Value := .scalar (.str s)

/-- A table whose keys are texts. -/
def object (entries : List (String × Value)) : Value := .map (entries.map fun (k, v) => (.str k, v))

/-- What messages call the kind of an atom. -/
def scalarKind : Scalar → String
  | .null => "NoneType"
  | .bool _ => "bool"
  | .int _ => "int"
  | .double _ => "float"
  | .str _ => "str"
  | .bytes _ => "bytes"
  | .date _ => "date"
  | .dateTime _ => "datetime"

/-- What messages call the kind of a value. -/
def kind : Value → String
  | .scalar s => scalarKind s
  | .list _ => "list"
  | .map _ => "dict"
  | .set _ => "set"
  | .pair _ _ => "tuple"

/-- The text that a value is, if it is one. -/
def text? : Value → Option String
  | .str s => some s
  | _ => none

/-- The value of a table at a text key. -/
def get? (v : Value) (key : String) : Option Value :=
  match v with
  | .map entries => Entries.get? entries (.str key)
  | _ => none

/-- Whether the value counts as present: not null, not false, not a zero, not empty. -/
def isTruthy : Value → Bool
  | .null => false
  | .bool b => b
  | .int i => i != 0
  | .double d => !d.isZero
  | .str s => !s.isEmpty
  | .scalar (.bytes b) => !b.isEmpty
  | .scalar _ => true
  | .list items => !items.isEmpty
  | .map entries => !entries.isEmpty
  | .set members => !members.isEmpty
  | .pair _ _ => true

/-! ## 2. Equality is decidable -/

mutual

/-- Decides whether two values are literally equal. -/
def decEq : (a b : Value) → Decidable (a = b)
  | .scalar a, .scalar b => if h : a = b then isTrue (by rw [h]) else isFalse (by simpa using h)
  | .list a, .list b =>
    match decEqItems a b with
    | isTrue h => isTrue (by rw [h])
    | isFalse h => isFalse (by simpa using h)
  | .map a, .map b =>
    match decEqEntries a b with
    | isTrue h => isTrue (by rw [h])
    | isFalse h => isFalse (by simpa using h)
  | .set a, .set b => if h : a = b then isTrue (by rw [h]) else isFalse (by simpa using h)
  | .pair a b, .pair c d =>
    match decEq a c, decEq b d with
    | isTrue h, isTrue k => isTrue (by rw [h, k])
    | isFalse h, _ => isFalse (by simp [h])
    | _, isFalse k => isFalse (by simp [k])
  | .scalar _, .list _ | .scalar _, .map _ | .scalar _, .set _ | .scalar _, .pair _ _ | .list _,
    .scalar _
  | .list _, .map _ | .list _, .set _ | .list _, .pair _ _ | .map _, .scalar _ | .map _, .list _ |
    .map _, .set _
  | .map _, .pair _ _ | .set _, .scalar _ | .set _, .list _ | .set _, .map _ | .set _, .pair _ _
  | .pair _ _, .scalar _ | .pair _ _, .list _ | .pair _ _, .map _ | .pair _ _, .set _ =>
    isFalse (by simp)

/-- Decides whether two lists of values are literally equal. -/
def decEqItems : (a b : List Value) → Decidable (a = b)
  | [], [] => isTrue rfl
  | [], _ :: _ => isFalse (by simp)
  | _ :: _, [] => isFalse (by simp)
  | a :: as, b :: bs =>
    match decEq a b, decEqItems as bs with
    | isTrue h, isTrue hs => isTrue (by rw [h, hs])
    | isFalse h, _ => isFalse (by simp [h])
    | _, isFalse hs => isFalse (by simp [hs])

/-- Decides whether two lists of entries are literally equal. -/
def decEqEntries : (a b : List (Scalar × Value)) → Decidable (a = b)
  | [], [] => isTrue rfl
  | [], _ :: _ => isFalse (by simp)
  | _ :: _, [] => isFalse (by simp)
  | (k, a) :: as, (l, b) :: bs =>
    if hk : k = l then
      match decEq a b, decEqEntries as bs with
      | isTrue h, isTrue hs => isTrue (by rw [hk, h, hs])
      | isFalse h, _ => isFalse (by simp [h])
      | _, isFalse hs => isFalse (by simp [hs])
    else isFalse (by simp [hk])

end

instance : DecidableEq Value := decEq

end Value

end ApiStore
