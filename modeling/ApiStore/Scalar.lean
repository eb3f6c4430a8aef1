import ApiStore.Calendar.Date
import ApiStore.Number.Order
/-
`Scalar.lean` -- the atoms of a document, and tables keyed by them.

A document is built from atoms, lists and tables. The keys of a table are atoms too:
in JSON always texts, in YAML also numbers, booleans, dates and null. Two keys are the
same key if they are equal as values, which for numbers means as numbers, so `1`, `1.0`
and `true` are one key.

**A table is its list of entries.** The order of entries is part of a document (it is
the order in which properties are compiled and problems reported), so a table is an
association list, and `Entries.insert` keeps the place of a key it finds and appends a
key it does not. That no key occurs twice is not built into the type: documents nest
tables in themselves, and a proof inside such a type would have to be carried through
every recursion. It is the predicate `Entries.Distinct` instead.
-/
set_option autoImplicit false

namespace ApiStore

/-- An atom of a document. -/
inductive Scalar where
  | null
  | bool (b : Bool)
  | int (i : Int)
  | double (d : Double)
  | str (s : String)
  | bytes (b : List UInt8)
  | date (d : Date)
  | dateTime (t : DateTime)
  deriving DecidableEq, Repr, Inhabited

namespace Scalar

/-! ## 1. Equality of atoms -/

/-- The number that an atom stands for in comparisons; the booleans stand for 0 and 1. -/
def number? : Scalar → Option Number
  | .bool b => some (.int (if b then 1 else 0))
  | .int i => some (.int i)
  | .double d => some (.double d)
  | _ => none

/-- Whether two atoms are equal values: as numbers, as instants, or literally. -/
def same (a b : Scalar) : Bool :=
  match a.number?, b.number? with
  | some m, some n => m.same n
  | none, none =>
    match a, b with
    | .dateTime s, .dateTime t => s.same t
    | _, _ => a == b
  | _, _ => false

/-- Whether two atoms are the same key. Unlike as a value, NaN is the same key as itself. -/
def sameKey (a b : Scalar) : Bool := a == b || a.same b

/-- A text is the same key as itself only. -/
theorem sameKey_str_str (s t : String) : sameKey (.str s) (.str t) = (s == t) := by
  have literal : (Scalar.str s == Scalar.str t) = (s == t) := Bool.eq_iff_iff.2 (by simp)
  simp [sameKey, same, number?, literal]

end Scalar

/-! ## 2. Tables -/

/-- The entries of a table, in order. -/
abbrev Entries (α : Type) := List (Scalar × α)

namespace Entries

variable {α β : Type}

/-- The value at a key. -/
def get? : Entries α → Scalar → Option α
  | [], _ => none
  | (k, v) :: rest, key => if k.sameKey key then some v else get? rest key

/-- Whether a key has an entry. -/
def contains (entries : Entries α) (key : Scalar) : Bool := (get? entries key).isSome

/-- Gives a key a value: in its place if it is there, at the end if it is not. -/
def insert : Entries α → Scalar → α → Entries α
  | [], key, value => [(key, value)]
  | (k, v) :: rest, key, value =>
    if k.sameKey key then (k, value) :: rest else (k, v) :: insert rest key value

/-- Removes the entries of a key. -/
def erase (entries : Entries α) (key : Scalar) : Entries α :=
  entries.filter fun (k, _) => !k.sameKey key

/-- Inserts the entries of `upper` one after another: where both have a key, `upper` wins. -/
def overlay (base upper : Entries α) : Entries α :=
  upper.foldl (fun acc (k, v) => acc.insert k v) base

/-- The table of a list of assignments; a later one of a key replaces an earlier one. -/
def ofList (assignments : List (Scalar × α)) : Entries α := overlay [] assignments

/-- The keys, in order. -/
def keys (entries : Entries α) : List Scalar := entries.map (·.1)

/-- Applies a function to every value. -/
def mapValues (f : α → β) (entries : Entries α) : Entries β := entries.map fun (k, v) => (k, f v)

/-- No two entries have the same key. -/
def Distinct (entries : Entries α) : Prop := entries.Pairwise fun a b => a.1.sameKey b.1 = false

@[simp] theorem get?_nil (key : Scalar) : get? ([] : Entries α) key = none := rfl

@[simp] theorem overlay_nil (base : Entries α) : base.overlay [] = base := rfl

@[simp] theorem overlay_cons (base upper : Entries α) (k : Scalar) (v : α) :
    base.overlay ((k, v) :: upper) = (base.insert k v).overlay upper := rfl

end Entries

end ApiStore
