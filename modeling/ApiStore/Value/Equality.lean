import ApiStore.Value
/-
`Equality.lean` -- two ways in which values are equal.

A query finds a document by `Value.same`: numbers are equal as numbers, whatever their
kind, and the booleans are the numbers 0 and 1. An enumeration of allowed values uses
`Value.identical`: there, at every depth, a boolean equals only itself. Lists are equal
item by item, and for an enumeration pairs and byte strings are lists too; tables are equal
if they have the same keys with equal values, and sets if they have the same members, in
whatever order.
-/
set_option autoImplicit false

namespace ApiStore

/-- Whether two atoms are equal when booleans are told apart from numbers. -/
def Scalar.identical (a b : Scalar) : Bool :=
  match a, b with
  | .bool p, .bool q => p == q
  | .bool _, _ | _, .bool _ => false
  | _, _ => a.same b

namespace Value

mutual

/-- Equality of values under an equality of atoms. -/
def equalBy (eq : Scalar → Scalar → Bool) : Value → Value → Bool
  | .scalar a, .scalar b => eq a b
  | .list a, .list b => equalItems eq a b
  | .map a, .map b => a.length == b.length && equalEntries eq a b
  | .set a, .set b => a.length == b.length && a.all fun x => b.any x.sameKey
  | .pair a b, .pair c d => equalBy eq a c && equalBy eq b d
  | _, _ => false

/-- Equality of lists, item by item. -/
def equalItems (eq : Scalar → Scalar → Bool) : List Value → List Value → Bool
  | [], [] => true
  | a :: as, b :: bs => equalBy eq a b && equalItems eq as bs
  | _, _ => false

/-- Whether each of the entries has an equal one in the table `other`. -/
def equalEntries (eq : Scalar → Scalar → Bool) : List (Scalar × Value) → List (Scalar × Value) →
    Bool
  | [], _ => true
  | (k, v) :: rest, other =>
    (match Entries.get? other k with
      | some w => equalBy eq v w
      | none => false) && equalEntries eq rest other

end

/-- Equality of values in which numbers and booleans compare as numbers. -/
def same : Value → Value → Bool := equalBy Scalar.same

mutual

/-- A value in which pairs and byte strings are lists. -/
def spread : Value → Value
  | .scalar (.bytes b) => .list (b.map fun c => .int c.toNat)
  | .scalar s => .scalar s
  | .list items => .list (spreadItems items)
  | .map entries => .map (spreadEntries entries)
  | .set members => .set members
  | .pair a b => .list [spread a, spread b]

/-- The items of a list, each spread. -/
def spreadItems : List Value → List Value
  | [] => []
  | v :: rest => spread v :: spreadItems rest

/-- The entries of a table, each with its value spread. -/
def spreadEntries : List (Scalar × Value) → List (Scalar × Value)
  | [] => []
  | (k, v) :: rest => (k, spread v) :: spreadEntries rest

end

/-- Equality of values in which booleans are told apart from numbers. -/
def identical (a b : Value) : Bool := equalBy Scalar.identical a.spread b.spread

end Value

end ApiStore
