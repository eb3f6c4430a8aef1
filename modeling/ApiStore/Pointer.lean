import ApiStore.Text.Word
/-
`Pointer.lean` -- pointers from one definition to another.

A pointer is one of two roots followed by the name of a definition. Two readers are
needed. `parse?` is strict, and is used wherever a pointer is followed: the name has to
consist of word characters, and only a line end may come after it. `stripRoots` is lax,
and is used where the name is merely written down again: it removes both roots wherever
they stand and keeps the rest, whatever it is.
-/
set_option autoImplicit false

namespace ApiStore.Pointer

/-- The roots, in the order in which they are tried and removed. -/
def roots : List String := ["#/definitions/", "#/components/schemas/"]

/-- What follows a root at the start of a text. -/
def dropRoot? (text root : List Char) : Option (List Char) :=
  if root.isPrefixOf text then some (text.drop root.length) else none

/-- The word that a text consists of, one final line end apart. -/
def word? (text : List Char) : Option (List Char) :=
  let word := text.takeWhile Text.isWord
  let rest := text.dropWhile Text.isWord
  if word.isEmpty then none else if rest = [] ∨ rest = ['\n'] then some word else none

/-- The name that a pointer leads to. -/
def parse? (pointer : String) : Option String :=
  (roots.findSome? fun root => (dropRoot? pointer.toList root.toList).bind word?).map String.ofList

/-- Removes a pattern that is not empty from a text, from left to right. What comes together where
an occurrence was removed is not looked at again. -/
def remove (pattern : List Char) (text : List Char) : List Char :=
  match text with
  | [] => []
  | c :: rest =>
    if pattern ≠ [] ∧ pattern.isPrefixOf (c :: rest) then
      remove pattern (rest.drop (pattern.length - 1))
    else c :: remove pattern rest
termination_by text.length
decreasing_by
  · simp only [List.length_drop, List.length_cons]; omega
  · simp only [List.length_cons]; omega

/-- The text of a pointer without its roots. -/
def stripRoots (pointer : String) : String :=
  String.ofList (roots.foldl (fun text root => remove root.toList text) pointer.toList)

end ApiStore.Pointer
