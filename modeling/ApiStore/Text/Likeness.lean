/-
`Likeness.lean` -- which words are like another.

Two words are compared by what they have in common: their longest common stretch, then,
on either side of it, the longest common stretches of what remains there, and so on.
Their likeness is the share of both words that lies in such stretches. Among stretches
of one length the first in the first word counts, and then the first in the second.
-/
set_option autoImplicit false

namespace ApiStore.Text

/-- The length of the stretch with which two words begin alike. -/
def commonStart : List Char → List Char → Nat
  | a :: as, b :: bs => if a = b then commonStart as bs + 1 else 0
  | _, _ => 0

/-- A stretch that two words share. -/
structure Stretch where
  left : Nat
  right : Nat
  size : Nat

/-- The longest stretch that two words share. -/
def longestStretch (a b : List Char) : Stretch :=
  let all := (List.range a.length).flatMap fun i => (List.range b.length).map fun j =>
    Stretch.mk i j (commonStart (a.drop i) (b.drop j))
  all.foldl (fun best s => if best.size < s.size then s else best) ⟨0, 0, 0⟩

/-- The characters that two words have in common, stretches being split at most `depth` times. -/
def sharedWithin (depth : Nat) (a b : List Char) : Nat :=
  match depth with
  | 0 => 0
  | n + 1 =>
    let s := longestStretch a b
    if s.size = 0 then 0
    else
      s.size + sharedWithin n (a.take s.left) (b.take s.right) +
        sharedWithin n (a.drop (s.left + s.size)) (b.drop (s.right + s.size))

/-- The characters that two words have in common. Each split takes one character or more from the
first word, so its length bounds their number. -/
def shared (a b : List Char) : Nat := sharedWithin a.length a b

/-- Whether three fifths or more of two words are common to both. -/
def isLike (a b : String) : Bool :=
  decide (3 * (a.length + b.length) ≤ 10 * shared a.toList b.toList)

/-- Whether the first of two candidates is at least as like to a word as the second; of equally like
ones the one that sorts later goes first. -/
def likerLe (word a b : String) : Bool :=
  let m := shared a.toList word.toList * (b.length + word.length)
  let n := shared b.toList word.toList * (a.length + word.length)
  decide (n < m) || (m == n && !decide (a < b))

/-- The candidates most like a word, at most three, in alphabetical order. -/
def likeWords (word : String) (candidates : List String) : List String :=
  let best := ((candidates.filter fun c => isLike c word).mergeSort (likerLe word)).take 3
  best.mergeSort fun a b => !decide (b < a)

end ApiStore.Text
