import ApiStore.Pattern.CharSet
/-
`Pattern.lean` -- patterns that texts have to match.

A pattern is a regular expression. It matches a text if it matches some stretch of it.
Because a pattern may commit itself to the way in which a part of it matched, and may
refer back to what a group matched, the ways to match have an order, and the first way
counts that lets the whole succeed.

**Going on.** `Pattern.attempt` is given what has to follow as a function: it tries the
ways of the pattern in their order until what follows succeeds. A part that commits
itself is attempted with nothing to follow, and its first way is final.

**Repetition.** After the rounds that a repetition needs, a round that takes no character
is the last one, so there are at most as many further rounds as the text has characters.
Of the rounds that are needed, one more than the text has characters are enough: one of
them takes no character, and can be repeated at will.
-/
set_option autoImplicit false

namespace ApiStore

/-! ## 1. Syntax -/

/-- Conditions on a position. -/
inductive Anchor where
  | textStart
  | textEnd
  | lastLineEnd
  | lineStart
  | lineEnd
  | wordEdge (ascii negated : Bool)
  deriving DecidableEq, Repr

/-- In which order numbers of rounds are tried: the most first, the fewest first, or only the
most. -/
inductive Eagerness where
  | greedy
  | reluctant
  | possessive
  deriving DecidableEq, Repr

/-- A regular expression. Groups have numbers. -/
inductive Pattern where
  | nothing
  | one (set : CharSet)
  | sequence (first second : Pattern)
  | either (first second : Pattern)
  | repeated (body : Pattern) (least : Nat) (most : Option Nat) (eagerness : Eagerness)
  | anchor (condition : Anchor)
  | ahead (negated : Bool) (body : Pattern)
  | behind (distance : Nat) (negated : Bool) (body : Pattern)
  | committed (body : Pattern)
  | group (number : Nat) (body : Pattern)
  | sameAs (number : Nat) (folding : Folding)
  | ifMatched (number : Nat) (yes no : Pattern)
  deriving DecidableEq, Repr

namespace Pattern

/-! ## 2. How many characters a pattern takes -/

/-- Bounds on a number of characters. -/
structure Width where
  least : Nat
  most : Nat
  deriving DecidableEq, Repr

/-- Bounds above this one are not told apart. -/
def widest : Nat := Nat.pow 2 64

/-- The bounds that are told apart. -/
def Width.capped (w : Width) : Width := { least := min w.least widest, most := min w.most widest }

/-- How many characters a pattern takes, given that of the groups before it. -/
def width (groups : Nat → Width) : Pattern → Width
  | .nothing | .anchor _ | .ahead _ _ | .behind _ _ _ => { least := 0, most := 0 }
  | .one _ => { least := 1, most := 1 }
  | .sequence p q =>
    let a := width groups p
    let b := width groups q
    Width.capped { least := a.least + b.least, most := a.most + b.most }
  | .either p q | .ifMatched _ p q =>
    let a := width groups p
    let b := width groups q
    { least := min a.least b.least, most := max a.most b.most }
  | .repeated body least most _ =>
    let w := width groups body
    let upper := match most with
      | some m => w.most * m
      | none => if w.most = 0 then 0 else widest
    Width.capped { least := w.least * least, most := upper }
  | .committed body | .group _ body => width groups body
  | .sameAs number _ => groups number

/-! ## 3. Positions -/

/-- How far a match has come: its position, and where groups started and ended last. -/
structure Progress where
  position : Nat
  starts : List (Nat × Nat)
  stops : List (Nat × Nat)
  deriving DecidableEq, Repr

/-- What a group matched, as two positions, if it did. -/
def Progress.stretch? (s : Progress) (number : Nat) : Option (Nat × Nat) :=
  match s.starts.lookup number, s.stops.lookup number with
  | some start, some stop => if start ≤ stop then some (start, stop) else none
  | _, _ => none

/-- Whether a condition holds at a position. An empty text has neither word edges nor other
places. -/
def holds (text : Array Char) (i : Nat) : Anchor → Bool
  | .textStart => i == 0
  | .textEnd => i == text.size
  | .lastLineEnd => i == text.size || (i + 1 == text.size && text[i]? == some '\n')
  | .lineStart => i == 0 || text[i - 1]? == some '\n'
  | .lineEnd => i == text.size || text[i]? == some '\n'
  | .wordEdge ascii negated =>
    let word (c : Option Char) : Bool := c.any (CharClass.word.contains ascii)
    !text.isEmpty && ((0 < i && word text[i - 1]?) != word text[i]?) != negated

/-- Whether two characters are the same, as far as case is looked at. -/
def sameChar (f : Folding) (a b : Char) : Bool := f.small (Text.code a) == f.small (Text.code b)

/-- Whether the text goes on at a position with the same characters as a stretch of it. -/
def repeats (text : Array Char) (f : Folding) (start count i : Nat) : Bool :=
  i + count ≤ text.size &&
    (List.range count).all fun k =>
      match text[start + k]?, text[i + k]? with
      | some a, some b => sameChar f a b
      | _, _ => false

/-! ## 4. Rounds -/

/-- What has to follow a match. -/
abbrev Onward := Progress → Option Progress

/-- A number of rounds. -/
def rounds (round : Progress → Onward → Option Progress) : (count : Nat) → Progress → Onward →
    Option Progress
  | 0, s, next => next s
  | count + 1, s, next => round s fun t => rounds round count t next

/-- At most a number of rounds; one that takes no character is the last. -/
def furtherRounds (round : Progress → Onward → Option Progress) (greedy : Bool) :
    (count : Nat) → Progress → Onward → Option Progress
  | 0, s, next => next s
  | count + 1, s, next =>
    let more (_ : Unit) : Option Progress :=
      round s fun t =>
        if t.position = s.position then next t else furtherRounds round greedy count t next
    if greedy then (more ()).orElse fun _ => next s else (next s).orElse more

/-- A number of rounds, each of which is final. -/
def finalRounds (round : Progress → Onward → Option Progress) : (count : Nat) → Progress →
    Option Progress
  | 0, s => some s
  | count + 1, s => (round s some).bind (finalRounds round count)

/-- As many rounds as there are, up to a number, each of which is final. -/
def allRounds (round : Progress → Onward → Option Progress) : (count : Nat) → Progress → Progress
  | 0, s => s
  | count + 1, s =>
    match round s some with
    | none => s
    | some t => if t.position = s.position then t else allRounds round count t

/-! ## 5. Matching -/

/-- The first way in which a pattern matches and what follows succeeds. -/
def attempt (text : Array Char) : Pattern → Progress → Onward → Option Progress
  | .nothing, s, next => next s
  | .one set, s, next =>
    if (text[s.position]?).any set.contains then next { s with position := s.position + 1 }
    else none
  | .sequence p q, s, next => attempt text p s fun t => attempt text q t next
  | .either p q, s, next => (attempt text p s next).orElse fun _ => attempt text q s next
  | .repeated body least most eagerness, s, next =>
    let needed := min least (text.size + 1)
    let further := match most with
      | some m => min (m - least) (text.size + 1)
      | none => text.size + 1
    let round := attempt text body
    match eagerness with
    | .greedy => rounds round needed s fun t => furtherRounds round true further t next
    | .reluctant => rounds round needed s fun t => furtherRounds round false further t next
    | .possessive => (finalRounds round needed s).bind fun t => next (allRounds round further t)
  | .anchor condition, s, next => if holds text s.position condition then next s else none
  | .ahead negated body, s, next =>
    match attempt text body s some, negated with
    | some t, false => next { t with position := s.position }
    | none, true => next s
    | _, _ => none
  | .behind distance negated body, s, next =>
    let found :=
      if s.position < distance then none
      else attempt text body { s with position := s.position - distance } some
    match found, negated with
    | some t, false => next { t with position := s.position }
    | none, true => next s
    | _, _ => none
  | .committed body, s, next => (attempt text body s some).bind next
  | .group number body, s, next =>
    attempt text body { s with starts := (number, s.position) :: s.starts } fun t =>
      next { t with stops := (number, t.position) :: t.stops }
  | .sameAs number folding, s, next =>
    match s.stretch? number with
    | some (start, stop) =>
      if repeats text folding start (stop - start) s.position then
        next { s with position := s.position + (stop - start) }
      else none
    | none => none
  | .ifMatched number yes no, s, next =>
    if (s.stretch? number).isSome then attempt text yes s next else attempt text no s next

/-- Whether a pattern matches some stretch of a text. -/
def search (p : Pattern) (text : String) : Bool :=
  let chars := text.toList.toArray
  (List.range (chars.size + 1)).any fun i =>
    (attempt chars p { position := i, starts := [], stops := [] } some).isSome

end Pattern

end ApiStore
