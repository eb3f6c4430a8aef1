/-
`Token.lean` -- the tokens of a pattern's notation.

A backslash belongs to the character behind it, whatever that is, so the notation is cut
into tokens before anything else is decided: a bracket behind a backslash closes
nothing, and a backslash at the very end is an offence wherever reading gets that far.
-/
set_option autoImplicit false

namespace ApiStore.Pattern

/-- A token of a pattern's notation. -/
inductive Token where
  /-- A character by itself. -/
  | plain (c : Char)
  /-- A character behind a backslash. -/
  | escaped (c : Char)
  /-- A backslash at the end. -/
  | broken
  deriving DecidableEq, Repr

namespace Token

/-- The tokens of a notation. -/
def ofChars : List Char → List Token
  | [] => []
  | ['\\'] => [.broken]
  | '\\' :: c :: rest => .escaped c :: ofChars rest
  | c :: rest => .plain c :: ofChars rest

/-- The characters of a token. -/
def toChars : Token → List Char
  | .plain c => [c]
  | .escaped c => ['\\', c]
  | .broken => ['\\']

/-- Whether a token is a character by itself that has a property. -/
def plainAnd (test : Char → Bool) : Token → Bool
  | .plain c => test c
  | _ => false

/-- Whether a token is a given character by itself. -/
def isPlain (c : Char) : Token → Bool := plainAnd (· == c)

end Token

end ApiStore.Pattern
