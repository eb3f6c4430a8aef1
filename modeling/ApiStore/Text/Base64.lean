/-
`Base64.lean` -- bytes in letters.

Every letter carries six bits, so four letters carry three bytes. Characters that are
no letters are passed over, and so are signs of equality, unless they fill up a group of
four: then the text is at its end, whatever follows.
-/
set_option autoImplicit false

namespace ApiStore.Text

/-- The six bits of a letter. -/
def sixBits? (c : Char) : Option Nat :=
  if 'A' ≤ c ∧ c ≤ 'Z' then some (c.toNat - 65)
  else if 'a' ≤ c ∧ c ≤ 'z' then some (c.toNat - 71)
  else if '0' ≤ c ∧ c ≤ '9' then some (c.toNat + 4)
  else if c = '+' then some 62
  else if c = '/' then some 63
  else none

/-- A group of four letters that is being read: how many letters it has, the bits that are not yet
in a byte, and how many signs of equality stand at its end. -/
structure Quartet where
  letters : Nat
  bits : Nat
  fillers : Nat

/-- The group that nothing was read of. -/
def Quartet.fresh : Quartet := { letters := 0, bits := 0, fillers := 0 }

/-- The bytes of a text; nothing if it ends within a group. -/
def base64Bytes? (q : Quartet) : List Char → Option (List UInt8)
  | [] => if q.letters = 0 then some [] else none
  | c :: rest =>
    if c = '=' then
      if q.letters < 2 then base64Bytes? q rest
      else if 4 ≤ q.letters + q.fillers + 1 then some []
      else base64Bytes? { q with fillers := q.fillers + 1 } rest
    else
      match sixBits? c with
      | none => base64Bytes? q rest
      | some six =>
        match q.letters with
        | 0 => base64Bytes? { letters := 1, bits := six, fillers := 0 } rest
        | 1 =>
          (base64Bytes? { letters := 2, bits := six % 16, fillers := 0 } rest).map
            (UInt8.ofNat (q.bits * 4 + six / 16) :: ·)
        | 2 =>
          (base64Bytes? { letters := 3, bits := six % 4, fillers := 0 } rest).map
            (UInt8.ofNat (q.bits * 16 + six / 4) :: ·)
        | _ => (base64Bytes? .fresh rest).map (UInt8.ofNat (q.bits * 64 + six) :: ·)

/-- The bytes that a text carries; nothing if it is not in ASCII or ends within a group. -/
def ofBase64? (s : List Char) : Option (List UInt8) :=
  if s.all (·.toNat < 128) then base64Bytes? .fresh s else none

end ApiStore.Text
