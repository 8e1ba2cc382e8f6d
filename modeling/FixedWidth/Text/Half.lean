/-!
# Halves of surrogate pairs

A document can name, by escapes, one half of a surrogate pair without the other.
A half is no character, but it has its place in a text: it counts for one, it is
compared, and it is shown by its code point.

Such a half is kept as a character for private use, one of the 2048 in the last
plane whose code points end as the half's does. No text that is read or written
as bytes gives these characters another meaning here.
-/

namespace FixedWidth.Text

/-- Whether a code point is a half of a surrogate pair. -/
def isHalf (n : Nat) : Bool :=
  0xD800 ≤ n && n < 0xE000

/-- The character that a half is kept as. -/
def ofHalf (n : Nat) : Char :=
  Char.ofNat (0x100000 + n)

/-- The half that a character stands for, if it stands for one. -/
def half? (c : Char) : Option Nat :=
  if isHalf (c.toNat - 0x100000) then some (c.toNat - 0x100000) else none

/-- The character of a code point, which may be a half. -/
def ofCodePoint (n : Nat) : Char :=
  if isHalf n then ofHalf n else Char.ofNat n

end FixedWidth.Text
