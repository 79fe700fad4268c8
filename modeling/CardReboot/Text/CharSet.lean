/-!
# Sets of characters

A set of characters is written down as the increasing list of the code points
at which membership changes: a character is a member when an odd number of the
bounds lie at or below it.  Every class of characters that the library reads or
writes by is such a set, so one membership test serves all of them.

The decimal digits are those of every script, the characters of general category
`Nd`.  Only the ten of ASCII carry a value that a number is read from; the others
count as digits where a text is matched and are refused where it is read.  The
blanks are the characters with the property `White_Space`: trimming a text removes
them from both ends, and columns of a console table are set apart by them.
-/

namespace CardReboot.Text

/-- The code points at which membership changes, in increasing order. -/
structure CharSet where
  bounds : List Nat

namespace CharSet

/-- Whether an odd number of the increasing `bounds` lie at or below `n`. -/
def flips : List Nat → Nat → Bool
  | [], _ => false
  | bound :: rest, n => if n < bound then false else !flips rest n

def contains (set : CharSet) (c : Char) : Bool :=
  flips set.bounds c.toNat

theorem flips_of_lt {bound : Nat} {rest : List Nat} {n : Nat} (h : n < bound) :
    flips (bound :: rest) n = false := by
  simp [flips, h]

theorem flips_of_le {bound : Nat} {rest : List Nat} {n : Nat} (h : bound ≤ n) :
    flips (bound :: rest) n = !flips rest n := by
  simp [flips, Nat.not_lt.mpr h]

end CharSet

/-! ## Decimal digits -/

def digits : CharSet := ⟨[
  48, 58, 1632, 1642, 1776, 1786, 1984, 1994, 2406, 2416, 2534, 2544,
  2662, 2672, 2790, 2800, 2918, 2928, 3046, 3056, 3174, 3184, 3302, 3312,
  3430, 3440, 3558, 3568, 3664, 3674, 3792, 3802, 3872, 3882, 4160, 4170,
  4240, 4250, 6112, 6122, 6160, 6170, 6470, 6480, 6608, 6618, 6784, 6794,
  6800, 6810, 6992, 7002, 7088, 7098, 7232, 7242, 7248, 7258, 42528, 42538,
  43216, 43226, 43264, 43274, 43472, 43482, 43504, 43514, 43600, 43610, 44016, 44026,
  65296, 65306, 66720, 66730, 68912, 68922, 68928, 68938, 69734, 69744, 69872, 69882,
  69942, 69952, 70096, 70106, 70384, 70394, 70736, 70746, 70864, 70874, 71248, 71258,
  71360, 71370, 71376, 71396, 71472, 71482, 71904, 71914, 72016, 72026, 72688, 72698,
  72784, 72794, 73040, 73050, 73120, 73130, 73184, 73194, 73552, 73562, 90416, 90426,
  92768, 92778, 92864, 92874, 93008, 93018, 93552, 93562, 118000, 118010, 120782, 120832,
  123200, 123210, 123632, 123642, 124144, 124154, 124401, 124411, 125264, 125274, 130032, 130042]⟩

/-- A decimal digit of any script. -/
def isDigit (c : Char) : Bool := digits.contains c

/-- One of the ten ASCII digits. -/
def isAsciiDigit (c : Char) : Bool := '0'.toNat ≤ c.toNat && c.toNat ≤ '9'.toNat

/-- The value of an ASCII digit. -/
def digitValue (c : Char) : Nat := c.toNat - '0'.toNat

/-! ## Blanks -/

def blanks : CharSet := ⟨[
  9, 14, 32, 33, 133, 134, 160, 161, 5760, 5761, 8192, 8203,
  8232, 8234, 8239, 8240, 8287, 8288, 12288, 12289]⟩

def isBlank (c : Char) : Bool := blanks.contains c

def trimLeft (text : List Char) : List Char := text.dropWhile isBlank

def trimRight (text : List Char) : List Char :=
  (text.reverse.dropWhile isBlank).reverse

/-- The text without the blanks at its two ends. -/
def trim (text : List Char) : List Char := trimRight (trimLeft text)

/-- Whether nothing but blanks is in the text. -/
def isBlankText (text : List Char) : Bool := text.all isBlank

end CardReboot.Text
