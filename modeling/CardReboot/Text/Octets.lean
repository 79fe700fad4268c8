/-!
# Texts as octets

A text is carried as UTF-8.  Octets that do not form a character are repaired:
the longest beginning of a character that they do form, or else one octet, is
replaced by one replacement character.  Octets are a text as they stand exactly
when repairing them changes nothing.
-/

namespace CardReboot.Text

abbrev Octets := List UInt8

def encodeChar (c : Char) : Octets :=
  let n := c.toNat
  if n < 0x80 then [UInt8.ofNat n]
  else if n < 0x800 then
    [UInt8.ofNat (0xC0 + n / 0x40), UInt8.ofNat (0x80 + n % 0x40)]
  else if n < 0x10000 then
    [UInt8.ofNat (0xE0 + n / 0x1000), UInt8.ofNat (0x80 + n / 0x40 % 0x40),
      UInt8.ofNat (0x80 + n % 0x40)]
  else
    [UInt8.ofNat (0xF0 + n / 0x40000), UInt8.ofNat (0x80 + n / 0x1000 % 0x40),
      UInt8.ofNat (0x80 + n / 0x40 % 0x40), UInt8.ofNat (0x80 + n % 0x40)]

def encode (text : List Char) : Octets := text.flatMap encodeChar

/-- The beginning of a character: the bits so far, how many octets are still
owed, and between which bounds the next one has to lie. -/
structure PartialChar where
  bits : Nat
  owed : Nat
  low : Nat
  high : Nat

/-- What an octet at the start of a character is. -/
inductive Lead
  | whole (c : Char)
  | first (start : PartialChar)
  | stray

def lead (octet : Nat) : Lead :=
  if octet < 0x80 then .whole (Char.ofNat octet)
  else if octet < 0xC2 then .stray
  else if octet < 0xE0 then .first ⟨octet - 0xC0, 1, 0x80, 0xBF⟩
  else if octet = 0xE0 then .first ⟨0, 2, 0xA0, 0xBF⟩
  else if octet = 0xED then .first ⟨0xD, 2, 0x80, 0x9F⟩
  else if octet < 0xF0 then .first ⟨octet - 0xE0, 2, 0x80, 0xBF⟩
  else if octet = 0xF0 then .first ⟨0, 3, 0x90, 0xBF⟩
  else if octet < 0xF4 then .first ⟨octet - 0xF0, 3, 0x80, 0xBF⟩
  else if octet = 0xF4 then .first ⟨4, 3, 0x80, 0x8F⟩
  else .stray

def replacement : Char := Char.ofNat 0xFFFD

/-- Repairs octets that follow the beginning of a character, if there is one. -/
def repairAfter : Option PartialChar → Octets → List Char
  | none, [] => []
  | some _, [] => [replacement]
  | begun, octet :: rest =>
      let afresh (repaired : List Char) : List Char :=
        match lead octet.toNat with
        | .whole c => repaired ++ c :: repairAfter none rest
        | .first start => repaired ++ repairAfter (some start) rest
        | .stray => repaired ++ replacement :: repairAfter none rest
      match begun with
      | none => afresh []
      | some part =>
          if part.low ≤ octet.toNat ∧ octet.toNat ≤ part.high then
            let bits := part.bits * 0x40 + octet.toNat % 0x40
            if part.owed = 1 then Char.ofNat bits :: repairAfter none rest
            else repairAfter (some ⟨bits, part.owed - 1, 0x80, 0xBF⟩) rest
          else afresh [replacement]

/-- The text that the octets are, repaired where they are none. -/
def repair (octets : Octets) : List Char := repairAfter none octets

/-- The text that the octets are, if they are one as they stand. -/
def decode? (octets : Octets) : Option (List Char) :=
  if encode (repair octets) = octets then some (repair octets) else none

end CardReboot.Text
