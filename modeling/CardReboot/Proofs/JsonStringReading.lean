import CardReboot.Json.Reader
import Mathlib.Data.Char

/-!
# Reading JSON strings

A character of a string is written as it stands, as a letter behind a backslash, as four
hexadecimal digits or, beyond the first plane, as the two halves of a surrogate pair.  A
string is read from any such writing of its characters, and what follows its closing quote
is left as it stands.
-/

namespace CardReboot.JsonReader

open Text

/-! ## How characters are written -/

/-- The four hexadecimal digits write the number. -/
structure WritesHex (n : Nat) (digits : List Char) : Prop where
  length_eq : digits.length = 4
  hex : ∀ c ∈ digits, isDigitOf 16 c = true
  numeral_eq : numeral 16 digits = n

/-- The characters that have a letter of their own behind a backslash. -/
def shortEscapes : List (Char × Char) :=
  [('"', '"'), ('\\', '\\'), ('/', '/'), ('b', Char.ofNat 8), ('f', Char.ofNat 12),
    ('n', '\n'), ('r', '\r'), ('t', '\t')]

/-- The text writes the character inside a string. -/
inductive WritesChar (c : Char) : List Char → Prop
  | plain (hquote : c ≠ '"') (hbackslash : c ≠ '\\') (hcontrol : 0x20 ≤ c.toNat) :
      WritesChar c [c]
  | short {letter : Char} (hletter : (letter, c) ∈ shortEscapes) : WritesChar c ['\\', letter]
  | unit {digits : List Char} (hdigits : WritesHex c.toNat digits) :
      WritesChar c ('\\' :: 'u' :: digits)
  | pair
      {leading trailing : List Char} (hplane : 0x10000 ≤ c.toNat)
      (hleading : WritesHex (0xD800 + (c.toNat - 0x10000) / 0x400) leading)
      (htrailing : WritesHex (0xDC00 + (c.toNat - 0x10000) % 0x400) trailing) :
      WritesChar c ('\\' :: 'u' :: (leading ++ '\\' :: 'u' :: trailing))

inductive WritesChars : List Char → List Char → Prop
  | nil : WritesChars [] []
  | cons {c : Char} {chars piece text : List Char} (hc : WritesChar c piece)
      (hchars : WritesChars chars text) : WritesChars (c :: chars) (piece ++ text)

/-- The text writes the string, with its quotes. -/
inductive WritesString (s : String) : List Char → Prop
  | quoted {text : List Char} (hchars : WritesChars s.toList text) :
      WritesString s ('"' :: (text ++ ['"']))

/-! ## Reading one character -/

theorem hexValue?_of_isDigitOf {c : Char} (hc : isDigitOf 16 c = true) :
    ∃ value, hexValue? c = some value := by
  cases hvalue : hexValue? c with
  | none => simp [isDigitOf, hvalue] at hc
  | some value => exact ⟨value, rfl⟩

theorem fourHexDigits?_append {n : Nat} {digits : List Char} (hdigits : WritesHex n digits)
    (rest : List Char) : fourHexDigits? (digits ++ rest) = some (n, rest) := by
  obtain ⟨hlength, hhex, hnumeral⟩ := hdigits
  match digits, hlength with
  | [a, b, c, d], _ =>
      obtain ⟨va, ha⟩ := hexValue?_of_isDigitOf (hhex a (by simp))
      obtain ⟨vb, hb⟩ := hexValue?_of_isDigitOf (hhex b (by simp))
      obtain ⟨vc, hc⟩ := hexValue?_of_isDigitOf (hhex c (by simp))
      obtain ⟨vd, hd⟩ := hexValue?_of_isDigitOf (hhex d (by simp))
      have hvalue : ((va * 16 + vb) * 16 + vc) * 16 + vd = n := by
        simpa [numeral, numeralFrom, ha, hb, hc, hd] using hnumeral
      simp [fourHexDigits?, ha, hb, hc, hd, hvalue]

theorem hexEscape_append {n : Nat} {digits : List Char} (hdigits : WritesHex n digits)
    (rest : List Char) : hexEscape (digits ++ rest) = .ok (n, rest) := by
  simp only [hexEscape, fourHexDigits?_append hdigits]

theorem not_surrogate (c : Char) :
    isLeadingSurrogate c.toNat = false ∧ isTrailingSurrogate c.toNat = false := by
  have hvalid := c.valid
  simp only [UInt32.isValidChar, Nat.isValidChar] at hvalid
  change c.toNat < 0xD800 ∨ 0xDFFF < c.toNat ∧ c.toNat < 0x110000 at hvalid
  simp only [isLeadingSurrogate, isTrailingSurrogate, Bool.and_eq_false_iff,
    decide_eq_false_iff_not]
  omega

theorem unicodeEscape_unit {c : Char} {digits : List Char} (hdigits : WritesHex c.toNat digits)
    (rest : List Char) : unicodeEscape (digits ++ rest) = .ok (c, rest) := by
  obtain ⟨hleading, htrailing⟩ := not_surrogate c
  simp only [unicodeEscape, hexEscape_append hdigits, bind, Except.bind, htrailing, hleading,
    Bool.false_eq_true, if_false, Char.ofNat_toNat, pure, Except.pure]

theorem unicodeEscape_pair
    {c : Char} {leading trailing : List Char} (hplane : 0x10000 ≤ c.toNat)
    (hleading : WritesHex (0xD800 + (c.toNat - 0x10000) / 0x400) leading)
    (htrailing : WritesHex (0xDC00 + (c.toNat - 0x10000) % 0x400) trailing)
    (rest : List Char) :
    unicodeEscape (leading ++ '\\' :: 'u' :: (trailing ++ rest)) = .ok (c, rest) := by
  have hvalid := c.valid
  simp only [UInt32.isValidChar, Nat.isValidChar] at hvalid
  change c.toNat < 0xD800 ∨ 0xDFFF < c.toNat ∧ c.toNat < 0x110000 at hvalid
  have hfirst : isTrailingSurrogate (0xD800 + (c.toNat - 0x10000) / 0x400) = false ∧
      isLeadingSurrogate (0xD800 + (c.toNat - 0x10000) / 0x400) = true := by
    simp only [isTrailingSurrogate, isLeadingSurrogate, Bool.and_eq_false_iff,
      Bool.and_eq_true, decide_eq_false_iff_not, decide_eq_true_eq]
    omega
  have hsecond : isTrailingSurrogate (0xDC00 + (c.toNat - 0x10000) % 0x400) = true := by
    simp only [isTrailingSurrogate, Bool.and_eq_true, decide_eq_true_eq]
    omega
  have hvalue : (0xD800 + (c.toNat - 0x10000) / 0x400 - 0xD800) * 0x400 +
      (0xDC00 + (c.toNat - 0x10000) % 0x400 - 0xDC00) + 0x10000 = c.toNat := by omega
  simp only [unicodeEscape, hexEscape_append hleading, hexEscape_append htrailing,
    surrogateMark, bind, Except.bind, hfirst, hsecond, hvalue, Bool.false_eq_true, if_false,
    if_true, Char.ofNat_toNat, pure, Except.pure]

theorem escape_short {letter c : Char} (hletter : (letter, c) ∈ shortEscapes)
    (rest : List Char) : escape (letter :: rest) = .ok (c, rest) := by
  simp only [shortEscapes, List.mem_cons, Prod.mk.injEq, List.not_mem_nil, or_false] at hletter
  rcases hletter with ⟨rfl, rfl⟩ | ⟨rfl, rfl⟩ | ⟨rfl, rfl⟩ | ⟨rfl, rfl⟩ | ⟨rfl, rfl⟩ |
    ⟨rfl, rfl⟩ | ⟨rfl, rfl⟩ | ⟨rfl, rfl⟩ <;> simp [escape]

theorem escape_unit {text rest : List Char} {c : Char}
    (hread : unicodeEscape text = .ok (c, rest)) : escape ('u' :: text) = .ok (c, rest) := by
  simp [escape, hread]

/-! ## Reading a string -/

/-- A character in front of what is read behind it. -/
def behind (c : Char) (read : Except JsonStop (List Char × List Char)) :
    Except JsonStop (List Char × List Char) :=
  read.map fun found => (c :: found.1, found.2)

theorem stringBody_plain
    {c : Char} (hquote : c ≠ '"') (hbackslash : c ≠ '\\') (hcontrol : 0x20 ≤ c.toNat)
    (fuel : Nat) (rest : List Char) :
    stringBody (fuel + 1) (c :: rest) = behind c (stringBody fuel rest) := by
  simp only [stringBody, hquote, hbackslash, if_false, Nat.not_lt.mpr hcontrol]
  cases stringBody fuel rest <;> rfl

theorem stringBody_escape
    {c : Char} {text rest : List Char} (hread : escape text = .ok (c, rest)) (fuel : Nat) :
    stringBody (fuel + 1) ('\\' :: text) = behind c (stringBody fuel rest) := by
  have hquote : ('\\' : Char) ≠ '"' := by decide
  simp only [stringBody, hquote, hread, if_true, if_false, bind, Except.bind]
  cases stringBody fuel rest <;> rfl

/-- Behind the writing of its first character the reading of a string goes on. -/
theorem stringBody_append
    {c : Char} {piece : List Char} (hc : WritesChar c piece) (fuel : Nat) (rest : List Char) :
    stringBody (fuel + 1) (piece ++ rest) = behind c (stringBody fuel rest) := by
  cases hc with
  | plain hquote hbackslash hcontrol => exact stringBody_plain hquote hbackslash hcontrol fuel rest
  | short hletter => exact stringBody_escape (escape_short hletter rest) fuel
  | unit hdigits => exact stringBody_escape (escape_unit (unicodeEscape_unit hdigits rest)) fuel
  | pair hplane hleading htrailing =>
      have hread := unicodeEscape_pair hplane hleading htrailing rest
      simp only [List.cons_append, List.append_assoc]
      exact stringBody_escape (escape_unit hread) fuel

theorem WritesChar.length_pos {c : Char} {piece : List Char} (hc : WritesChar c piece) :
    0 < piece.length := by
  cases hc <;> simp

theorem WritesChars.length_le {chars text : List Char} (hchars : WritesChars chars text) :
    chars.length ≤ text.length := by
  induction hchars with
  | nil => exact Nat.le_refl _
  | cons hc _ ih =>
      have hpiece := hc.length_pos
      simp only [List.length_cons, List.length_append]
      omega

theorem stringBody_of_writesChars
    {chars text : List Char} (hchars : WritesChars chars text) {fuel : Nat}
    (hfuel : chars.length < fuel) (rest : List Char) :
    stringBody fuel (text ++ '"' :: rest) = .ok (chars, rest) := by
  induction hchars generalizing fuel with
  | nil =>
      cases fuel with
      | zero => exact absurd hfuel (Nat.lt_irrefl 0)
      | succ fuel => simp [stringBody]
  | cons hc _ ih =>
      cases fuel with
      | zero => exact absurd hfuel (Nat.not_lt_zero _)
      | succ fuel =>
          have hmore := ih (Nat.lt_of_succ_lt_succ hfuel)
          rw [List.append_assoc, stringBody_append hc, hmore]
          rfl

theorem string_of_writesChars {s : String} {text : List Char}
    (hchars : WritesChars s.toList text) (rest : List Char) :
    string (text ++ '"' :: rest) = .ok (s, rest) := by
  have hfuel : s.toList.length < (text ++ '"' :: rest).length + 1 := by
    have hlength := hchars.length_le
    simp only [List.length_append]
    omega
  rw [string, stringBody_of_writesChars hchars hfuel]
  simp only [bind, Except.bind, pure, Except.pure, String.ofList_toList]

end CardReboot.JsonReader
