import CardReboot.Text.Octets
import Mathlib.Data.Char
import Mathlib.Data.List.Lex

/-!
# The order of texts and of their octets

UTF-8 keeps the order of characters: of two different characters the smaller one has
the smaller octet where their octets first differ, and neither begins with all of the
other.  So texts stand in the order of their characters exactly when their octets do.
-/

namespace CardReboot.Text

theorem octet_lt_iff {m n : Nat} (hm : m < 256) (hn : n < 256) :
    UInt8.ofNat m < UInt8.ofNat n ↔ m < n :=
  UInt8.ofNat_lt_iff_lt hm hn

theorem octet_eq_iff {m n : Nat} (hm : m < 256) (hn : n < 256) :
    UInt8.ofNat m = UInt8.ofNat n ↔ m = n := by
  rw [← UInt8.toNat_inj, UInt8.toNat_ofNat', UInt8.toNat_ofNat']
  omega

theorem toNat_lt (c : Char) : c.toNat < 0x110000 := by
  have hvalid := c.valid
  simp only [UInt32.isValidChar, Nat.isValidChar] at hvalid
  change c.val.toNat < 0x110000
  omega

/-- Whatever follows, the octets of the smaller character come first. -/
theorem encodeChar_append_lt {c d : Char} (hless : c < d) (rest rest' : Octets) :
    encodeChar c ++ rest < encodeChar d ++ rest' := by
  have hless : c.toNat < d.toNat := hless
  have hc := toNat_lt c
  have hd := toNat_lt d
  unfold encodeChar
  generalize c.toNat = m at *
  generalize d.toNat = n at *
  simp only
  split_ifs <;>
    simp (disch := omega) only [List.cons_append, List.nil_append, List.cons_lt_cons_iff,
      octet_lt_iff, octet_eq_iff] <;>
    omega

theorem nil_lt_encodeChar_append (c : Char) (rest : Octets) : [] < encodeChar c ++ rest := by
  unfold encodeChar
  simp only
  split_ifs <;> exact List.nil_lt_cons _ _

theorem encode_lt_encode {s t : List Char} (hless : s < t) : encode s < encode t := by
  induction s generalizing t with
  | nil =>
      cases t with
      | nil => exact absurd hless (List.lt_irrefl [])
      | cons d t => exact nil_lt_encodeChar_append d (encode t)
  | cons c s ih =>
      cases t with
      | nil => exact absurd hless (List.not_lt_nil (c :: s))
      | cons d t =>
          rcases List.cons_lt_cons_iff.mp hless with hchar | ⟨rfl, hrest⟩
          · exact encodeChar_append_lt hchar (encode s) (encode t)
          · exact List.append_left_lt (ih hrest)

theorem encode_lt_encode_iff {s t : List Char} : encode s < encode t ↔ s < t := by
  refine ⟨?_, encode_lt_encode⟩
  intro hless
  rcases lt_trichotomy s t with hlower | rfl | hhigher
  · exact hlower
  · exact absurd hless (List.lt_irrefl (encode s))
  · exact absurd hless (List.lt_asymm (encode_lt_encode hhigher))

/-- The order of names is the order of their octets. -/
theorem name_lt_iff {name other : String} :
    name < other ↔ encode name.toList < encode other.toList :=
  encode_lt_encode_iff.symm

end CardReboot.Text
