import CardReboot.Text.CharSet

/-!
# Classes of characters

A set of characters is given by the bounds at which membership changes, so its
members lie in the spans between each odd bound and the next.  Two sets have no
character in common when their spans do not meet, which is decided on the spans
alone and never character by character.  Blanks and digits are such a pair.
-/

namespace CardReboot.Text

namespace CharSet

/-- The spans between the bounds, each with its first code point and the one
behind its last. -/
def spans : List Nat → List (Nat × Nat)
  | first :: behind :: rest => (first, behind) :: spans rest
  | _ => []

theorem exists_span_of_flips
    {bounds : List Nat} {n : Nat} (hpaired : bounds.length % 2 = 0)
    (hflips : flips bounds n = true) :
    ∃ span ∈ spans bounds, span.1 ≤ n ∧ n < span.2 := by
  fun_induction spans bounds with
  | case1 first behind rest ih =>
      by_cases hfirst : n < first
      · rw [flips_of_lt hfirst] at hflips
        cases hflips
      · have hle : first ≤ n := Nat.le_of_not_lt hfirst
        by_cases hbehind : n < behind
        · exact ⟨(first, behind), List.mem_cons_self, hle, hbehind⟩
        · rw [flips_of_le hle, flips_of_le (Nat.le_of_not_lt hbehind), Bool.not_not] at hflips
          have hrest : rest.length % 2 = 0 := by
            simp only [List.length_cons] at hpaired
            omega
          obtain ⟨span, hspan, hmember⟩ := ih hrest hflips
          exact ⟨span, List.mem_cons_of_mem _ hspan, hmember⟩
  | case2 bounds hshort =>
      match bounds, hshort with
      | [], _ => cases hflips
      | [bound], _ => simp at hpaired
      | first :: behind :: rest, hshort => exact absurd rfl (hshort first behind rest)

/-- Two sets with a common character have spans that meet. -/
theorem contains_eq_false_of_apart
    (left right : CharSet)
    (hleft : left.bounds.length % 2 = 0) (hright : right.bounds.length % 2 = 0)
    (hapart : ∀ first ∈ spans left.bounds, ∀ second ∈ spans right.bounds,
      first.2 ≤ second.1 ∨ second.2 ≤ first.1)
    {c : Char} (hc : left.contains c = true) : right.contains c = false := by
  cases hboth : right.contains c with
  | false => rfl
  | true =>
      obtain ⟨first, hfirst, hlow, hhigh⟩ := exists_span_of_flips hleft hc
      obtain ⟨second, hsecond, hlow', hhigh'⟩ := exists_span_of_flips hright hboth
      have hmeet := hapart first hfirst second hsecond
      omega

end CharSet

theorem isBlank_eq_false_of_isDigit {c : Char} (hdigit : isDigit c = true) :
    isBlank c = false :=
  CharSet.contains_eq_false_of_apart digits blanks (by decide +kernel) (by decide +kernel)
    (by decide +kernel) hdigit

theorem isDigit_eq_false_of_isBlank {c : Char} (hblank : isBlank c = true) :
    isDigit c = false := by
  cases hdigit : isDigit c with
  | false => rfl
  | true => rw [← hblank, isBlank_eq_false_of_isDigit hdigit]

theorem isDigit_of_isAsciiDigit {c : Char} (hascii : isAsciiDigit c = true) :
    isDigit c = true := by
  simp only [isAsciiDigit, Bool.and_eq_true, decide_eq_true_eq] at hascii
  have hlow : 48 ≤ c.toNat := hascii.1
  have hhigh : c.toNat < 58 := Nat.lt_succ_of_le hascii.2
  rw [isDigit, CharSet.contains, digits, CharSet.flips_of_le hlow, CharSet.flips_of_lt hhigh]
  rfl

end CardReboot.Text
