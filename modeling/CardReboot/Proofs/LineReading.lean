import CardReboot.Text.Basic

/-!
# Reading the lines of a printed text

A text is printed line by line, and each line chooses its ending: a line feed, or a
carriage return and a line feed; the last line may go without.  Splitting the text
gives the lines back but for one character: a carriage return that a line itself ends
with is taken for a part of a line feed behind it.
-/

namespace CardReboot.Text

/-- The text consists of the lines, each with an ending; the last may be without. -/
inductive Printed : List (List Char) → List Char → Prop
  | nil : Printed [] []
  | unended (line : List Char) : Printed [line] line
  | feed (line : List Char) {rest : List (List Char)} {text : List Char}
      (hrest : Printed rest text) : Printed (line :: rest) (line ++ '\n' :: text)
  | returnFeed (line : List Char) {rest : List (List Char)} {text : List Char}
      (hrest : Printed rest text) : Printed (line :: rest) (line ++ '\r' :: '\n' :: text)

/-- The line without a carriage return at its end. -/
def withoutReturn : List Char → List Char
  | [] => []
  | ['\r'] => []
  | c :: line => c :: withoutReturn line

theorem withoutReturn_cons_cons (c d : Char) (line : List Char) :
    withoutReturn (c :: d :: line) = c :: withoutReturn (d :: line) := by
  rw [withoutReturn]
  simp

theorem withoutReturn_singleton {c : Char} (hc : c ≠ '\r') : withoutReturn [c] = [c] := by
  rw [withoutReturn, withoutReturn]
  simpa using hc

theorem withoutReturn_concat (line : List Char) : withoutReturn (line ++ ['\r']) = line := by
  induction line with
  | nil => rfl
  | cons c line ih =>
      cases line with
      | nil => exact withoutReturn_cons_cons c '\r' []
      | cons d line =>
          rw [List.cons_append] at ih
          rw [List.cons_append, List.cons_append, withoutReturn_cons_cons, ih]

theorem eq_withoutReturn_or (line : List Char) :
    withoutReturn line = line ∨ line = withoutReturn line ++ ['\r'] := by
  induction line with
  | nil => exact .inl rfl
  | cons c line ih =>
      cases line with
      | nil =>
          by_cases hc : c = '\r'
          · rw [hc]
            exact .inr rfl
          · exact .inl (withoutReturn_singleton hc)
      | cons d line =>
          rw [withoutReturn_cons_cons]
          rcases ih with hsame | hreturn
          · exact .inl (congrArg (c :: ·) hsame)
          · exact .inr (congrArg (c :: ·) hreturn)

theorem withoutReturn_eq_self {line : List Char} (hline : '\r' ∉ line) :
    withoutReturn line = line := by
  rcases eq_withoutReturn_or line with hsame | hreturn
  · exact hsame
  · rw [hreturn] at hline
    simp at hline

/-- Unless a line ends here, the first line of the rest grows by the character. -/
theorem lines_cons
    {c : Char} {rest : List Char} (hfeed : c ≠ '\n') (hreturn : c = '\r' → rest.head? ≠ some '\n') :
    lines (c :: rest) =
      match lines rest with
      | [] => [[c]]
      | line :: more => (c :: line) :: more := by
  have hopen : ∀ more, c = '\r' → rest = '\n' :: more → False := by
    intro more hc hmore
    exact hreturn hc (by rw [hmore, List.head?_cons])
  exact (lines.eq_3 c rest hopen).trans (if_neg hfeed)

theorem lines_append_feed {line : List Char} (hline : '\n' ∉ line) (rest : List Char) :
    lines (line ++ '\n' :: rest) = withoutReturn line :: lines rest := by
  have hempty : lines ('\n' :: rest) = [] :: lines rest := rfl
  induction line with
  | nil => exact hempty
  | cons c line ih =>
      have hc : c ≠ '\n' := fun heq => hline (heq ▸ List.mem_cons_self)
      have hline : '\n' ∉ line := fun hmem => hline (List.mem_cons_of_mem c hmem)
      cases line with
      | nil =>
          by_cases hreturn : c = '\r'
          · rw [hreturn]
            rfl
          · change lines (c :: '\n' :: rest) = _
            rw [lines_cons hc (fun heq => absurd heq hreturn), hempty,
              withoutReturn_singleton hreturn]
      | cons d line =>
          have hd : d ≠ '\n' := fun heq => hline (heq ▸ List.mem_cons_self)
          have hnext : (d :: line ++ '\n' :: rest).head? ≠ some '\n' := by simpa using hd
          rw [List.cons_append, lines_cons hc (fun _ => hnext), ih hline, withoutReturn_cons_cons]

theorem lines_append_returnFeed {line : List Char} (hline : '\n' ∉ line) (rest : List Char) :
    lines (line ++ '\r' :: '\n' :: rest) = line :: lines rest := by
  have hconcat : '\n' ∉ line ++ ['\r'] := by simpa using hline
  have hlines := lines_append_feed hconcat rest
  rw [withoutReturn_concat, List.append_assoc] at hlines
  exact hlines

theorem lines_eq_singleton {line : List Char} (hne : line ≠ []) (hline : '\n' ∉ line) :
    lines line = [line] := by
  induction line with
  | nil => exact absurd rfl hne
  | cons c line ih =>
      have hc : c ≠ '\n' := fun heq => hline (heq ▸ List.mem_cons_self)
      have hline : '\n' ∉ line := fun hmem => hline (List.mem_cons_of_mem c hmem)
      have hnext : line.head? ≠ some '\n' := fun hhead => hline (List.mem_of_head? hhead)
      rw [lines_cons hc (fun _ => hnext)]
      cases line with
      | nil => rfl
      | cons d line => rw [ih (List.cons_ne_nil _ _) hline]

/-- The first printed line is the first line of the text, unless an empty line is all
that was printed. -/
theorem Printed.exists_lines_eq
    {line : List Char} {rest : List (List Char)} {text : List Char}
    (hprinted : Printed (line :: rest) text) (hline : '\n' ∉ line)
    (hsome : line ≠ [] ∨ rest ≠ []) :
    ∃ found more, lines text = found :: lines more ∧
      (found = line ∨ found = withoutReturn line) ∧ Printed rest more := by
  cases hprinted with
  | unended =>
      have hne : line ≠ [] := hsome.resolve_right (fun hrest => hrest rfl)
      exact ⟨line, [], lines_eq_singleton hne hline, .inl rfl, .nil⟩
  | feed _ hrest =>
      exact ⟨withoutReturn line, _, lines_append_feed hline _, .inr rfl, hrest⟩
  | returnFeed _ hrest => exact ⟨line, _, lines_append_returnFeed hline _, .inl rfl, hrest⟩

end CardReboot.Text
