/-!
# Names in order

Lists of names without repetition, in the order of the names.
-/

namespace CardReboot

/-- Puts a name at its place among names in order, unless it is there. -/
def insertName (name : String) : List String → List String
  | [] => [name]
  | first :: rest =>
      if name = first then first :: rest
      else if name < first then name :: first :: rest
      else first :: insertName name rest

/-- The names in order, each once. -/
def distinctNames (names : List String) : List String :=
  names.foldl (fun sorted name => insertName name sorted) []

theorem mem_insertName {name other : String} {names : List String} :
    other ∈ insertName name names ↔ other = name ∨ other ∈ names := by
  induction names with
  | nil => simp [insertName]
  | cons first rest ih =>
      by_cases hequal : name = first
      · subst hequal
        simp [insertName]
      · by_cases hless : name < first
        · simp [insertName, hequal, hless]
        · simp [insertName, hequal, hless, ih, or_left_comm]

/-- Inserting keeps names in order. -/
theorem pairwise_insertName {name : String} {names : List String}
    (h : names.Pairwise (· < ·)) : (insertName name names).Pairwise (· < ·) := by
  induction names with
  | nil => simp [insertName]
  | cons first rest ih =>
      obtain ⟨hfirst, hrest⟩ := List.pairwise_cons.mp h
      by_cases hequal : name = first
      · simpa [insertName, hequal] using h
      · by_cases hless : name < first
        · have hall : ∀ other ∈ first :: rest, name < other := by
            intro other hother
            rcases List.mem_cons.mp hother with rfl | hother
            · exact hless
            · exact String.lt_trans hless (hfirst other hother)
          simp only [insertName, hequal, hless, if_true, if_false]
          exact List.pairwise_cons.mpr ⟨hall, h⟩
        · have hgreater : first < name :=
            Std.lt_of_le_of_ne (String.not_lt.mp hless) fun e => hequal e.symm
          have hall : ∀ other ∈ insertName name rest, first < other := by
            intro other hother
            rcases mem_insertName.mp hother with rfl | hother
            · exact hgreater
            · exact hfirst other hother
          simp only [insertName, hequal, hless, if_false]
          exact List.pairwise_cons.mpr ⟨hall, ih hrest⟩

theorem mem_foldl_insertName {other : String} {names sorted : List String} :
    other ∈ names.foldl (fun sorted name => insertName name sorted) sorted ↔
      other ∈ names ∨ other ∈ sorted := by
  induction names generalizing sorted with
  | nil => simp
  | cons name rest ih => simp [ih, mem_insertName, or_left_comm, or_assoc]

theorem pairwise_foldl_insertName {names sorted : List String}
    (h : sorted.Pairwise (· < ·)) :
    (names.foldl (fun sorted name => insertName name sorted) sorted).Pairwise (· < ·) := by
  induction names generalizing sorted with
  | nil => exact h
  | cons name rest ih => exact ih (pairwise_insertName h)

@[simp] theorem mem_distinctNames {other : String} {names : List String} :
    other ∈ distinctNames names ↔ other ∈ names := by
  simp [distinctNames, mem_foldl_insertName]

/-- Distinct names are strictly in order. -/
theorem pairwise_distinctNames (names : List String) :
    (distinctNames names).Pairwise (· < ·) :=
  pairwise_foldl_insertName .nil

end CardReboot
