/-!
# Scripts of answers

A script lists the values of successive reads.  The last one stays for ever, and
an empty script has no value at all.
-/

namespace CardReboot

structure AnswerScript (α : Type) where
  values : List α
  deriving DecidableEq, Repr

namespace AnswerScript

variable {α : Type}

def constant (value : α) : AnswerScript α := ⟨[value]⟩

/-- The value of the next read, and the script after it. -/
def read : AnswerScript α → Option α × AnswerScript α
  | ⟨[]⟩ => (none, ⟨[]⟩)
  | ⟨[last]⟩ => (some last, ⟨[last]⟩)
  | ⟨value :: next :: rest⟩ => (some value, ⟨next :: rest⟩)

/-- The script after so many reads. -/
def after (s : AnswerScript α) : Nat → AnswerScript α
  | 0 => s
  | reads + 1 => s.read.2.after reads

/-- A read of a script gives the value at its place, or the last one. -/
theorem read_after (s : AnswerScript α) (reads : Nat) :
    (s.after reads).read.1 = s.values[min reads (s.values.length - 1)]? := by
  induction reads generalizing s with
  | zero =>
      obtain ⟨values⟩ := s
      rcases values with _ | ⟨value, _ | ⟨next, rest⟩⟩ <;> simp [after, read]
  | succ reads ih =>
      obtain ⟨values⟩ := s
      rcases values with _ | ⟨value, _ | ⟨next, rest⟩⟩
      · exact (ih ⟨[]⟩).trans (by simp)
      · exact (ih ⟨[value]⟩).trans (by simp)
      · have hplace : min (reads + 1) (rest.length + 1) = min reads rest.length + 1 := by omega
        exact (ih ⟨next :: rest⟩).trans (by simp [hplace])

/-- The value of the first read. -/
def first? (s : AnswerScript α) : Option α := s.values.head?

end AnswerScript

/-- Scripts by name, in the order of the names, each name once. -/
abbrev ScriptTable (α : Type) := List (String × AnswerScript α)

namespace ScriptTable

variable {α : Type}

/-- Puts a script at its place, over one of the same name. -/
def insert (name : String) (script : AnswerScript α) : ScriptTable α → ScriptTable α
  | [] => [(name, script)]
  | (n, s) :: rest =>
      if name = n then (name, script) :: rest
      else if name < n then (name, script) :: (n, s) :: rest
      else (n, s) :: insert name script rest

def names (table : ScriptTable α) : List String := table.map Prod.fst

/-- The value of the next read of the script with this name, if there is one. -/
def read (name : String) : ScriptTable α → Option α × ScriptTable α
  | [] => (none, [])
  | (n, s) :: rest =>
      if n = name then (s.read.1, (n, s.read.2) :: rest)
      else ((read name rest).1, (n, s) :: (read name rest).2)

variable {name other : String} {table : ScriptTable α}

theorem names_read : names (read name table).2 = names table := by
  induction table with
  | nil => rfl
  | cons entry rest ih =>
      rw [read]
      split
      · rfl
      · exact congrArg (entry.1 :: ·) ih

/-- A look-up stops at the first script of the name. -/
theorem lookup_cons (script : AnswerScript α) :
    List.lookup other ((name, script) :: table) =
      if other = name then some script else table.lookup other := by
  by_cases hother : other = name
  · simp [hother]
  · simp [List.lookup_cons, hother, beq_false_of_ne hother]

theorem read_eq_lookup : (read name table).1 = (table.lookup name).bind fun s => s.read.1 := by
  induction table with
  | nil => rfl
  | cons entry rest ih =>
      obtain ⟨first, script⟩ := entry
      rw [read, lookup_cons]
      by_cases hfirst : first = name
      · rw [if_pos hfirst, if_pos hfirst.symm]
        rfl
      · rw [if_neg hfirst, if_neg (Ne.symm hfirst)]
        exact ih

/-- A read moves the script of its own name on, and no other. -/
theorem lookup_read :
    (read name table).2.lookup other =
      if other = name then (table.lookup name).map fun s => s.read.2
      else table.lookup other := by
  induction table with
  | nil => simp [read]
  | cons entry rest ih =>
      obtain ⟨first, script⟩ := entry
      rw [read, lookup_cons, lookup_cons]
      by_cases hfirst : first = name
      · subst hfirst
        rw [if_pos rfl, if_pos rfl, lookup_cons]
        by_cases hother : other = first
        · rw [if_pos hother, if_pos hother]
          rfl
        · rw [if_neg hother, if_neg hother, if_neg hother]
      · rw [if_neg hfirst, if_neg (Ne.symm hfirst), lookup_cons, ih]
        by_cases hother : other = first
        · rw [if_pos hother, if_pos hother, if_neg (hother ▸ hfirst)]
        · rw [if_neg hother, if_neg hother]

end ScriptTable

end CardReboot
