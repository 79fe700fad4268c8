import CardReboot.Shell.Script

/-!
# Words that the shell reads back

A fixed text of ordinary characters stands for itself, and a quoted one for what it
quotes, whatever characters are in it; a line feed is lost, because the backslash
before it takes it along.  Words spelled like this with a blank between them are read
as these words and nothing else.

Inside double quotes a backslash takes the special meaning from the dollar sign, the
backquote, the double quote and itself, disappears together with a line feed, and stands
for itself before any other character.  These rules are written down as a relation
between the text inside the quotes and the argument, and the reader keeps to them.
-/

namespace CardReboot.Shell

namespace Scanned

def pushAll (w : Word) (s : Scanned) : Scanned := w.foldr push s

@[simp] theorem pushAll_nil (s : Scanned) : s.pushAll [] = s := rfl

@[simp] theorem pushAll_cons (p : Piece) (w : Word) (s : Scanned) :
    s.pushAll (p :: w) = (s.pushAll w).push p := rfl

theorem pushAll_append (first second : Word) (s : Scanned) :
    s.pushAll (first ++ second) = (s.pushAll second).pushAll first :=
  List.foldr_append

theorem push_hold (p : Piece) (s : Scanned) : s.hold.push p = s.push p := by
  simp [push, hold]

theorem hold_hold_pushAll (w : Word) (s : Scanned) :
    (s.hold.pushAll w).hold = s.hold.pushAll w := by
  cases w with
  | nil => simp [hold]
  | cons p w => simp [push, hold]

theorem word_hold_pushAll (w : Word) (s : Scanned) :
    (s.hold.pushAll w).word = some (w ++ s.word.getD []) := by
  induction w with
  | nil => simp [hold]
  | cons p w ih => simp [push, ih]

theorem tokens_hold_pushAll (w : Word) (s : Scanned) :
    (s.hold.pushAll w).tokens = s.tokens := by
  induction w with
  | nil => rfl
  | cons p w ih => simp [push, ih]

/-- Where no word goes on, the pieces are a word of their own. -/
theorem all_hold_pushAll {s : Scanned} (hword : s.word = none) (w : Word) :
    (s.hold.pushAll w).all = .word w :: s.tokens := by
  simp [all, word_hold_pushAll, tokens_hold_pushAll, hword]

end Scanned

/-! ## One word -/

/-- The text stands for the pieces, at the start of a word and inside one. -/
def Spells (text : List Char) (w : Word) : Prop :=
  ∀ place rest, place = .betweenWords ∨ place = .bare →
    scan place (text ++ rest) = (scan .bare rest).hold.pushAll w

theorem Spells.append
    {first second : List Char} {w w' : Word} (hfirst : Spells first w)
    (hsecond : Spells second w') : Spells (first ++ second) (w ++ w') := by
  intro place rest hplace
  rw [List.append_assoc, hfirst place _ hplace, hsecond .bare rest (.inr rfl),
    Scanned.hold_hold_pushAll, Scanned.pushAll_append]

/-- The characters with a meaning outside quotes. -/
def specialCharacters : List Char :=
  [' ', '\t', '\n', '\'', '"', '\\', '#', ';', '(', ')', '&', '|', '<', '>', '$', backquote]

def isOrdinary (c : Char) : Bool := !specialCharacters.contains c && !c.isDigit

theorem scan_ordinary
    {place : Place} {c : Char} (hplace : place = .betweenWords ∨ place = .bare)
    (hordinary : isOrdinary c = true) (rest : List Char) :
    scan place (c :: rest) = (scan .bare rest).push (.plain c) := by
  simp only [isOrdinary, specialCharacters, Bool.and_eq_true, Bool.not_eq_true',
    List.contains_eq_mem, decide_eq_false_iff_not, List.mem_cons, List.not_mem_nil, or_false,
    not_or] at hordinary
  rcases hplace with rfl | rfl <;> simp [scan, hordinary]

theorem spells_ordinary
    {text : List Char} (hne : text ≠ []) (hordinary : ∀ c ∈ text, isOrdinary c = true) :
    Spells text (text.map .plain) := by
  induction text with
  | nil => exact absurd rfl hne
  | cons c text ih =>
      intro place rest hplace
      rw [List.forall_mem_cons] at hordinary
      rw [List.cons_append, scan_ordinary hplace hordinary.1]
      by_cases hlast : text = []
      · subst hlast
        simp [Scanned.push_hold]
      · rw [ih hlast hordinary.2 .bare rest (.inr rfl)]
        simp

/-! ## Quoted words -/

/-- The text between two double quotes stands for the argument. -/
inductive Quoting : List Char → List Char → Prop
  | nil : Quoting [] []
  | plain (c : Char) {text argument : List Char} (hc : c ∉ ['"', '\\', '$', backquote])
      (hrest : Quoting text argument) : Quoting (c :: text) (c :: argument)
  | escaped (c : Char) {text argument : List Char} (hc : c ∈ ['$', backquote, '"', '\\'])
      (hrest : Quoting text argument) : Quoting ('\\' :: c :: text) (c :: argument)
  | joined {text argument : List Char} (hrest : Quoting text argument) :
      Quoting ('\\' :: '\n' :: text) argument
  | backslash (c : Char) {text argument : List Char}
      (hc : c ∉ ['$', backquote, '"', '\\', '\n']) (hrest : Quoting text argument) :
      Quoting ('\\' :: c :: text) ('\\' :: c :: argument)

theorem scan_double_plain
    {c : Char} (hc : c ∉ ['"', '\\', '$', backquote]) (text : List Char) :
    scan .double (c :: text) = (scan .double text).push (.quoted c) := by
  simp only [List.mem_cons, List.not_mem_nil, or_false, not_or] at hc
  simp [scan, hc]

theorem scan_doubleEscaped_escapable
    {c : Char} (hc : c ∈ ['$', backquote, '"', '\\']) (text : List Char) :
    scan .doubleEscaped (c :: text) = (scan .double text).push (.quoted c) := by
  simp only [List.mem_cons, List.not_mem_nil, or_false] at hc
  rcases hc with rfl | rfl | rfl | rfl <;> rfl

theorem scan_doubleEscaped_other
    {c : Char} (hc : c ∉ ['$', backquote, '"', '\\', '\n']) (text : List Char) :
    scan .doubleEscaped (c :: text) =
      ((scan .double text).push (.quoted c)).push (.quoted '\\') := by
  simp only [List.mem_cons, List.not_mem_nil, or_false, not_or, backquote] at hc
  simp [scan, isEscapable, hc]

theorem scan_double_backslash (text : List Char) :
    scan .double ('\\' :: text) = scan .doubleEscaped text := by
  simp [scan]

/-- The reader of shell texts keeps to the rules, whatever follows the quotation. -/
theorem Quoting.scan_eq
    {text argument : List Char} (hquoting : Quoting text argument) (rest : List Char) :
    scan .double (text ++ '"' :: rest) =
      (scan .bare rest).hold.pushAll (argument.map .quoted) := by
  induction hquoting with
  | nil => simp [scan]
  | plain c hc _ ih =>
      rw [List.cons_append, scan_double_plain hc, ih]
      rfl
  | escaped c hc _ ih =>
      simp only [List.cons_append]
      rw [scan_double_backslash, scan_doubleEscaped_escapable hc, ih]
      rfl
  | joined _ ih =>
      have hjoined : ∀ more, scan .doubleEscaped ('\n' :: more) = scan .double more := by
        simp [scan]
      simp only [List.cons_append]
      rw [scan_double_backslash, hjoined, ih]
  | backslash c hc _ ih =>
      simp only [List.cons_append]
      rw [scan_double_backslash, scan_doubleEscaped_other hc, ih]
      rfl

/-- What is left of a text when the shell has read it as a quoted word. -/
def kept (text : List Char) : List Char := text.filter (· ≠ '\n')

/-- An escaped text stands for what is left of it without its line feeds. -/
theorem quoting_escapeChar (text : List Char) :
    Quoting (text.flatMap escapeChar) (kept text) := by
  induction text with
  | nil => exact .nil
  | cons c text ih =>
      by_cases hfeed : c = '\n'
      · subst hfeed
        exact .joined ih
      have hkept : kept (c :: text) = c :: kept text := by simp [kept, hfeed]
      rw [List.flatMap_cons, hkept]
      by_cases hescapable : isEscapable c = true
      · have hc : c ∈ ['$', backquote, '"', '\\'] := by
          simpa [isEscapable, backquote, hfeed, or_assoc] using hescapable
        rw [escapeChar, if_pos hescapable]
        exact .escaped c hc ih
      · have hc : c ∉ ['"', '\\', '$', backquote] := by
          simp only [isEscapable, backquote, Bool.or_eq_true, beq_iff_eq, not_or, List.mem_cons,
            List.not_mem_nil, or_false] at hescapable ⊢
          simp [hescapable]
        rw [escapeChar, if_neg hescapable]
        exact .plain c hc ih

theorem spells_quoteText (text : List Char) :
    Spells (quoteText text) ((kept text).map .quoted) := by
  intro place rest hplace
  have hinside := (quoting_escapeChar text).scan_eq rest
  have hopen : scan place (quoteText text ++ rest) =
      (scan .double (text.flatMap escapeChar ++ '"' :: rest)).hold := by
    rcases hplace with rfl | rfl <;> simp [quoteText, scan]
  rw [hopen, hinside, Scanned.hold_hold_pushAll]

/-- Characters in pieces of one kind are read as themselves. -/
theorem mapM_char?_map
    {piece : Char → Piece} (hpiece : ∀ c, (piece c).char? = some c) (text : List Char) :
    (text.map piece).mapM Piece.char? = some text := by
  induction text with
  | nil => rfl
  | cons c text ih => simp [hpiece, ih]

/-! ## All words -/

theorem tokens_of_spells
    {text : List Char} {w : Word} (hspells : Spells text w) :
    tokens text = [.word w, .finish] := by
  have hread := hspells .betweenWords [] (.inl rfl)
  rw [List.append_nil] at hread
  rw [tokens, hread, Scanned.all_hold_pushAll rfl]
  rfl

theorem tokens_of_spells_blank
    {text : List Char} {w : Word} (hspells : Spells text w) (rest : List Char) :
    tokens (text ++ ' ' :: rest) = .word w :: tokens rest := by
  have hblank : scan .bare (' ' :: rest) = (scan .betweenWords rest).apart := by
    simp [scan]
  rw [tokens, hspells .betweenWords _ (.inl rfl), hblank, Scanned.all_hold_pushAll rfl]
  rfl

/-- Words with a blank before each further one are read one by one. -/
theorem tokens_of_spells_all
    {γ : Type} {text : γ → List Char} {pieces : γ → Word} {first : γ} {rest : List γ}
    (hspells : ∀ word ∈ first :: rest, Spells (text word) (pieces word)) :
    tokens (text first ++ rest.flatMap fun word => ' ' :: text word) =
      (first :: rest).map (fun word => .word (pieces word)) ++ [.finish] := by
  induction rest generalizing first with
  | nil =>
      rw [List.flatMap_nil, List.append_nil,
        tokens_of_spells (hspells first List.mem_cons_self)]
      rfl
  | cons next rest ih =>
      rw [List.forall_mem_cons] at hspells
      rw [List.flatMap_cons, List.cons_append, tokens_of_spells_blank hspells.1, ih hspells.2]
      rfl

/-! ## One command -/

namespace Script

theorem exists_simple_place (words : List Word) (line : Nat) :
    ∃ last, simple (Token.place line (words.map .word ++ [.finish])) =
      .ok ((words, []), [⟨last, .finish⟩]) := by
  induction words generalizing line with
  | nil => exact ⟨line, rfl⟩
  | cons word words ih =>
      obtain ⟨last, hrest⟩ := ih (line + (Token.word word).lineEnds)
      refine ⟨last, ?_⟩
      simp only [List.map_cons, List.cons_append, Token.place, simple, hrest]
      rfl

theorem list_of_single
    {tokens : List PlacedToken} {command : Script} {last fuel : Nat}
    (hend : mayEnd false false tokens = false)
    (hnegates : (tokens.head?.map fun t => negates t.token) ≠ some true)
    (hsingle : single (fuel + 1) tokens = .ok (command, [⟨last, .finish⟩])) :
    list false (fuel + 5) false tokens = .ok (command, [⟨last, .finish⟩]) := by
  have hpiped : piped (fuel + 2) tokens = .ok (command, [⟨last, .finish⟩]) := by
    simp only [piped, hsingle]
    rfl
  have hnegated : negated (fuel + 3) tokens = .ok (command, [⟨last, .finish⟩]) := by
    simp only [negated, if_neg hnegates, hpiped]
  have hconnected : connected (fuel + 4) tokens = .ok (command, [⟨last, .finish⟩]) := by
    simp only [connected, hnegated]
    rfl
  rw [list]
  simp only [Bool.false_eq_true, if_false, hend, hconnected]
  rfl

theorem ofText_eq_command
    {text : List Char} {first : Word} {words : List Word}
    (htokens : Shell.tokens text = (first :: words).map .word ++ [.finish])
    (hnegates : first ≠ [.plain '!']) (hfeed : first.count (.quoted '\n') = 0) :
    ofText text = (.command 1 (first :: words) [], none) := by
  obtain ⟨last, hsimple⟩ := exists_simple_place (first :: words) 1
  have hhead : ∃ rest, Token.place 1 ((first :: words).map .word ++ [.finish]) =
      ⟨1, .word first⟩ :: rest := by
    simp [Token.place, Token.lineEnds, hfeed]
  obtain ⟨rest, hplaced⟩ := hhead
  rw [hplaced] at hsimple
  have hnegates' : negates (.word first) = false := by
    simpa [negates] using hnegates
  have hsingle : single (6 * (⟨1, Token.word first⟩ :: rest).length + 1 + 1)
      (⟨1, .word first⟩ :: rest) = .ok (.command 1 (first :: words) [], [⟨last, .finish⟩]) := by
    simp only [single, simpleCommand, hsimple, List.head?_cons, Option.map_some, hnegates',
      Option.some.injEq, Bool.false_eq_true, if_false]
    cases words <;> rfl
  have hlist := list_of_single (by rfl) (by simp [hnegates']) hsingle
  rw [ofText, htokens, hplaced]
  simp only [lines, hlist]

end Script

end CardReboot.Shell
