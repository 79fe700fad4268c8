import CardReboot.Proofs.WordReading

/-!
# What a quoted argument is read as

An argument is quoted by a backslash before each character that the shell gives a
meaning.  For four of the five characters this brings the character back; the line feed
is lost with its backslash.  So an argument comes back whole exactly when it has no line
feed.
-/

namespace CardReboot.Shell

/-- The word is one quotation, and stands for the argument. -/
def ReadsAs (word argument : String) : Prop :=
  ∃ text, word.toList = '"' :: text ++ ['"'] ∧ Quoting text argument.toList

theorem Quoting.unique
    {text first second : List Char} (hfirst : Quoting text first)
    (hsecond : Quoting text second) : first = second := by
  -- The scanner is a function, and it reads what the rules allow.
  have hscanned := (hfirst.scan_eq []).symm.trans (hsecond.scan_eq [])
  have hwords := congrArg Scanned.word hscanned
  simp only [Scanned.word_hold_pushAll, Option.some.injEq, List.append_cancel_right_eq] at hwords
  exact (List.map_inj_right fun _ _ hsame => Piece.quoted.inj hsame).mp hwords

/-- The argument without its line feeds. -/
def withoutFeeds (argument : String) : String := String.ofList (kept argument.toList)

theorem withoutFeeds_eq_self_iff (argument : String) :
    withoutFeeds argument = argument ↔ '\n' ∉ argument.toList := by
  have htexts : withoutFeeds argument = argument ↔ kept argument.toList = argument.toList := by
    rw [← String.toList_inj, withoutFeeds, String.toList_ofList]
  rw [htexts, kept, List.filter_eq_self]
  simp only [ne_eq, decide_not, Bool.not_eq_true', decide_eq_false_iff_not]
  exact ⟨fun hall hmem => hall _ hmem rfl, fun hfeed c hc hsame => hfeed (hsame ▸ hc)⟩

theorem readsAs_quoteArgument_iff (argument found : String) :
    ReadsAs (quoteArgument argument) found ↔ found = withoutFeeds argument := by
  have hquoting := quoting_escapeChar argument.toList
  have hword : (quoteArgument argument).toList =
      '"' :: argument.toList.flatMap escapeChar ++ ['"'] := by
    rw [quoteArgument, String.toList_ofList, quoteText]
  constructor
  · rintro ⟨text, htext, hfound⟩
    have hinside : argument.toList.flatMap escapeChar = text := by
      have hsame := hword.symm.trans htext
      simpa using hsame
    have hkept := hfound.unique (hinside ▸ hquoting)
    rw [withoutFeeds, ← hkept, String.ofList_toList]
  · rintro rfl
    refine ⟨_, hword, ?_⟩
    rwa [withoutFeeds, String.toList_ofList]

theorem text?_map_quoted (text : List Char) :
    Word.text? (text.map .quoted) = some (String.ofList text) := by
  have hpieces := @mapM_char?_map Piece.quoted (fun _ => rfl) text
  simp [Word.text?, hpieces]

theorem simpleCommand?_quoteArgument (argument : String) :
    simpleCommand? (quoteArgument argument).toList = some [withoutFeeds argument] := by
  have htokens := tokens_of_spells (spells_quoteText argument.toList)
  rw [quoteArgument, String.toList_ofList, simpleCommand?, htokens]
  simp [wordsOnly?, text?_map_quoted, withoutFeeds]

/-- By the rules of double quotes and for the reader of shell texts, a quoted argument
stands for the argument without its line feeds, in front of any further text.  It comes
back unchanged exactly when it has none. -/
theorem quoteArgument_reading (argument : String) :
    (∀ found, ReadsAs (quoteArgument argument) found ↔ found = withoutFeeds argument) ∧
      simpleCommand? (quoteArgument argument).toList = some [withoutFeeds argument] ∧
      (∀ rest, tokens ((quoteArgument argument).toList ++ ' ' :: rest) =
        .word ((withoutFeeds argument).toList.map .quoted) :: tokens rest) ∧
      (ReadsAs (quoteArgument argument) argument ↔ '\n' ∉ argument.toList) := by
  refine ⟨readsAs_quoteArgument_iff argument, simpleCommand?_quoteArgument argument, ?_, ?_⟩
  · intro rest
    rw [quoteArgument, withoutFeeds, String.toList_ofList, String.toList_ofList]
    exact tokens_of_spells_blank (spells_quoteText argument.toList) rest
  · rw [readsAs_quoteArgument_iff, eq_comm]
    exact withoutFeeds_eq_self_iff argument

/-- Two lines are read as one. -/
theorem feed_lost_from_quotation :
    ReadsAs (quoteArgument "a\nb") "ab" ∧
      simpleCommand? (quoteArgument "a\nb").toList = some ["ab"] ∧
      ¬ ∀ argument : String, Char.ofNat 0 ∉ argument.toList →
        ReadsAs (quoteArgument argument) argument := by
  have hread : ReadsAs (quoteArgument "a\nb") "ab" :=
    (readsAs_quoteArgument_iff _ _).mpr (by decide)
  refine ⟨hread, by decide +kernel, ?_⟩
  intro hall
  have hsame := (readsAs_quoteArgument_iff _ _).mp (hall "a\nb" (by decide))
  exact absurd hsame (by decide)

end CardReboot.Shell
