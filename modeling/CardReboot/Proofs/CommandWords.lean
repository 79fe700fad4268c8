import CardReboot.Proofs.WordReading
import CardReboot.Tool.Command

/-!
# The words of a command for the device

A command is a fixed program with fixed words in fixed places and with words that hold
what comes from outside: the fields of the target, a path, the names of cards, a
console command.  The shell reads it as one simple command of exactly these words.  A
field stands in one word only, so whatever is in it, no other word changes.
-/

namespace CardReboot.Tool

open Shell

/-! ## Words with fields in them -/

/-- What comes from outside in a command. -/
inductive Field
  | address
  | username
  | password
  | consoleHost
  | path
  | consoleCommand
  | subcomponent (index : Nat)
  deriving DecidableEq, Repr

inductive Part
  | fixed (text : String)
  | field (f : Field)
  deriving DecidableEq, Repr

namespace Part

variable (value : Field → String)

/-- How the part is written in a command. -/
def written : Part → List Char
  | fixed text => text.toList
  | field f => quoteText (value f).toList

/-- How the shell reads it. -/
def pieces : Part → Word
  | fixed text => text.toList.map .plain
  | field f => (kept (value f).toList).map .quoted

/-- What it then stands for. -/
def meaning : Part → List Char
  | fixed text => text.toList
  | field f => kept (value f).toList

def field? : Part → Option Field
  | fixed _ => none
  | field f => some f

/-- A fixed part is not empty and has no character with a meaning to the shell. -/
def isSound : Part → Bool
  | fixed text => !text.toList.isEmpty && text.toList.all isOrdinary
  | field _ => true

theorem spells {p : Part} (hsound : p.isSound = true) :
    Spells (p.written value) (p.pieces value) := by
  cases p with
  | fixed text =>
      simp only [isSound, Bool.and_eq_true, Bool.not_eq_true', List.isEmpty_eq_false_iff,
        List.all_eq_true] at hsound
      exact spells_ordinary hsound.1 hsound.2
  | field f => exact spells_quoteText (value f).toList

theorem pieces_eq_map (p : Part) :
    ∃ piece : Char → Piece, (∀ c, (piece c).char? = some c) ∧
      p.pieces value = (p.meaning value).map piece := by
  cases p with
  | fixed text => exact ⟨.plain, fun _ => rfl, rfl⟩
  | field f => exact ⟨.quoted, fun _ => rfl, rfl⟩

theorem mapM_char?_pieces (p : Part) :
    (p.pieces value).mapM Piece.char? = some (p.meaning value) := by
  obtain ⟨piece, hpiece, hpieces⟩ := p.pieces_eq_map value
  rw [hpieces]
  exact mapM_char?_map hpiece (p.meaning value)

end Part

/-- A word of a command, part by part. -/
abbrev WordPattern := List Part

namespace WordPattern

variable (value : Field → String)

def written (w : WordPattern) : List Char := w.flatMap (Part.written value)

def pieces (w : WordPattern) : Word := w.flatMap (Part.pieces value)

def meaning (w : WordPattern) : String := String.ofList (w.flatMap (Part.meaning value))

def fields (w : WordPattern) : List Field := w.filterMap Part.field?

def isSound (w : WordPattern) : Bool := !w.isEmpty && w.all Part.isSound

theorem written_singleton (p : Part) : written value [p] = p.written value := by
  simp [written]

theorem spells {w : WordPattern} (hsound : w.isSound = true) :
    Spells (w.written value) (w.pieces value) := by
  simp only [isSound, Bool.and_eq_true, Bool.not_eq_true', List.isEmpty_eq_false_iff,
    List.all_eq_true] at hsound
  obtain ⟨hne, hparts⟩ := hsound
  induction w with
  | nil => exact absurd rfl hne
  | cons p w ih =>
      rw [List.forall_mem_cons] at hparts
      have hfirst := Part.spells value hparts.1
      by_cases hlast : w = []
      · subst hlast
        simpa [written, pieces] using hfirst
      · have hrest := ih hlast hparts.2
        simpa [written, pieces] using hfirst.append hrest

theorem text?_pieces (w : WordPattern) :
    Word.text? (w.pieces value) = some (w.meaning value) := by
  have hchars : (w.pieces value).mapM Piece.char? =
      some (w.flatMap (Part.meaning value)) := by
    unfold pieces
    induction w with
    | nil => rfl
    | cons p w ih =>
        rw [List.flatMap_cons, List.mapM_append, Part.mapM_char?_pieces, ih]
        rfl
  rw [Word.text?, hchars]
  rfl

theorem meaning_congr
    {w : WordPattern} {value value' : Field → String}
    (hagree : ∀ f ∈ w.fields, value f = value' f) : w.meaning value = w.meaning value' := by
  have hparts : ∀ p ∈ w, p.meaning value = p.meaning value' := by
    intro p hmem
    cases p with
    | fixed text => rfl
    | field f =>
        have hfield : f ∈ w.fields := List.mem_filterMap.mpr ⟨.field f, hmem, rfl⟩
        simp only [Part.meaning, hagree f hfield]
  rw [meaning, meaning, List.flatMap_def, List.flatMap_def, List.map_congr_left hparts]

end WordPattern

/-! ## The commands -/

/-- A call of one of the tools. -/
inductive Invocation
  | reboot (target : RebootTarget)
  | status (request : StatusRequest)
  | get (path : String)
  | console (command : String)
  deriving DecidableEq, Repr

namespace Invocation

variable (t : Target)

def command : Invocation → String
  | reboot target => rebootCommand t target
  | status request => statusCommand t request
  | get path => getCommand t path
  | console command => consoleCommand t command

def tool : Invocation → String
  | reboot _ | status _ => rebootTool
  | get _ => stateTool
  | console _ => consoleTool

def paths : Invocation → List ComponentPath
  | reboot target => target.paths
  | status request => request.paths
  | get _ | console _ => []

def value (i : Invocation) : Field → String
  | .address => t.address
  | .username => t.username
  | .password => t.password
  | .consoleHost => t.consoleHost
  | .path =>
      match i with
      | get path => path
      | _ => ""
  | .consoleCommand =>
      match i with
      | console command => command
      | _ => ""
  | .subcomponent index => (i.paths.map ComponentPath.text)[index]?.getD ""

def connectionWords : List WordPattern :=
  [[.fixed "-a"], [.field .address], [.fixed "-u"], [.field .username],
    [.fixed "-p"], [.field .password]] ++
    if t.insecure then [[.fixed "--insecure"]] else []

def subcomponentWords (count : Nat) : List WordPattern :=
  (List.range count).flatMap fun index =>
    [[.fixed "--subcomponent"], [.field (.subcomponent index)]]

def arguments : Invocation → List WordPattern
  | reboot target =>
      connectionWords t ++
        [[.fixed "system"], [.fixed "reboot"], [.fixed "--method"],
          [.fixed target.method.name]] ++
        subcomponentWords target.paths.length
  | status request =>
      connectionWords t ++
        [[.fixed "--format"], [.fixed "json"], [.fixed "system"], [.fixed "reboot-status"]] ++
        subcomponentWords request.paths.length
  | get _ =>
      connectionWords t ++
        [[.fixed "get"], [.fixed "--path"], [.field .path], [.fixed "--format"],
          [.fixed "json"]]
  | console _ =>
      [[.fixed "-o"], [.fixed "BatchMode=yes"],
        [.field .username, .fixed "@", .field .consoleHost], [.field .consoleCommand]]

/-- The words that the command is expected to have. -/
def pattern (i : Invocation) : List WordPattern := [.fixed i.tool] :: i.arguments t

def words (i : Invocation) : List String := (i.pattern t).map (·.meaning (i.value t))

theorem toList_subcomponentOptions (paths : List ComponentPath) :
    (subcomponentOptions paths).toList =
      (paths.map ComponentPath.text).flatMap fun name =>
        " --subcomponent ".toList ++ quoteText name.toList := by
  have hfold : ∀ start : String,
      (paths.foldl (fun s p => s ++ " --subcomponent " ++ quoteArgument p.text) start).toList =
        start.toList ++ (paths.map ComponentPath.text).flatMap fun name =>
          " --subcomponent ".toList ++ quoteText name.toList := by
    induction paths with
    | nil => simp
    | cons path paths ih =>
        intro start
        rw [List.foldl_cons, ih]
        simp [quoteArgument]
  rw [subcomponentOptions, hfold]
  rfl

theorem flatMap_range_getD {β : Type} (names : List String) (f : String → List β) :
    ((List.range names.length).flatMap fun index => f (names[index]?.getD "")) =
      names.flatMap f := by
  induction names with
  | nil => rfl
  | cons name names ih =>
      rw [List.length_cons, List.range_succ_eq_map, List.flatMap_cons, List.flatMap_map]
      simp [ih]

theorem written_subcomponentWords (i : Invocation) :
    ((subcomponentWords i.paths.length).flatMap fun w => ' ' :: w.written (i.value t)) =
      (subcomponentOptions i.paths).toList := by
  have hnames := flatMap_range_getD (i.paths.map ComponentPath.text) fun name =>
    " --subcomponent ".toList ++ quoteText name.toList
  have hword : ∀ index : Nat,
      ([[.fixed "--subcomponent"], [.field (.subcomponent index)]] :
          List WordPattern).flatMap (fun w => ' ' :: w.written (i.value t)) =
        " --subcomponent ".toList ++
          quoteText ((i.paths.map ComponentPath.text)[index]?.getD "").toList := by
    intro index
    simp [WordPattern.written_singleton, Part.written, value]
  rw [toList_subcomponentOptions, ← hnames, subcomponentWords, List.flatMap_assoc,
    List.length_map]
  simp only [hword]

theorem written_connectionWords (i : Invocation) :
    ((connectionWords t).flatMap fun w => ' ' :: w.written (i.value t)) =
      ' ' :: (connectionOptions t).toList := by
  unfold connectionWords connectionOptions
  by_cases hinsecure : t.insecure = true
  · simp [hinsecure, WordPattern.written_singleton, Part.written, value, quoteArgument]
  · simp [hinsecure, WordPattern.written_singleton, Part.written, value, quoteArgument]

/-- The command is its tool and, each after a blank, its words. -/
theorem toList_command (i : Invocation) :
    (i.command t).toList =
      i.tool.toList ++ (i.arguments t).flatMap fun w => ' ' :: w.written (i.value t) := by
  have hconnection := i.written_connectionWords t
  have hsubcomponents := i.written_subcomponentWords t
  cases i with
  | reboot target =>
      simp only [paths] at hsubcomponents
      simp [command, tool, arguments, rebootCommand, hconnection, hsubcomponents,
        WordPattern.written_singleton, Part.written]
  | status request =>
      simp only [paths] at hsubcomponents
      simp [command, tool, arguments, statusCommand, hconnection, hsubcomponents,
        WordPattern.written_singleton, Part.written]
  | get path =>
      simp [command, tool, arguments, getCommand, hconnection,
        WordPattern.written_singleton, Part.written, quoteArgument, value]
  | console command =>
      simp [Invocation.command, tool, arguments, consoleCommand,
        WordPattern.written, Part.written, quoteArgument, value]

theorem isSound_subcomponentWords (count : Nat) :
    (subcomponentWords count).all (·.isSound) = true := by
  rw [subcomponentWords, List.all_flatMap, List.all_eq_true]
  intro index _
  rfl

theorem isSound_connectionWords : (connectionWords t).all (·.isSound) = true := by
  unfold connectionWords
  by_cases hinsecure : t.insecure = true
  · rw [if_pos hinsecure]
    decide
  · rw [if_neg hinsecure]
    decide

theorem isSound_pattern (i : Invocation) : (i.pattern t).all (·.isSound) = true := by
  have hconnection := isSound_connectionWords t
  cases i with
  | reboot target =>
      have hsubcomponents := isSound_subcomponentWords target.paths.length
      have hmethod : (WordPattern.isSound [.fixed target.method.name]) = true := by
        cases target.method
        decide
      simp only [pattern, tool, arguments, List.all_cons, List.all_append, hconnection,
        hsubcomponents, hmethod]
      decide
  | status request =>
      have hsubcomponents := isSound_subcomponentWords request.paths.length
      simp only [pattern, tool, arguments, List.all_cons, List.all_append, hconnection,
        hsubcomponents]
      decide
  | get path =>
      simp only [pattern, tool, arguments, List.all_cons, List.all_append, hconnection]
      decide
  | console command =>
      simp only [pattern, tool, arguments]
      decide

/-! ## What the shell reads -/

theorem tokens_command (i : Invocation) :
    tokens (i.command t).toList =
      (i.pattern t).map (fun w => .word (w.pieces (i.value t))) ++ [.finish] := by
  have hspells : ∀ w ∈ i.pattern t, Spells (w.written (i.value t)) (w.pieces (i.value t)) := by
    intro w hmem
    exact w.spells (i.value t) (List.all_eq_true.mp (i.isSound_pattern t) w hmem)
  have hread := tokens_of_spells_all hspells
  rw [WordPattern.written_singleton] at hread
  rw [toList_command]
  exact hread

theorem simpleCommand?_command (i : Invocation) :
    simpleCommand? (i.command t).toList = some (i.words t) := by
  rw [simpleCommand?, tokens_command, words]
  induction i.pattern t with
  | nil => rfl
  | cons w rest ih =>
      simp only [List.map_cons, List.cons_append, wordsOnly?, WordPattern.text?_pieces, ih]
      rfl

theorem ofText_command (i : Invocation) :
    Script.ofText (i.command t).toList =
      (.command 1 ((i.pattern t).map (·.pieces (i.value t))) [], none) := by
  have htokens := i.tokens_command t
  have htool : WordPattern.pieces (i.value t) [.fixed i.tool] = i.tool.toList.map .plain := by
    simp [WordPattern.pieces, Part.pieces]
  have hnegates : i.tool.toList.map Piece.plain ≠ [.plain '!'] := by
    cases i <;> simp [tool, rebootTool, stateTool, consoleTool]
  have hfeed : (i.tool.toList.map Piece.plain).count (.quoted '\n') = 0 := by
    simp [List.count_eq_zero]
  rw [pattern, List.map_cons, htool] at htokens ⊢
  apply Script.ofText_eq_command _ hnegates hfeed
  rw [List.map_cons, List.map_map]
  exact htokens

/-! ## One word for each field -/

theorem fields_subcomponentWords (count : Nat) :
    (subcomponentWords count).flatMap WordPattern.fields =
      (List.range count).map .subcomponent := by
  rw [subcomponentWords, List.flatMap_assoc, List.map_eq_flatMap]
  rfl

theorem fields_connectionWords :
    (connectionWords t).flatMap WordPattern.fields = [.address, .username, .password] := by
  unfold connectionWords
  split <;> rfl

/-- The fields in a command, in the order of its words. -/
def fields (i : Invocation) : List Field :=
  match i with
  | reboot _ | status _ =>
      [.address, .username, .password] ++ (List.range i.paths.length).map .subcomponent
  | get _ => [.address, .username, .password, .path]
  | console _ => [.username, .consoleHost, .consoleCommand]

theorem fields_pattern (i : Invocation) :
    (i.pattern t).flatMap WordPattern.fields = i.fields := by
  cases i with
  | reboot target | status request =>
      simp only [pattern, arguments, List.flatMap_cons, List.flatMap_append,
        fields_connectionWords, fields_subcomponentWords]
      rfl
  | get path =>
      simp only [pattern, arguments, List.flatMap_cons, List.flatMap_append,
        fields_connectionWords]
      rfl
  | console command => rfl

theorem nodup_fields (i : Invocation) : i.fields.Nodup := by
  have hsubcomponents : ((List.range i.paths.length).map Field.subcomponent).Nodup :=
    List.Pairwise.map _ (fun _ _ hne hsame => hne (Field.subcomponent.inj hsame))
      List.nodup_range
  cases i with
  | reboot target | status request => simpa [fields] using hsubcomponents
  | get path | console command => simp [fields]

theorem nodup_fields_pattern (i : Invocation) :
    ((i.pattern t).flatMap WordPattern.fields).Nodup := by
  rw [fields_pattern]
  exact i.nodup_fields

/-- Changing one field changes only the word that holds it. -/
theorem words_congr
    {t t' : Target} {i i' : Invocation} (hpattern : i'.pattern t' = i.pattern t) {f : Field}
    (hothers : ∀ g, g ≠ f → i'.value t' g = i.value t g) {place : Nat} {w : WordPattern}
    (hplace : (i.pattern t)[place]? = some w) (hfree : f ∉ w.fields) :
    (i'.words t')[place]? = (i.words t)[place]? := by
  have hsame : w.meaning (i'.value t') = w.meaning (i.value t) := by
    apply WordPattern.meaning_congr
    intro g hmem
    apply hothers
    rintro rfl
    exact hfree hmem
  rw [words, words, List.getElem?_map, List.getElem?_map, hpattern, hplace, Option.map_some,
    Option.map_some, hsame]

end Invocation

end CardReboot.Tool
