import CardReboot.Port
import CardReboot.Proofs.RowShape

/-!
# The names of ports

The name of a port is its media type in small letters, a hyphen, the numbers of the line
card, of the slot and of the port with slashes between them, and the channel behind a colon
where there is one, with nothing before or after.  A text is read as a port exactly when it
is the name of that port.  So a name can be cut in one way only, and two ports lie on the
same line card exactly when the digits of its number are the same.
-/

namespace CardReboot.Port

open Text

def channelText : Option (List Char) → List Char
  | none => []
  | some channel => ':' :: channel

/-- The name of the port. -/
def text (p : Port) : List Char :=
  p.media ++ '-' :: (p.card ++ '/' :: (p.slot ++ '/' :: (p.port ++ channelText p.channel)))

/-- Small letters and digits stand where they belong. -/
structure IsProper (p : Port) : Prop where
  media : p.media ≠ [] ∧ ∀ c ∈ p.media, 'a' ≤ c ∧ c ≤ 'z'
  card : IsDigits p.card
  slot : IsDigits p.slot
  port : IsDigits p.port
  channel : ∀ digits, p.channel = some digits → IsDigits digits

/-! ## Reading the parts of a name -/

section Parts

variable {found rest : List Char}

theorem isMediaLetter_iff {c : Char} : isMediaLetter c = true ↔ 'a' ≤ c ∧ c ≤ 'z' := by
  simp [isMediaLetter, Char.le_def, UInt32.le_iff_toNat_le]

theorem media?_eq_some_iff {text : List Char} :
    run? isMediaLetter text = some (found, rest) ↔
      text = found ++ rest ∧ (found ≠ [] ∧ ∀ c ∈ found, 'a' ≤ c ∧ c ≤ 'z') ∧
        StopsAt isMediaLetter rest := by
  simp only [← isMediaLetter_iff]
  exact taken_eq_some_iff

theorem number?_eq_some_iff {text : List Char} :
    run? isDigit text = some (found, rest) ↔
      text = found ++ rest ∧ IsDigits found ∧ StopsAt isDigit rest :=
  taken_eq_some_iff

theorem mark?_eq_some_iff {mark : Char} {text : List Char} :
    mark? mark text = some rest ↔ text = mark :: rest := by
  cases text with
  | nil => simp [mark?]
  | cons c text => simp [mark?]

theorem stopsAt_channelText (channel : Option (List Char)) :
    StopsAt isDigit (channelText channel) := by
  cases channel with
  | none => exact stopsAt_nil isDigit
  | some digits => exact stopsAt_cons (by decide) digits

theorem channel?_eq_some_iff {text : List Char} {channel : Option (List Char)} :
    channel? text = some channel ↔
      text = channelText channel ∧ ∀ digits, channel = some digits → IsDigits digits := by
  cases text with
  | nil => cases channel <;> simp [channel?, channelText, eq_comm]
  | cons c text =>
      simp only [channel?, Option.bind_eq_bind, Option.bind_eq_some_iff, Prod.exists,
        mark?_eq_some_iff, number?_eq_some_iff]
      constructor
      · intro hread
        obtain ⟨behind, hmark, digits, rest, ⟨hcut, hdigits, -⟩, hend⟩ := hread
        cases rest with
        | cons d rest => cases hend
        | nil =>
            obtain rfl : some digits = channel := Option.some.inj hend
            rw [List.append_nil] at hcut
            refine ⟨?_, ?_⟩
            · rw [hmark, hcut, channelText]
            · intro other hother
              rwa [← Option.some.inj hother]
      · intro hshape
        obtain ⟨htext, hproper⟩ := hshape
        cases channel with
        | none => cases htext
        | some digits =>
            refine ⟨digits, htext, digits, [], ⟨?_, hproper digits rfl, stopsAt_nil _⟩, rfl⟩
            rw [List.append_nil]

end Parts

/-! ## Reading a name -/

/-- A text is read as a port exactly when it is the name of that port. -/
theorem parse?_eq_some_iff {name : List Char} {p : Port} :
    parse? name = some p ↔ p.IsProper ∧ name = p.text := by
  simp only [parse?, Option.bind_eq_bind, Option.bind_eq_some_iff, Prod.exists,
    media?_eq_some_iff, number?_eq_some_iff, mark?_eq_some_iff, channel?_eq_some_iff]
  constructor
  · intro hread
    obtain ⟨media, _, ⟨rfl, hmedia, -⟩, _, rfl, card, _, ⟨rfl, hcard, -⟩, _, rfl,
      slot, _, ⟨rfl, hslot, -⟩, _, rfl, port, _, ⟨rfl, hport, -⟩, channel,
      ⟨rfl, hchannel⟩, hp⟩ := hread
    obtain rfl := Option.some.inj hp
    exact ⟨⟨hmedia, hcard, hslot, hport, hchannel⟩, rfl⟩
  · intro hname
    obtain ⟨hproper, rfl⟩ := hname
    -- Each part ends at the mark behind it, which is of another class.
    have hhyphen : isMediaLetter '-' = false := by decide
    have hslash : isDigit '/' = false := by decide
    exact ⟨p.media, _, ⟨rfl, hproper.media, stopsAt_cons hhyphen _⟩, _, rfl,
      p.card, _, ⟨rfl, hproper.card, stopsAt_cons hslash _⟩, _, rfl,
      p.slot, _, ⟨rfl, hproper.slot, stopsAt_cons hslash _⟩, _, rfl,
      p.port, _, ⟨rfl, hproper.port, stopsAt_channelText p.channel⟩, p.channel,
      ⟨rfl, hproper.channel⟩, rfl⟩

theorem IsProper.text_injective {p q : Port} (hp : p.IsProper) (hq : q.IsProper)
    (hname : p.text = q.text) : p = q := by
  have hread := parse?_eq_some_iff.mpr ⟨hq, hname⟩
  rw [parse?_eq_some_iff.mpr ⟨hp, rfl⟩] at hread
  exact Option.some.inj hread

theorem linecardOf_eq_ok_iff {name card : String} :
    linecardOf name = .ok card ↔
      ∃ p : Port, (p.IsProper ∧ name.toList = p.text) ∧ card = "FPC" ++ String.ofList p.card := by
  simp only [← parse?_eq_some_iff]
  cases hparse : parse? name.toList with
  | none => simp [linecardOf, hparse]
  | some p => simp [linecardOf, hparse, linecardName, eq_comm]

theorem linecardOf_eq_error_iff {name : String} {failure : Failure} :
    linecardOf name = .error failure ↔
      failure = .invalidPortName name ∧ ∀ p : Port, p.IsProper → name.toList ≠ p.text := by
  have hnone : (∀ p : Port, p.IsProper → name.toList ≠ p.text) ↔
      parse? name.toList = none := by
    simp only [Option.eq_none_iff_forall_ne_some, ne_eq, parse?_eq_some_iff, not_and]
  rw [hnone]
  cases hparse : parse? name.toList with
  | none => simp [linecardOf, hparse, eq_comm]
  | some p => simp [linecardOf, hparse]

example : linecardOf "et-1/0/3\n" = .error (.invalidPortName "et-1/0/3\n") := rfl

theorem IsProper.linecardOf_text {p : Port} (hp : p.IsProper) :
    linecardOf (String.ofList p.text) = .ok ("FPC" ++ String.ofList p.card) :=
  linecardOf_eq_ok_iff.mpr ⟨p, ⟨hp, String.toList_ofList⟩, rfl⟩

/-! ## Ports and line cards -/

/-- The name of a port, cut in the only way there is, tells the line card, and any other
text is refused as it stands.  Ports lie on the same line card exactly when the digits of
its number are the same, whatever else differs. -/
theorem linecard_of_port_name :
    (∀ name card, linecardOf name = .ok card ↔
      ∃ p : Port, (p.IsProper ∧ name.toList = p.text) ∧
        card = "FPC" ++ String.ofList p.card) ∧
    (∀ name failure, linecardOf name = .error failure ↔
      failure = .invalidPortName name ∧ ∀ p : Port, p.IsProper → name.toList ≠ p.text) ∧
    ∀ p q : Port, p.IsProper → q.IsProper →
      (p.text = q.text → p = q) ∧
        (linecardOf (String.ofList p.text) = linecardOf (String.ofList q.text) ↔
          p.card = q.card) := by
  refine ⟨?_, ?_, ?_⟩
  · intro name card
    exact linecardOf_eq_ok_iff
  · intro name failure
    exact linecardOf_eq_error_iff
  · intro p q hp hq
    refine ⟨hp.text_injective hq, ?_⟩
    rw [hp.linecardOf_text, hq.linecardOf_text]
    constructor
    · intro hsame
      have hnames := String.toList_inj.mpr (Except.ok.inj hsame)
      simpa using hnames
    · intro hcards
      rw [hcards]

/-- A port with a channel and one without, on the line card with the number one. -/
def channelledPort : Port := ⟨['e', 't'], ['1'], ['0'], ['3'], some ['2']⟩

def plainPort : Port := ⟨['x', 'e'], ['1'], ['2'], ['0'], none⟩

theorem isProper_channelledPort : channelledPort.IsProper where
  media := ⟨List.cons_ne_nil _ _, by simp [channelledPort]⟩
  card := by decide
  slot := by decide
  port := by decide
  channel := by
    intro digits hdigits
    obtain rfl : ['2'] = digits := Option.some.inj hdigits
    decide

theorem isProper_plainPort : plainPort.IsProper where
  media := ⟨List.cons_ne_nil _ _, by simp [plainPort]⟩
  card := by decide
  slot := by decide
  port := by decide
  channel := by
    intro digits hdigits
    cases hdigits

theorem channelledPort_linecard :
    linecardOf "et-1/0/3:2" = linecardOf "xe-1/2/0" ∧
      linecardOf "et-1/0/3:2" = .ok "FPC1" := by
  obtain ⟨hok, -, hports⟩ := linecard_of_port_name
  constructor
  · exact (hports channelledPort plainPort isProper_channelledPort
      isProper_plainPort).2.mpr rfl
  · exact (hok _ _).mpr ⟨channelledPort, ⟨isProper_channelledPort, rfl⟩, rfl⟩

end CardReboot.Port
