import CardReboot.StatusPoll
import CardReboot.Tool.Status
import Mathlib

/-!
# What an answer to a status query reports

Every text that a status query can be answered with falls on one of three sides: it
reports that the reboot goes on, it reports that the reboot is over, or it is refused
and the poll asks again.  Without an envelope only a boolean flag reports anything.  In
an envelope the flag `true` reports that the reboot goes on, and all else that it is
over, a flag of another type included.
-/

namespace CardReboot.Tool

/-- The value itself or the first of several; an empty list has none. -/
def firstAnswer? : Json → Option Json
  | .array items => items.head?
  | value => some value

/-- The object in an answer's envelope. -/
def envelope? (answer : Json) : Option Json :=
  (answer.member? "response").filter Json.isObject

/-- Whether the answer reports a reboot that goes on. -/
inductive Reports (answer : Json) (active : Bool) : Prop
  | enveloped (response : Json) (hresponse : envelope? answer = some response)
      (hactive : active = true ↔ response.member? "active" = some (.bool true))
  | bare (hbare : envelope? answer = none)
      (hactive : answer.member? "active" = some (.bool active))

/-- The first answer in the output reports a reboot that goes on, or one that is over. -/
def OutputReports (output : String) (active : Bool) : Prop :=
  ∃ value answer, Json.parse (Text.trim output.toList) = .ok value ∧
    firstAnswer? value = some answer ∧ Reports answer active

theorem activeFlag?_eq_some_iff {report : Json} {active : Bool} :
    activeFlag? report = some active ↔ report.member? "active" = some (.bool active) := by
  rw [activeFlag?, Option.bind_eq_some_iff]
  constructor
  · rintro ⟨flag, hflag, hbool⟩
    cases flag with
    | bool b =>
        cases hbool
        exact hflag
    | _ => cases hbool
  · intro hflag
    exact ⟨.bool active, hflag, rfl⟩

/-- A flag that is no boolean counts as false. -/
theorem getD_activeFlag?_eq_true_iff {report : Json} :
    (activeFlag? report).getD false = true ↔ report.member? "active" = some (.bool true) := by
  rw [← activeFlag?_eq_some_iff]
  cases activeFlag? report with
  | none => simp
  | some active => simp

theorem reports_iff_of_envelope {answer response : Json} {active : Bool}
    (hresponse : envelope? answer = some response) :
    Reports answer active ↔ (activeFlag? response).getD false = active := by
  have hflag := @getD_activeFlag?_eq_true_iff response
  constructor
  · intro hreports
    cases hreports with
    | enveloped found hfound hactive =>
        rw [hresponse] at hfound
        cases hfound
        exact Bool.eq_iff_iff.mpr (hflag.trans hactive.symm)
    | bare hbare _ =>
        rw [hresponse] at hbare
        cases hbare
  · intro hactive
    rw [hactive] at hflag
    exact .enveloped response hresponse hflag

theorem reports_iff_of_bare {answer : Json} {active : Bool} (hbare : envelope? answer = none) :
    Reports answer active ↔ activeFlag? answer = some active := by
  rw [activeFlag?_eq_some_iff]
  constructor
  · intro hreports
    cases hreports with
    | enveloped response hresponse _ =>
        rw [hbare] at hresponse
        cases hresponse
    | bare _ hactive => exact hactive
  · intro hactive
    exact .bare hbare hactive

/-! ## One answer -/

/-- The object in an envelope is always read, with the flag that it reports. -/
theorem statusOfAnswer_of_envelope {answer response : Json}
    (hresponse : envelope? answer = some response) :
    statusOfAnswer answer = .ok (statusOf ((activeFlag? response).getD false) response) := by
  have hsome : (answer.member? "response").filter Json.isObject = some response := hresponse
  rw [statusOfAnswer, hsome]

theorem statusOfAnswer_of_bare {answer : Json} (hbare : envelope? answer = none) :
    statusOfAnswer answer =
      match activeFlag? answer with
      | some active => .ok (statusOf active answer)
      | none => .error (unreadableStatus "no active flag in response") := by
  have hnone : (answer.member? "response").filter Json.isObject = none := hbare
  cases hactive : activeFlag? answer with
  | none => rw [statusOfAnswer, hnone, hactive]
  | some active => rw [statusOfAnswer, hnone, hactive]

/-- An answer is read as what it reports, and refused when it reports nothing. -/
theorem statusOfAnswer_cases (answer : Json) :
    (∃ status, statusOfAnswer answer = .ok status ∧
      ∀ active, Reports answer active ↔ status.active = active) ∨
    ((∃ reason, statusOfAnswer answer = .error (unreadableStatus reason)) ∧
      ∀ active, ¬ Reports answer active) := by
  cases hresponse : envelope? answer with
  | some response =>
      left
      exact ⟨_, statusOfAnswer_of_envelope hresponse, fun _ => reports_iff_of_envelope hresponse⟩
  | none =>
      have hread := statusOfAnswer_of_bare hresponse
      cases hactive : activeFlag? answer with
      | some found =>
          left
          rw [hactive] at hread
          refine ⟨_, hread, ?_⟩
          intro active
          rw [reports_iff_of_bare hresponse, hactive, Option.some.injEq]
          rfl
      | none =>
          right
          rw [hactive] at hread
          refine ⟨⟨_, hread⟩, ?_⟩
          intro active hreports
          rw [reports_iff_of_bare hresponse, hactive] at hreports
          cases hreports

/-! ## The whole output -/

theorem statusOfJson_eq (value : Json) :
    statusOfJson value =
      match firstAnswer? value with
      | some answer => statusOfAnswer answer
      | none => .error (unreadableStatus "empty response") := by
  cases value with
  | array items => cases items <;> rfl
  | _ => rfl

theorem outputReports_iff
    {output : String} {value answer : Json} {active : Bool}
    (hvalue : Json.parse (Text.trim output.toList) = .ok value)
    (hanswer : firstAnswer? value = some answer) :
    OutputReports output active ↔ Reports answer active := by
  constructor
  · rintro ⟨found, first, hfound, hfirst, hreports⟩
    rw [hvalue] at hfound
    cases hfound
    rw [hanswer] at hfirst
    cases hfirst
    exact hreports
  · intro hreports
    exact ⟨value, answer, hvalue, hanswer, hreports⟩

/-- An output is read as what it reports, and refused when it reports nothing. -/
theorem decodeStatus_cases (output : String) :
    (∃ status, decodeStatus output = .ok status ∧
      ∀ active, OutputReports output active ↔ status.active = active) ∨
    ((∃ reason, decodeStatus output = .error (unreadableStatus reason)) ∧
      ∀ active, ¬ OutputReports output active) := by
  cases hvalue : Json.parse (Text.trim output.toList) with
  | error reason =>
      refine .inr ⟨⟨reason, by rw [decodeStatus, hvalue]⟩, ?_⟩
      rintro active ⟨value, answer, hfound, -⟩
      rw [hvalue] at hfound
      cases hfound
  | ok value =>
      have hdecode : decodeStatus output = statusOfJson value := by rw [decodeStatus, hvalue]
      rw [hdecode, statusOfJson_eq]
      cases hanswer : firstAnswer? value with
      | none =>
          refine .inr ⟨⟨_, rfl⟩, ?_⟩
          rintro active ⟨found, answer, hfound, hfirst, -⟩
          rw [hvalue] at hfound
          cases hfound
          rw [hanswer] at hfirst
          cases hfirst
      | some answer =>
          simp only [outputReports_iff hvalue hanswer]
          exact statusOfAnswer_cases answer

/-- A status query is answered exactly as its output reports.  All that is refused is
refused as unreadable, and a poll that is under way then asks again; it is completed by
nothing but an output that reports the reboot as over. -/
theorem decodeStatus_reports (output : String) :
    (∀ active, (∃ status, decodeStatus output = .ok status ∧ status.active = active) ↔
      OutputReports output active) ∧
    ((∃ reason, decodeStatus output = .error (.decode statusLabel reason)) ↔
      ∀ active, ¬ OutputReports output active) ∧
    (PollState.polling.next (decodeStatus output) = .completed ↔ OutputReports output false) ∧
    (PollState.polling.next (decodeStatus output) = .polling ↔ ¬ OutputReports output false) := by
  rcases decodeStatus_cases output with ⟨status, hdecode, hreports⟩ | ⟨⟨reason, hdecode⟩, hnone⟩
  · have hsome : ¬ ∀ active, ¬ OutputReports output active :=
      fun hno => hno status.active ((hreports _).mpr rfl)
    refine ⟨?_, ?_, ?_, ?_⟩
    · intro active
      rw [hdecode, hreports]
      simp
    · constructor
      · rintro ⟨reason, herror⟩
        rw [hdecode] at herror
        cases herror
      · intro hno
        exact absurd hno hsome
    · rw [hdecode, hreports]
      cases hactive : status.active <;> simp [PollState.next, hactive]
    · rw [hdecode, hreports]
      cases hactive : status.active <;> simp [PollState.next, hactive]
  · refine ⟨?_, ?_, ?_, ?_⟩
    · intro active
      simp [hdecode, hnone active]
    · constructor
      · intro _
        exact hnone
      · intro _
        exact ⟨reason, hdecode⟩
    · simp [hdecode, hnone false, PollState.next, unreadableStatus, DeviceError.isUnimplemented]
    · simp [hdecode, hnone false, PollState.next, unreadableStatus, DeviceError.isUnimplemented]

def textFlag : Json := .object [("active", .string "maybe")]

/-- A flag that is a text is refused when it stands alone, and in an envelope it reports
that the reboot is over, which no explicit flag says. -/
theorem text_flag_in_envelope :
    decodeStatus "\x7b\"active\":\"maybe\"\x7d" =
        .error (.decode "reboot-status" "no active flag in response") ∧
      PollState.polling.next
          (decodeStatus "\x7b\"response\":\x7b\"active\":\"maybe\"\x7d\x7d") = .completed ∧
      ¬ ∀ output value answer response status,
        Json.parse (Text.trim output.toList) = .ok value → firstAnswer? value = some answer →
          envelope? answer = some response → decodeStatus output = .ok status →
            (status.active = false ↔
              response.member? "active" = some (.bool false) ∨
                response.member? "active" = none) := by
  have hbare : decodeStatus "\x7b\"active\":\"maybe\"\x7d" =
      .error (.decode "reboot-status" "no active flag in response") := by cbv
  have hparse : Json.parse
      (Text.trim "\x7b\"response\":\x7b\"active\":\"maybe\"\x7d\x7d".toList) =
        .ok (.object [("response", textFlag)]) := by cbv
  have hdecode : decodeStatus "\x7b\"response\":\x7b\"active\":\"maybe\"\x7d\x7d" =
      .ok { active := false } := by
    rw [decodeStatus, hparse]
    rfl
  refine ⟨hbare, ?_, ?_⟩
  · rw [hdecode]
    rfl
  · intro hexplicit
    have hflag := (hexplicit _ _ _ textFlag _ hparse rfl rfl hdecode).mp rfl
    rcases hflag with hfalse | habsent
    · cases hfalse
    · cases habsent

end CardReboot.Tool
