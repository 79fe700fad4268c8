import CardReboot.Proofs.DropWindowVerdict

/-!
# What a closed report accounts for

A report has four sources of failure, and any of them can be filled whatever the others
hold.  Closing it loses none of them and adds none: all violations together are one
failure, whose summary mentions each of them, and so is a counter that did not grow.  One
failure stands for itself, and several are kept in their order.
-/

namespace CardReboot

namespace DropReport

/-! ## Violations -/

/-- A violation as a summary mentions it. -/
def mention (v : DropViolation) : String :=
  "#" ++ v.sample.repr ++ " " ++ v.record.name ++ " rate " ++ v.record.rate.repr

/-- The text mentions each violation once, in their order, and nothing else. -/
inductive Summarizes : List DropViolation → String → Prop
  | last (v : DropViolation) : Summarizes [v] (mention v)
  | next (v : DropViolation) {rest : List DropViolation} {text : String}
      (hrest : Summarizes rest text) : Summarizes (v :: rest) (mention v ++ ", " ++ text)

theorem Summarizes.ne_nil
    {violations : List DropViolation} {text : String} (hsum : Summarizes violations text) :
    violations ≠ [] := by
  cases hsum <;> simp

theorem summarizes_iff {violations : List DropViolation} {text : String} :
    Summarizes violations text ↔
      violations ≠ [] ∧ text = ", ".intercalate (violations.map mention) := by
  constructor
  · intro hsum
    refine ⟨hsum.ne_nil, ?_⟩
    induction hsum with
    | last v => simp
    | @next v rest text hrest ih =>
        have hne : rest.map mention ≠ [] := by simpa using hrest.ne_nil
        rw [List.map_cons, String.intercalate_cons_of_ne_nil hne, ih]
  · rintro ⟨hne, rfl⟩
    induction violations with
    | nil => exact absurd rfl hne
    | cons v rest ih =>
        cases rest with
        | nil =>
            have hlast := Summarizes.last v
            simpa using hlast
        | cons next rest =>
            have hnext := Summarizes.next v (ih (List.cons_ne_nil next rest))
            simpa using hnext

/-- The failure for the violations: one with their number and a summary of them, or none
without violations. -/
inductive DropsTold : List DropViolation → List Failure → Prop
  | clean : DropsTold [] []
  | dropped {violations : List DropViolation} {summary : String}
      (hsum : Summarizes violations summary) :
      DropsTold violations [.nonZeroDropRate violations.length summary]

theorem dropsTold_iff {violations : List DropViolation} {found : List Failure} :
    DropsTold violations found ↔ found = (dropFailure? violations).toList := by
  cases violations with
  | nil =>
      constructor
      · intro htold
        cases htold with
        | clean => rfl
        | dropped hsum => exact absurd rfl hsum.ne_nil
      · rintro rfl
        exact .clean
  | cons v rest =>
      have hfailure : dropFailure? (v :: rest) =
          some (.nonZeroDropRate (v :: rest).length
            (", ".intercalate ((v :: rest).map mention))) := rfl
      rw [hfailure, Option.toList_some]
      constructor
      · intro htold
        cases htold with
        | dropped hsum => rw [(summarizes_iff.mp hsum).2]
      · rintro rfl
        exact .dropped (summarizes_iff.mpr ⟨List.cons_ne_nil v rest, rfl⟩)

/-! ## The counter -/

/-- The failure for the counter: one when it was read again and had not grown. -/
inductive FlowTold (r : DropReport) : List Failure → Prop
  | unread (hafter : r.packetsAfter = none) : FlowTold r []
  | grown {after : Nat} (hafter : r.packetsAfter = some after)
      (hgrown : r.packetsBefore < after) : FlowTold r []
  | stalled {after : Nat} (hafter : r.packetsAfter = some after)
      (hstalled : after ≤ r.packetsBefore) :
      FlowTold r [.trafficNotFlowing r.ingress r.packetsBefore after]

theorem flowTold_iff {r : DropReport} {found : List Failure} :
    FlowTold r found ↔ found = r.flowFailure?.toList := by
  cases hafter : r.packetsAfter with
  | none =>
      have hfailure : r.flowFailure? = none := by simp [flowFailure?, hafter]
      rw [hfailure]
      constructor
      · intro htold
        cases htold with
        | unread => rfl
        | grown hsome => simp [hafter] at hsome
        | stalled hsome => simp [hafter] at hsome
      · rintro rfl
        exact .unread hafter
  | some after =>
      have hfailure : r.flowFailure? =
          if r.packetsBefore < after then none
          else some (.trafficNotFlowing r.ingress r.packetsBefore after) := by
        simp [flowFailure?, hafter]
      rw [hfailure]
      constructor
      · intro htold
        cases htold with
        | unread hnone => simp [hafter] at hnone
        | grown hsome hgrown =>
            obtain rfl : after = _ := by simpa [hafter] using hsome
            simp [hgrown]
        | stalled hsome hstalled =>
            obtain rfl : after = _ := by simpa [hafter] using hsome
            simp [Nat.not_lt.mpr hstalled]
      · rintro rfl
        by_cases hgrown : r.packetsBefore < after
        · simpa [hgrown] using FlowTold.grown hafter hgrown
        · simpa [hgrown] using FlowTold.stalled hafter (Nat.not_lt.mp hgrown)

/-! ## All failures -/

/-- The failures of the four sources of a report, source by source. -/
def Accounts (r : DropReport) (found : List Failure) : Prop :=
  ∃ drops flow, DropsTold r.violations drops ∧ FlowTold r flow ∧
    found = drops ++ r.aborted.toList ++ r.errors ++ flow

theorem accounts_iff {r : DropReport} {found : List Failure} :
    r.Accounts found ↔ found = r.failures := by
  constructor
  · rintro ⟨drops, flow, hdrops, hflow, rfl⟩
    rw [dropsTold_iff.mp hdrops, flowTold_iff.mp hflow, failures]
  · rintro rfl
    exact ⟨_, _, dropsTold_iff.mpr rfl, flowTold_iff.mpr rfl, rfl⟩

/-- How a report with these failures is closed. -/
inductive ClosesAs : List Failure → Outcome Unit → Prop
  | passed : ClosesAs [] (.ok ())
  | one (failure : Failure) : ClosesAs [failure] (.error failure)
  | several {failures : List Failure} (hseveral : 2 ≤ failures.length) :
      ClosesAs failures (.error (.multiple failures))

theorem closesAs_result (r : DropReport) : ClosesAs r.failures r.result := by
  unfold result
  generalize r.failures = failures
  rcases failures with _ | ⟨first, _ | ⟨second, rest⟩⟩
  · exact .passed
  · exact .one first
  · exact .several (by simp)

theorem ClosesAs.unique
    {failures : List Failure} {first second : Outcome Unit} (hfirst : ClosesAs failures first)
    (hsecond : ClosesAs failures second) : first = second := by
  cases hfirst with
  | passed =>
      cases hsecond with
      | passed => rfl
      | several hseveral => simp at hseveral
  | one failure =>
      cases hsecond with
      | one => rfl
      | several hseveral => simp at hseveral
  | several hseveral =>
      cases hsecond with
      | passed => simp at hseveral
      | one failure => simp at hseveral
      | several => rfl

end DropReport

/-- Failures that are kept together are none of those they hold. -/
theorem Failure.multiple_ne_of_mem
    {failure : Failure} {failures : List Failure} (hmem : failure ∈ failures) :
    multiple failures ≠ failure := by
  intro hsame
  have hsmaller := List.sizeOf_lt_of_mem hmem
  have hsize := congrArg sizeOf hsame
  simp only [multiple.sizeOf_spec] at hsize
  omega

namespace DropReport

theorem ClosesAs.eq_ok_iff
    {failures : List Failure} {outcome : Outcome Unit} (hcloses : ClosesAs failures outcome) :
    outcome = .ok () ↔ failures = [] := by
  cases hcloses with
  | passed => simp
  | one failure => simp
  | several hseveral =>
      have hne : failures ≠ [] := List.ne_nil_of_length_pos (by omega)
      simp [hne]

/-- A failure of the report is what it ends with only when there is no other. -/
theorem ClosesAs.eq_error_iff
    {failures : List Failure} {outcome : Outcome Unit} (hcloses : ClosesAs failures outcome)
    {failure : Failure} (hmem : failure ∈ failures) :
    outcome = .error failure ↔ failures = [failure] := by
  cases hcloses with
  | passed => simp at hmem
  | one only => simp
  | several hseveral =>
      constructor
      · intro herror
        exact absurd (Except.error.inj herror) (Failure.multiple_ne_of_mem hmem)
      · rintro rfl
        simp at hseveral

theorem ClosesAs.eq_multiple_iff
    {failures : List Failure} {outcome : Outcome Unit} (hcloses : ClosesAs failures outcome) :
    outcome = .error (.multiple failures) ↔ 2 ≤ failures.length := by
  constructor
  · intro herror
    cases hcloses with
    | passed => cases herror
    | one failure =>
        have hsame := Except.error.inj herror
        exact absurd hsame.symm (Failure.multiple_ne_of_mem List.mem_cons_self)
    | several hseveral => exact hseveral
  · intro hseveral
    exact hcloses.unique (.several hseveral)

/-- Whatever a report holds, its failures are those of its four sources, one after the
other, and it ends as their number has it. -/
theorem failures_accounted (r : DropReport) :
    (∀ found, r.Accounts found ↔ found = r.failures) ∧
      (∀ outcome, ClosesAs r.failures outcome ↔ outcome = r.result) ∧
      (r.result = .ok () ↔ r.failures = []) ∧
      (∀ failure ∈ r.failures, r.result = .error failure ↔ r.failures = [failure]) ∧
      (r.result = .error (.multiple r.failures) ↔ 2 ≤ r.failures.length) := by
  have hcloses := closesAs_result r
  refine ⟨fun found => accounts_iff, ?_, hcloses.eq_ok_iff, ?_, hcloses.eq_multiple_iff⟩
  · intro outcome
    constructor
    · intro hother
      exact hother.unique hcloses
    · rintro rfl
      exact hcloses
  · intro failure hmem
    exact hcloses.eq_error_iff hmem

/-- A window in which the counter stood still and nothing else went wrong. -/
def stalled : DropReport := { ingress := "Ethernet0", packetsBefore := 7, packetsAfter := some 7 }

theorem stalled_accounted :
    .trafficNotFlowing "Ethernet0" 7 7 ∈ stalled.failures ∧
      stalled.result = .error (.trafficNotFlowing "Ethernet0" 7 7) := by
  have hmem : .trafficNotFlowing "Ethernet0" 7 7 ∈ stalled.failures := List.mem_cons_self
  have hone : stalled.failures = [.trafficNotFlowing "Ethernet0" 7 7] := rfl
  exact ⟨hmem, ((failures_accounted stalled).2.2.2.1 _ hmem).mpr hone⟩

end DropReport

end CardReboot
