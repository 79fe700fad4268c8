import CardReboot.Proofs.CaseRun

/-!
# What a passed case has seen

A case passes only by way of an accepted reboot and everything that has to be seen
after it.  Each of its waits can also end by a timeout, an unknown question or a
skip, and none of these exits is taken for a recovery, whatever the device answers
and in whatever order its answers change.
-/

namespace CardReboot

instance (verdict : Verdict) : Decidable (verdict = .passed) :=
  match verdict with
  | .passed => isTrue rfl
  | .skipped _ => isFalse nofun
  | .failed _ => isFalse nofun

instance (found : Option Verdict) : Decidable (found = some .passed) :=
  match found with
  | none => isFalse nofun
  | some verdict => decidable_of_iff (verdict = .passed) Option.some_inj.symm

namespace Campaign

/-- The card that the case picked was rebooted, and after that everything was seen
that tells of its return. -/
def RecoveryObserved
    (c : Campaign) (case : RebootCase) (transcript : Transcript bench) : Prop :=
  ∃ (card : String) (pre : Snapshot) (before after : Transcript bench),
    transcript = before ++ ⟨.reboot (c.target card), .ok ()⟩ :: after ∧
      c.Prepared case card pre before ∧
        Transcript.ShowsInOrder (I := bench) (c.recoverySigns card pre case) after

theorem verdict_eq_passed_iff {result : Option (Except Exit Unit)} :
    result.map verdict = some .passed ↔ result = some (.ok ()) := by
  rcases result with _ | (reason | failure) | done <;> simp [verdict]

theorem CaseRun.recoveryObserved
    {c : Campaign} {case : RebootCase} {transcript : Transcript bench}
    (hrun : c.CaseRun case transcript (some (.ok ()))) :
    c.RecoveryObserved case transcript := by
  cases hrun with
  | unprepared hquiet hresult => exact absurd rfl hresult
  | rebooted hquiet hprepared hfollow hlate hshows =>
      exact ⟨_, _, _, _, rfl, hprepared, hshows rfl⟩

/-- No false pass: whatever the device does, a case that passes has observed the
recovery of the card that it rebooted. -/
theorem recoveryObserved_of_passed
    {σ : Type} (c : Campaign) (case : RebootCase) (device : Responder bench σ) (state : σ)
    (start : Instant)
    (hpassed : ((c.runCase case).answeredBy device start state).1.1.map CaseReport.verdict =
      some .passed) :
    c.RecoveryObserved case ((c.runCase case).exchangesWith device start state) := by
  obtain ⟨result, hcase, hverdict⟩ := exists_caseRun_answeredBy c case device state start
  rw [hpassed] at hverdict
  have hresult := verdict_eq_passed_iff.mp hverdict.symm
  rw [hresult] at hcase
  exact hcase.recoveryObserved

/-! ## A device that takes its time -/

/-- What a chassis with two line cards answers, by how much it was asked before: after
the reboot the status is late, then the card, and then the interfaces. -/
def slowAnswer : (question : BenchRequest) → Nat → question.Answer
  | .reboot _, _ => .ok ()
  | .rebootStatus _, asked =>
      if asked < 10 then .ok .ongoing
      else if asked < 12 then .error (.transport "RebootStatus" "connection lost")
      else .ok .finished
  | .componentNames _, _ => .ok ["FPC0", "FPC1"]
  | .componentState _, asked =>
      .ok { removable := if 6 < asked ∧ asked < 16 then none else some true }
  | .interfaceNames, _ => .ok ["et-1/0/0", "et-0/0/0"]
  | .interfaceStatus _, asked => .ok (if 6 < asked ∧ asked < 20 then .down else .up)
  | .ingressPackets _, asked => .ok asked
  | .console _, _ => .ok (.ok "DEV TRAPCODE NAME COUNT RATE\n0 1 ttl expired 7 0")
  | .startTraffic, _ => .ok ()
  | .stopTraffic, _ => .ok ()
  | .pause _, _ => ()

def slowDevice : Responder bench Nat where
  reply question asked := (slowAnswer question asked, asked + 1)

def pinnedCampaign : Campaign where
  configuration := {
    vendor := .juniper
    topology := { ports := ["et-1/0/0"] }
    traffic := { samples := 2, startCommand := some "start" } }
  hasGenerator := true
  patience := 0

theorem slowDevice_recoveryObserved :
    ((pinnedCampaign.runCase .linecard).answeredBy slowDevice ⟨0⟩ 0).1.1.map
        CaseReport.verdict = some .passed ∧
      pinnedCampaign.RecoveryObserved .linecard
        ((pinnedCampaign.runCase .linecard).exchangesWith slowDevice ⟨0⟩ 0) := by
  have hpassed :
      ((pinnedCampaign.runCase .linecard).answeredBy slowDevice ⟨0⟩ 0).1.1.map
        CaseReport.verdict = some .passed := by
    decide +kernel
  exact ⟨hpassed, recoveryObserved_of_passed pinnedCampaign .linecard slowDevice 0 ⟨0⟩ hpassed⟩

end Campaign

end CardReboot
