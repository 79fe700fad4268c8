import CardReboot.Proofs.CaseRun
import Mathlib.Data.List.Basic

/-!
# Reboot safety

The one reboot request of a case stands between the preparation and the recovery.
Everything before it is the reading of the inventory that picks the card, followed
by the snapshot where there is one, and every question about a reboot comes after
it.  A case that ends for a reason that was known before has requested no reboot.
-/

namespace CardReboot

def Transcript.reboots (transcript : Transcript bench) : List RebootTarget :=
  transcript.filterMap fun
    | ⟨.reboot target, _⟩ => some target
    | _ => none

/-- The verdict on a case that ended before a reboot could be requested. -/
def Verdict.IsEarly : Verdict → Prop
  | .passed => False
  | .skipped reason => reason ≠ "traffic-drop check needs a traffic generator"
  | .failed failure => failure.IsPreflight

namespace Transcript

variable {asks : BenchRequest → Prop}

theorem reboots_append (before after : Transcript bench) :
    reboots (before ++ after) = reboots before ++ reboots after :=
  List.filterMap_append

theorem reboots_cons_reboot
    (target : RebootTarget) (answer : Answered Unit) (rest : Transcript bench) :
    reboots (⟨.reboot target, answer⟩ :: rest) = target :: reboots rest := rfl

theorem reboots_eq_nil
    {transcript : Transcript bench} (hasks : AsksOnly (I := bench) asks transcript)
    (hnone : ∀ target, ¬ asks (.reboot target)) : reboots transcript = [] := by
  unfold reboots
  apply List.filterMap_eq_nil_iff.mpr
  rintro ⟨question, answer⟩ hmem
  cases question with
  | reboot target => exact absurd (hasks _ hmem) (hnone target)
  | _ => rfl

/-- A request that only one place of a transcript can hold is at that place. -/
theorem eq_of_append_cons_eq
    {before after first rest : Transcript bench} {exchange found : Exchange bench}
    (hbefore : AsksOnly (I := bench) asks before) (hafter : AsksOnly (I := bench) asks after)
    (hfound : ¬ asks found.question)
    (hsplit : before ++ exchange :: after = first ++ found :: rest) :
    before = first ∧ exchange = found ∧ after = rest := by
  have hnotBefore : found ∉ before := fun hmem => hfound (hbefore found hmem)
  have hnotAfter : found ∉ after := fun hmem => hfound (hafter found hmem)
  exact (List.append_cons_inj_of_notMem hnotBefore hnotAfter).mp hsplit

/-- A request that cannot be among the first ones comes behind the one after them. -/
theorem mem_of_append_cons_eq
    {before after first rest : Transcript bench} {exchange found : Exchange bench}
    (hbefore : AsksOnly (I := bench) asks before) (hfound : ¬ asks found.question)
    (hne : exchange ≠ found)
    (hsplit : before ++ exchange :: after = first ++ found :: rest) :
    exchange ∈ first ∧ found ∈ after := by
  rcases List.append_eq_append_iff.mp hsplit with ⟨between, rfl, htail⟩ | ⟨between, rfl, htail⟩
  · cases between with
    | nil =>
        cases htail
        exact absurd rfl hne
    | cons head tail =>
        cases htail
        exact ⟨List.mem_append_right _ List.mem_cons_self,
          List.mem_append_right _ List.mem_cons_self⟩
  · cases between with
    | nil =>
        cases htail
        exact absurd rfl hne
    | cons head tail =>
        cases htail
        have hmem : found ∈ first ++ found :: tail :=
          List.mem_append_right _ List.mem_cons_self
        exact absurd (hbefore found hmem) hfound

end Transcript

namespace Campaign

/-- One reboot at most, a cold one of the card that the case picked from what it had
read before; questions about this reboot only, and not before it was accepted; and no
reboot in a case that ends early. -/
structure RebootSafe
    (c : Campaign) (case : RebootCase) (verdict : Option Verdict)
    (transcript : Transcript bench) : Prop where
  once : (Transcript.reboots transcript).length ≤ 1
  picked : ∀ before target answer after,
    transcript = before ++ ⟨.reboot target, answer⟩ :: after →
      ∃ card pre, c.Prepared case card pre before ∧ target.method.name = "COLD" ∧
        target.paths =
          [ComponentPath.ofComponent card c.configuration.deviations.pathNameOnly]
  asked : ∀ before request answer after,
    transcript = before ++ ⟨.rebootStatus request, answer⟩ :: after →
      ∃ target, (⟨.reboot target, .ok ()⟩ : Exchange bench) ∈ before ∧
        request.paths =
          if c.configuration.deviations.statusWithoutPaths then [] else target.paths
  early : ∀ found ∈ verdict, found.IsEarly → Transcript.reboots transcript = []

variable {c : Campaign} {case : RebootCase}

theorem paths_statusRequest (target : RebootTarget) :
    (c.statusRequest target).paths =
      if c.configuration.deviations.statusWithoutPaths then [] else target.paths := by
  unfold statusRequest RebootTarget.statusRequest
  cases c.configuration.deviations.statusWithoutPaths <;> rfl

theorem not_isPreflight_rebootFailure (card : String) (e : DeviceError) :
    ¬ (rebootFailure card e).IsPreflight := by
  unfold rebootFailure
  split <;> exact id

theorem not_isEarly_of_isLate
    {result : Option (Except Exit Unit)} {found : Verdict}
    (hlate : ∀ exit, result = some (.error exit) → exit.IsLate)
    (hfound : result.map verdict = some found) : ¬ found.IsEarly := by
  rcases result with _ | (reason | failure) | done
  · cases hfound
  · cases hfound
    intro hearly
    exact hearly (hlate _ rfl)
  · cases hfound
    exact hlate _ rfl
  · cases hfound
    exact id

theorem rebootSafe_of_request
    {before after : Transcript bench} {card : String} {pre : Snapshot}
    {answer : Answered Unit} {verdict : Option Verdict}
    (hquiet : Transcript.AsksOnly (I := bench) BenchRequest.IsQuiet before)
    (hprepared : c.Prepared case card pre before)
    (hfollow : Transcript.AsksOnly (I := bench)
      (BenchRequest.IsFollowUp (c.statusRequest (c.target card))) after)
    (hanswer : after ≠ [] → answer = .ok ())
    (hverdict : ∀ found ∈ verdict, ¬ found.IsEarly) :
    c.RebootSafe case verdict (before ++ ⟨.reboot (c.target card), answer⟩ :: after) := by
  have hbefore := hquiet.mono fun question hasks =>
    hasks.isFollowUp (c.statusRequest (c.target card))
  refine ⟨?_, ?_, ?_, ?_⟩
  · have hquietNone := Transcript.reboots_eq_nil hquiet fun _ => id
    have hfollowNone := Transcript.reboots_eq_nil hfollow fun _ => id
    rw [Transcript.reboots_append, Transcript.reboots_cons_reboot, hquietNone, hfollowNone]
    exact Nat.le_refl 1
  · intro first target found rest hsplit
    obtain ⟨rfl, hsame, -⟩ := Transcript.eq_of_append_cons_eq hbefore hfollow id hsplit
    cases hsame
    exact ⟨card, pre, hprepared, rfl, rfl⟩
  · intro first request found rest hsplit
    have hne :
        (⟨.reboot (c.target card), answer⟩ : Exchange bench) ≠
          ⟨.rebootStatus request, found⟩ := by
      intro hsame
      cases hsame
    obtain ⟨hfirst, hlater⟩ := Transcript.mem_of_append_cons_eq hquiet id hne hsplit
    have hrequest : request = c.statusRequest (c.target card) := hfollow _ hlater
    rw [hanswer (List.ne_nil_of_mem hlater)] at hfirst
    rw [hrequest]
    exact ⟨c.target card, hfirst, paths_statusRequest (c.target card)⟩
  · intro found hmem hearly
    exact absurd hearly (hverdict found hmem)

theorem rebootSafe_of_quiet
    {transcript : Transcript bench} {verdict : Option Verdict}
    (hquiet : Transcript.AsksOnly (I := bench) BenchRequest.IsQuiet transcript) :
    c.RebootSafe case verdict transcript := by
  have hnone := Transcript.reboots_eq_nil hquiet fun _ => id
  refine ⟨?_, ?_, ?_, fun _ _ _ => hnone⟩
  · rw [hnone]
    exact Nat.zero_le 1
  · rintro before target answer after rfl
    exact (hquiet ⟨.reboot target, answer⟩ (by simp)).elim
  · rintro before request answer after rfl
    exact (hquiet ⟨.rebootStatus request, answer⟩ (by simp)).elim

theorem CaseRun.rebootSafe
    {transcript : Transcript bench} {result : Option (Except Exit Unit)}
    (hrun : c.CaseRun case transcript result) :
    c.RebootSafe case (result.map verdict) transcript := by
  cases hrun with
  | unprepared hquiet hresult => exact rebootSafe_of_quiet hquiet
  | @refused before card pre hquiet hprepared e =>
      refine rebootSafe_of_request hquiet hprepared Transcript.asksOnly_nil ?_ ?_
      · intro hafter
        exact absurd rfl hafter
      · rintro found ⟨⟩
        exact not_isPreflight_rebootFailure card e
  | rebooted hquiet hprepared hfollow hlate hshows =>
      refine rebootSafe_of_request hquiet hprepared hfollow (fun _ => rfl) ?_
      intro found hfound
      exact not_isEarly_of_isLate hlate hfound

/-- Whatever the device answers, and also when a case is abandoned, its requests are
safe. -/
theorem rebootSafe_runCase
    {σ : Type} (c : Campaign) (case : RebootCase) (device : Responder bench σ) (state : σ)
    (start : Instant) :
    c.RebootSafe case
      (((c.runCase case).answeredBy device start state).1.1.map CaseReport.verdict)
      ((c.runCase case).exchangesWith device start state) := by
  obtain ⟨result, hcase, hverdict⟩ := exists_caseRun_answeredBy c case device state start
  rw [hverdict]
  exact hcase.rebootSafe

end Campaign

end CardReboot
