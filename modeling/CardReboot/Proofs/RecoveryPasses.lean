import CardReboot.Proofs.OctetOrder
import CardReboot.Proofs.ReadSchedule
import Mathlib.Order.Lattice.Nat

/-!
# The passes of a recovery

After a reboot the interfaces are gone through again and again, one pass at each read of
the wait.  The first pass that finds every interface up that was up before ends the
recovery.  A pass in which something could not be read finds nothing, and when the time
is up the failure names exactly the interfaces that the last pass missed.
-/

namespace CardReboot

/-- A procedure whose result is only put into another form. -/
theorem Timed.run_bind_pure
    {I : Interface} {α β σ : Type} {t : Timed I α} {f : α → Timed I β} {g : α → β}
    (hf : ∀ a, f a = pure (g a)) (r : Responder I σ) (start : Instant) (state : σ) :
    (t >>= f).answeredBy r start state =
        (((t.answeredBy r start state).1.1.map g, (t.answeredBy r start state).1.2),
          (t.answeredBy r start state).2) ∧
      (t >>= f).exchangesWith r start state = t.exchangesWith r start state := by
  obtain rfl : f = fun a => pure (g a) := funext hf
  simp only [answeredBy, exchangesWith, startingAt_bind, Dialogue.run_bind,
    Dialogue.transcript_bind]
  cases ((t.startingAt start).run r state).1.1 with
  | none => exact ⟨rfl, List.append_nil _⟩
  | some a => exact ⟨rfl, List.append_nil _⟩

/-! ## The pauses of a transcript -/

namespace Transcript

end Transcript

/-! ## One pass -/

namespace Snapshot

theorem missingFrom_eq_nil_iff {pre post : Snapshot} :
    pre.missingFrom post = [] ↔ pre.up ⊆ post.up := by
  simp [missingFrom, List.filter_eq_nil_iff, List.subset_def]

end Snapshot

namespace Recovery

/-- The pass found every interface of `pre` up. -/
def ShowsUp (pre : Snapshot) (pass : Answered Snapshot) : Prop :=
  ∃ post, pass = .ok post ∧ pre.up ⊆ post.up

/-- What a pass is for the wait, compared with the snapshot from before. -/
def compared (pre : Snapshot) : Answered Snapshot → Except String Observation
  | .error e => .error e.message
  | .ok post => .ok ⟨pre.missingFrom post, post⟩

theorem observe_eq (pre : Snapshot) (scope : InterfaceScope) :
    observe pre scope = (Snapshot.capture scope).bind fun pass => .done (compared pre pass) := by
  unfold observe
  change (Snapshot.capture scope).bind _ = _
  congr 1
  funext pass
  cases pass <;> rfl

theorem isAccepted_compared_iff {pre : Snapshot} {pass : Answered Snapshot} :
    Wait.IsAccepted (fun o : Observation => o.missing.isEmpty) (compared pre pass) ↔
      ShowsUp pre pass := by
  cases pass with
  | error e => simp [Wait.IsAccepted, ShowsUp, compared]
  | ok post =>
      simp [Wait.IsAccepted, ShowsUp, compared, Snapshot.missingFrom_eq_nil_iff]

/-! ## The passes one after the other -/

/-- A device whose interfaces are watched from an instant on. -/
structure Watch (σ : Type) where
  device : Responder bench σ
  state : σ
  scope : InterfaceScope
  interval : Duration
  limit : Duration
  start : Instant

namespace Watch

variable {σ : Type} (v : Watch σ)

def wait : Wait := ⟨"interface recovery", v.interval, v.limit⟩

def deadline : Option Instant := v.start.deadline? v.limit

/-- When the pass with this number is made. -/
def passAt (number : Nat) : Instant := v.start.after (v.wait.offset v.deadline number)

/-- What the pass with this number finds. -/
def pass (number : Nat) : Answered Snapshot :=
  v.wait.found v.device (Snapshot.capture v.scope) v.deadline v.state number

/-- What is asked in the pass with this number. -/
def passExchanges (number : Nat) : Transcript bench :=
  v.wait.readExchanges v.device (Snapshot.capture v.scope) v.deadline v.state number

/-- What is asked before the pass with this number: the passes before it and a pause
after each. -/
def exchangesBefore (number : Nat) : Transcript bench :=
  v.wait.exchangesBefore v.device (Snapshot.capture v.scope) v.deadline v.state number

/-- How many passes are made when none of them shows every interface up. -/
def passes (patience : Nat) : Nat := v.wait.reads patience v.deadline

/-- The outcome of the recovery of `pre`, and the instant of its end. -/
def result (patience : Nat) (pre : Snapshot) : Option (Outcome Snapshot) × Instant :=
  ((await patience v.interval v.limit pre v.scope).answeredBy v.device v.start v.state).1

/-- What the recovery of `pre` asks. -/
def asked (patience : Nat) (pre : Snapshot) : Transcript bench :=
  (await patience v.interval v.limit pre v.scope).exchangesWith v.device v.start v.state

variable {v} {pre : Snapshot} {patience : Nat}

variable (v patience) in
theorem of_empty (hpre : pre.up = []) :
    v.result patience pre = (some (.ok .empty), v.start) ∧ v.asked patience pre = [] := by
  have hempty : pre.isEmpty = true := by rw [Snapshot.isEmpty, hpre]; rfl
  unfold result asked await
  rw [if_pos hempty]
  exact ⟨rfl, rfl⟩

variable (v pre patience) in
/-- The wait that a recovery with something to wait for is. -/
def waiting : Timed bench (Outcome Observation) :=
  v.wait.await patience (observe pre v.scope) (fun o => o.missing.isEmpty) Observation.text

variable (v patience) in
theorem of_nonempty (hpre : pre.up ≠ []) :
    v.result patience pre =
        (((v.waiting pre patience).answeredBy v.device v.start v.state).1.1.map
            (Except.map Observation.post),
          ((v.waiting pre patience).answeredBy v.device v.start v.state).1.2) ∧
      v.asked patience pre =
        (v.waiting pre patience).exchangesWith v.device v.start v.state := by
  have hmore : ¬ pre.isEmpty = true := by simpa [Snapshot.isEmpty] using hpre
  have hrun : await patience v.interval v.limit pre v.scope =
      v.waiting pre patience >>= fun outcome => pure (outcome.map Observation.post) := by
    unfold await
    rw [if_neg hmore]
    refine congrArg (v.waiting pre patience >>= ·) (funext fun outcome => ?_)
    cases outcome <;> rfl
  obtain ⟨hanswered, hasked⟩ :=
    Timed.run_bind_pure (t := v.waiting pre patience) (fun _ => rfl) v.device v.start v.state
  rw [← hrun] at hanswered hasked
  exact ⟨congrArg Prod.fst hanswered, hasked⟩

theorem run_observe (state : σ) :
    (observe pre v.scope).run v.device state =
      (compared pre ((Snapshot.capture v.scope).run v.device state).1,
        ((Snapshot.capture v.scope).run v.device state).2) := by
  rw [observe_eq, Dialogue.run_bind, Dialogue.run_done]

theorem transcript_observe (state : σ) :
    (observe pre v.scope).transcript v.device state =
      (Snapshot.capture v.scope).transcript v.device state := by
  rw [observe_eq, Dialogue.transcript_bind]
  exact List.append_nil _

theorem settled_observe (number : Nat) :
    v.wait.settled v.device (observe pre v.scope) v.deadline v.state number =
      v.wait.settled v.device (Snapshot.capture v.scope) v.deadline v.state number := by
  apply v.wait.settled_eq_of_run
  intro state
  rw [run_observe]

theorem found_observe (number : Nat) :
    v.wait.found v.device (observe pre v.scope) v.deadline v.state number =
      compared pre (v.pass number) := by
  rw [Wait.found, settled_observe, run_observe]
  rfl

theorem asked_observe (number : Nat) :
    v.wait.exchangesBefore v.device (observe pre v.scope) v.deadline v.state number ++
        v.wait.readExchanges v.device (observe pre v.scope) v.deadline v.state number =
      v.exchangesBefore number ++ v.passExchanges number := by
  have hstate : ∀ state, ((observe pre v.scope).run v.device state).2 =
      ((Snapshot.capture v.scope).run v.device state).2 := by
    intro state
    rw [run_observe]
  rw [Wait.readExchanges, settled_observe, transcript_observe,
    v.wait.exchangesBefore_eq_of_run v.deadline hstate transcript_observe]
  rfl

theorem not_isAccepted_observe
    {number : Nat} (hmiss : ¬ ShowsUp pre (v.pass number)) :
    ¬ Wait.IsAccepted (fun o => o.missing.isEmpty)
      (v.wait.found v.device (observe pre v.scope) v.deadline v.state number) := by
  rw [found_observe, isAccepted_compared_iff]
  exact hmiss

/-- The first pass that shows every interface up ends the recovery. -/
theorem of_shown
    (hinterval : 0 < v.interval.nanos) (hpre : pre.up ≠ []) {first : Nat} {post : Snapshot}
    (hfirst : IsLeast {number | ShowsUp pre (v.pass number)} first)
    (hpasses : first < v.passes patience) (hpost : v.pass first = .ok post) :
    v.result patience pre = (some (.ok post), v.passAt first) ∧
      v.asked patience pre = v.exchangesBefore first ++ v.passExchanges first := by
  obtain ⟨hresult, hasked⟩ := v.of_nonempty patience hpre
  have hbefore : ∀ earlier < first, ¬ ShowsUp pre (v.pass earlier) :=
    fun earlier hless hshows => Nat.not_le.mpr hless (hfirst.2 hshows)
  have hfound : v.wait.found v.device (observe pre v.scope) v.deadline v.state first =
      .ok ⟨pre.missingFrom post, post⟩ := by
    rw [found_observe, hpost]
    rfl
  have hcomplete : (pre.missingFrom post).isEmpty = true := by
    obtain ⟨shown, hshown, hup⟩ := hfirst.1
    obtain rfl : shown = post := Except.ok.inj (hshown.symm.trans hpost)
    rw [Snapshot.missingFrom_eq_nil_iff.mpr hup]
    rfl
  obtain ⟨hwait, hexchanges⟩ :=
    Wait.await_of_accepted (w := v.wait) Observation.text hinterval hpasses
      (fun earlier hless => not_isAccepted_observe (hbefore earlier hless)) hfound hcomplete
  refine ⟨hresult.trans ?_, hasked.trans (hexchanges.trans (asked_observe first))⟩
  simp only [waiting, hwait]
  rfl

/-- When no pass shows every interface up the recovery ends at its deadline, with what
the last pass found. -/
theorem of_late
    (hinterval : 0 < v.interval.nanos) (hpre : pre.up ≠ []) (hclock : v.deadline ≠ none)
    (hmiss : ∀ number < v.passes patience, ¬ ShowsUp pre (v.pass number)) :
    v.result patience pre =
        (some (.error (.timeout "interface recovery" v.limit v.limit
            (Wait.observed Observation.text (compared pre (v.pass v.wait.lastRead))))),
          v.start.after v.limit) ∧
      v.asked patience pre =
        v.exchangesBefore v.wait.lastRead ++ v.passExchanges v.wait.lastRead := by
  obtain ⟨hresult, hasked⟩ := v.of_nonempty patience hpre
  obtain ⟨due, hdue⟩ := Option.ne_none_iff_exists'.mp hclock
  have hpasses : v.passes patience = v.wait.lastRead + 1 := by rw [passes, hdue]; rfl
  obtain ⟨hwait, hexchanges⟩ :=
    Wait.await_of_late (w := v.wait) Observation.text hinterval patience
      (Instant.hasDeadline_of_ne_none hclock) fun number hle =>
        not_isAccepted_observe (hmiss number (by omega))
  refine ⟨hresult.trans ?_, hasked.trans (hexchanges.trans (asked_observe _))⟩
  rw [← found_observe]
  simp only [waiting, hwait]
  rfl

/-- Without a deadline the passes go on until one shows every interface up. -/
theorem of_unending
    (hpre : pre.up ≠ []) (hnever : v.deadline = none)
    (hmiss : ∀ number < v.passes patience, ¬ ShowsUp pre (v.pass number)) :
    v.result patience pre = (none, v.passAt patience) ∧
      v.asked patience pre = v.exchangesBefore patience := by
  obtain ⟨hresult, hasked⟩ := v.of_nonempty patience hpre
  have hpasses : v.passes patience = patience := by rw [passes, hnever]; rfl
  have hmissed : ∀ number < patience,
      ¬ Wait.IsAccepted (fun o => o.missing.isEmpty)
        (v.wait.found v.device (observe pre v.scope) none v.state number) := by
    intro number hless
    rw [← hnever]
    exact not_isAccepted_observe (hmiss number (by omega))
  have hbefore : v.wait.exchangesBefore v.device (observe pre v.scope) none v.state patience =
      v.exchangesBefore patience := by
    rw [exchangesBefore, hnever]
    exact v.wait.exchangesBefore_eq_of_run none (fun state => by rw [run_observe])
      transcript_observe patience
  obtain ⟨hwait, hexchanges⟩ :=
    Wait.await_of_unending (w := v.wait) Observation.text hnever hmissed
  refine ⟨hresult.trans ?_, hasked.trans (hexchanges.trans hbefore)⟩
  simp only [waiting, hwait, passAt, hnever]
  rfl

theorem exists_first_or_none (v : Watch σ) (pre : Snapshot) (patience : Nat) :
    (∃ first, IsLeast {number | ShowsUp pre (v.pass number)} first ∧
        first < v.passes patience) ∨
      ∀ number < v.passes patience, ¬ ShowsUp pre (v.pass number) := by
  by_cases hshown : ∃ number < v.passes patience, ShowsUp pre (v.pass number)
  · obtain ⟨number, hless, hshows⟩ := hshown
    have hmem : number ∈ {number | ShowsUp pre (v.pass number)} := hshows
    exact .inl ⟨sInf _, ⟨Nat.sInf_mem ⟨number, hmem⟩, fun _ => Nat.sInf_le⟩,
      Nat.lt_of_le_of_lt (Nat.sInf_le hmem) hless⟩
  · exact .inr fun number hless hshows => hshown ⟨number, hless, hshows⟩

/-- Only a pass that shows every interface up ends a recovery well. -/
theorem exists_first_of_result_eq_ok
    (hinterval : 0 < v.interval.nanos) (hpre : pre.up ≠ []) {post : Snapshot}
    (hresult : (v.result patience pre).1 = some (.ok post)) :
    ∃ first, IsLeast {number | ShowsUp pre (v.pass number)} first ∧
      first < v.passes patience ∧ v.pass first = .ok post := by
  rcases v.exists_first_or_none pre patience with ⟨first, hfirst, hpasses⟩ | hmiss
  · obtain ⟨shown, hshown, -⟩ := hfirst.1
    obtain ⟨hended, -⟩ := of_shown hinterval hpre hfirst hpasses hshown
    rw [hended] at hresult
    cases hresult
    exact ⟨first, hfirst, hpasses, hshown⟩
  · by_cases hclock : v.deadline = none
    · obtain ⟨hended, -⟩ := of_unending hpre hclock hmiss
      rw [hended] at hresult
      cases hresult
    · obtain ⟨hended, -⟩ := of_late hinterval hpre hclock hmiss
      rw [hended] at hresult
      cases hresult

end Watch

/-- What the failure of a recovery tells of its last pass. -/
def Tells (pre : Snapshot) (text : String) : Answered Snapshot → Prop
  | .error e => text = "error: " ++ e.message
  | .ok post =>
      ∃ missing,
        text = "interfaces not up: [" ++ ", ".intercalate missing ++ "]" ∧ missing ≠ [] ∧
          (missing.map fun name => Text.encode name.toList).Pairwise (· < ·) ∧
            ∀ name, name ∈ missing ↔ name ∈ pre.up ∧ name ∉ post.up

namespace Watch

end Watch

end Recovery

end CardReboot
