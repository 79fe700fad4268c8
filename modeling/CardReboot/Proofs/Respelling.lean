import CardReboot.Proofs.CarriedOut
import CardReboot.Proofs.CaseTime
import CardReboot.Proofs.RebootSafety
import CardReboot.Proofs.SteadyBench

/-!
# Cards in other spellings

Two deviations change how a device is told which card is meant: by its bare name, and not
at all in a status query.  They change these words and nothing else.  A case under the
deviations is the case without them, carried out with the paths of its requests respelled;
so a device that does not look at the paths gives it the same answers, and it comes to the
same end in the same time.
-/

namespace CardReboot

/-! ## Dialogues carried out on the same level -/

namespace Dialogue

variable {I : Interface} {α β σ : Type} {carry : (q : I.Question) → Dialogue I (I.Answer q)}

theorem carryOut_bind (d : Dialogue I α) (f : α → Dialogue I β) :
    (d.bind f).carryOut carry = (d.carryOut carry).bind fun a => (f a).carryOut carry := by
  induction d with
  | done value => rfl
  | ask question next ih =>
      rw [bind, carryOut, carryOut, bind_assoc]
      congr 1
      funext answer
      exact ih answer

theorem exists_produces (hanswer : ∀ q : I.Question, Nonempty (I.Answer q)) (d : Dialogue I α) :
    ∃ transcript a, d.Produces transcript a := by
  induction d with
  | done value => exact ⟨[], value, .done value⟩
  | ask question next ih =>
      obtain ⟨answer⟩ := hanswer question
      obtain ⟨transcript, a, hrest⟩ := ih answer
      exact ⟨_, a, .ask hrest⟩

/-- A dialogue that asks only what is carried out as it is stays as it is. -/
theorem carryOut_eq_self
    {asks : I.Question → Prop} {ends : α → Prop}
    (hanswer : ∀ q : I.Question, Nonempty (I.Answer q))
    (hcarry : ∀ q, asks q → carry q = question q) {d : Dialogue I α}
    (hasks : d.Guarantees asks ends) : d.carryOut carry = d := by
  induction d with
  | done value => rfl
  | ask q next ih =>
      obtain ⟨transcript, a, hproduces⟩ := exists_produces hanswer (ask q next)
      obtain ⟨answer, rest, rfl, -⟩ := produces_ask_iff.mp hproduces
      have hq : asks q := (Transcript.asksOnly_cons.mp (hasks _ a hproduces).1).1
      rw [carryOut, hcarry q hq]
      change ask q (fun answer => (next answer).carryOut carry) = _
      congr 1
      funext answer
      apply ih answer
      intro transcript a hrest
      obtain ⟨hall, ha⟩ := hasks _ a (.ask hrest)
      exact ⟨(Transcript.asksOnly_cons.mp hall).2, ha⟩

/-- A responder that does not tell the questions from the ones they are carried out as
gives both dialogues the same answers. -/
theorem run_carryOut_of_blind
    {r : Responder I σ} {renamed : Exchange I → Exchange I} {same : σ → σ → Prop}
    (hreply : ∀ q state state', same state state' →
      ((carry q).run r state').1 = (r.reply q state).1 ∧
        same (r.reply q state).2 ((carry q).run r state').2 ∧
          (carry q).transcript r state' = [renamed ⟨q, (r.reply q state).1⟩])
    (d : Dialogue I α) {state state' : σ} (hsame : same state state') :
    ((d.carryOut carry).run r state').1 = (d.run r state).1 ∧
      same (d.run r state).2 ((d.carryOut carry).run r state').2 ∧
        (d.carryOut carry).transcript r state' = (d.transcript r state).map renamed := by
  induction d generalizing state state' with
  | done value => exact ⟨rfl, hsame, rfl⟩
  | ask question next ih =>
      obtain ⟨hanswer, hlater, hasked⟩ := hreply question state state' hsame
      have hrest := ih (r.reply question state).1 hlater
      rw [carryOut, run_bind, transcript_bind, hanswer, hasked]
      refine ⟨hrest.1, hrest.2.1, ?_⟩
      rw [hrest.2.2]
      rfl

end Dialogue

/-! ## Spellings -/

def ComponentPath.respelled (nameOnly : Bool) (p : ComponentPath) : ComponentPath :=
  match nameOnly, p.elements with
  | true, [_, ⟨_, [(_, name)]⟩] => ⟨[⟨name, []⟩]⟩
  | _, _ => p

def RebootTarget.respelled (nameOnly : Bool) (target : RebootTarget) : RebootTarget :=
  { target with paths := target.paths.map (·.respelled nameOnly) }

def StatusRequest.respelled
    (nameOnly withoutPaths : Bool) (request : StatusRequest) : StatusRequest :=
  ⟨if withoutPaths then [] else request.paths.map (·.respelled nameOnly)⟩

theorem ComponentPath.respelled_ofComponent (nameOnly : Bool) (name : String) :
    (ofComponent name false).respelled nameOnly = ofComponent name nameOnly := by
  cases nameOnly <;> rfl

theorem RebootTarget.respelled_cold (nameOnly : Bool) (card : String) :
    (cold card false).respelled nameOnly = cold card nameOnly := by
  simp only [respelled, cold, List.map_cons, List.map_nil, ComponentPath.respelled_ofComponent]

theorem RebootTarget.statusRequest_cold (nameOnly withoutPaths : Bool) (card : String) :
    (cold card nameOnly).statusRequest (!withoutPaths) =
      ((cold card false).statusRequest true).respelled nameOnly withoutPaths := by
  cases withoutPaths
  · simp [statusRequest, StatusRequest.respelled, cold, ComponentPath.respelled_ofComponent]
  · rfl

def Bench.respell (nameOnly withoutPaths : Bool) :
    (q : bench.Question) → Dialogue bench (bench.Answer q)
  | BenchRequest.reboot target => reboot (target.respelled nameOnly)
  | BenchRequest.rebootStatus request => rebootStatus (request.respelled nameOnly withoutPaths)
  | q => Dialogue.question q

/-- A request without a path stays as it is. -/
theorem Bench.respell_of_isFollowUp
    (nameOnly withoutPaths : Bool) {q : BenchRequest} (hasks : q.IsFollowUp ⟨[]⟩) :
    respell nameOnly withoutPaths q = Dialogue.question (I := bench) q := by
  cases q with
  | reboot target => exact hasks.elim
  | rebootStatus request =>
      obtain rfl : request = ⟨[]⟩ := hasks
      cases withoutPaths <;> rfl
  | _ => rfl

def Exchange.respelled (nameOnly withoutPaths : Bool) : Exchange bench → Exchange bench
  | ⟨.reboot target, answer⟩ => ⟨.reboot (target.respelled nameOnly), answer⟩
  | ⟨.rebootStatus request, answer⟩ =>
      ⟨.rebootStatus (request.respelled nameOnly withoutPaths), answer⟩
  | exchange => exchange

/-! ## Procedures in other spellings -/

theorem BenchRequest.nonempty_answer (q : BenchRequest) : Nonempty q.Answer := by
  cases q with
  | pause d => exact ⟨()⟩
  | _ => exact ⟨.error (.transport "" "")⟩

namespace Timed

variable (nameOnly withoutPaths : Bool) {α β : Type}

/-- The procedure is the other one with its paths respelled. -/
def Respells (t' t : Timed bench α) : Prop :=
  ∀ start, t'.startingAt start =
    (t.startingAt start).carryOut (Bench.respell nameOnly withoutPaths)

variable {nameOnly withoutPaths}

theorem respells_pure (a : α) :
    Respells nameOnly withoutPaths (pure a : Timed bench α) (pure a) :=
  fun _ => rfl

theorem respells_now : Respells nameOnly withoutPaths (now : Timed bench Instant) now :=
  fun _ => rfl

theorem respells_abandoned :
    Respells nameOnly withoutPaths (abandoned : Timed bench α) abandoned :=
  fun _ => rfl

theorem respells_pause (d : Duration) :
    Respells nameOnly withoutPaths (pause d : Timed bench Unit) (pause d) :=
  fun _ => rfl

theorem respells_ask
    {d' d : Dialogue bench α}
    (hd : d' = d.carryOut (Bench.respell nameOnly withoutPaths)) :
    Respells nameOnly withoutPaths (ask d') (ask d) := by
  intro start
  rw [startingAt_ask, startingAt_ask, hd, Dialogue.carryOut_bind]
  rfl

theorem Respells.bind
    {t' t : Timed bench α} {f' f : α → Timed bench β}
    (ht : Respells nameOnly withoutPaths t' t)
    (hf : ∀ a, Respells nameOnly withoutPaths (f' a) (f a)) :
    Respells nameOnly withoutPaths (t' >>= f') (t >>= f) := by
  intro start
  rw [startingAt_bind, startingAt_bind, ht, Dialogue.carryOut_bind]
  congr 1
  funext found
  rcases found with ⟨_ | a, middle⟩
  · rfl
  · exact hf a middle

/-- A procedure that asks about no path is the same in every spelling. -/
theorem Guarantees.respells
    {t : Timed bench α} {ends : α → Prop}
    (ht : t.Guarantees (BenchRequest.IsFollowUp ⟨[]⟩) ends) :
    Respells nameOnly withoutPaths t t := by
  intro start
  have hasks : (t.startingAt start).Guarantees (I := bench) (BenchRequest.IsFollowUp ⟨[]⟩)
      fun _ => True := by
    intro transcript found hproduces
    exact ⟨(ht start transcript found.1 found.2 hproduces).1, trivial⟩
  exact (Dialogue.carryOut_eq_self (I := bench) BenchRequest.nonempty_answer
    (fun q hq => Bench.respell_of_isFollowUp nameOnly withoutPaths hq) hasks).symm

end Timed

namespace Step

variable {nameOnly withoutPaths : Bool} {α β : Type}

abbrev Respells (nameOnly withoutPaths : Bool) (p' p : Step α) : Prop :=
  Timed.Respells nameOnly withoutPaths p'.run p.run

theorem Respells.bind
    {p' p : Step α} {f' f : α → Step β} (hp : Respells nameOnly withoutPaths p' p)
    (hf : ∀ a, Respells nameOnly withoutPaths (f' a) (f a)) :
    Respells nameOnly withoutPaths (p' >>= f') (p >>= f) := by
  unfold Respells
  rw [run_bind_eq, run_bind_eq]
  apply Timed.Respells.bind hp
  rintro (exit | a)
  · exact Timed.respells_pure _
  · exact hf a

theorem respells_timed
    {t' t : Timed bench (Outcome α)} (ht : Timed.Respells nameOnly withoutPaths t' t) :
    Respells nameOnly withoutPaths (timed t') (timed t) := by
  unfold Respells
  rw [run_timed_eq, run_timed_eq]
  exact ht.bind fun outcome => Timed.respells_pure _

theorem isQuiet_pause (d : Duration) : (pause d).IsQuiet := guarantees_pause trivial

theorem isQuiet_timed
    {t : Timed bench (Outcome α)} {ends : Outcome α → Prop}
    (ht : t.Guarantees BenchRequest.IsQuiet ends) : (timed t).IsQuiet := by
  intro start transcript result stop hrun
  obtain ⟨found, hfound, -⟩ := runs_timed_iff.mp hrun
  exact ⟨(ht start transcript found stop hfound).1, fun _ _ => trivial, fun _ _ => trivial⟩

theorem IsQuiet.respells {p : Step α} (hp : p.IsQuiet) :
    Respells nameOnly withoutPaths p p := by
  have hrun : p.run.Guarantees BenchRequest.IsQuiet fun _ => True :=
    fun start transcript result stop hrun =>
      ⟨(hp start transcript result stop hrun).1, fun _ _ => trivial⟩
  exact (hrun.isFollowUp _).respells

end Step

/-! ## Cases in other spellings -/

theorem StatusPoll.respells_keepAsking
    {nameOnly withoutPaths : Bool} (request : StatusRequest) (deadline : Option Instant)
    (issued : Instant) (rounds : Nat) (progress : Progress) :
    Timed.Respells nameOnly withoutPaths
      (keepAsking (request.respelled nameOnly withoutPaths) deadline issued rounds progress)
      (keepAsking request deadline issued rounds progress) := by
  induction rounds generalizing progress with
  | zero => exact Timed.respells_abandoned
  | succ rounds ih =>
      apply (Timed.respells_pause interval).bind
      intro _
      apply Timed.respells_now.bind
      intro now
      by_cases hdue : isDue deadline now = true
      · rw [if_pos hdue, if_pos hdue]
        exact Timed.respells_pure _
      · rw [if_neg hdue, if_neg hdue]
        have hask : Timed.Respells nameOnly withoutPaths
            (Timed.ask (Bench.rebootStatus (request.respelled nameOnly withoutPaths)))
            (Timed.ask (Bench.rebootStatus request)) :=
          Timed.respells_ask rfl
        apply hask.bind
        intro answer
        by_cases hterminal : (PollState.polling.next answer).isTerminal = true
        · simp only [if_pos hterminal]
          exact Timed.respells_pure _
        · simp only [if_neg hterminal]
          exact ih _

theorem StatusPoll.respells_poll
    {nameOnly withoutPaths : Bool} (patience : Nat) (limit : Duration)
    (request : StatusRequest) :
    Timed.Respells nameOnly withoutPaths
      (poll patience limit (request.respelled nameOnly withoutPaths))
      (poll patience limit request) := by
  unfold poll pollFrom
  apply Timed.respells_now.bind
  intro issued
  apply Timed.respells_now.bind
  intro start
  exact respells_keepAsking _ _ _ _ _

namespace Campaign

/-- The same campaign on a device that takes cards in this spelling. -/
def addressing (c : Campaign) (nameOnly withoutPaths : Bool) : Campaign :=
  { c with
    configuration.deviations.pathNameOnly := nameOnly
    configuration.deviations.statusWithoutPaths := withoutPaths }

variable (c : Campaign) (nameOnly withoutPaths : Bool)

theorem issueReboot_respelled (target : RebootTarget) :
    issueReboot (target.respelled nameOnly) =
      (issueReboot target).carryOut (Bench.respell nameOnly withoutPaths) := by
  change (Bench.reboot (target.respelled nameOnly)).bind _ =
    (Bench.reboot (target.respelled nameOnly)).bind _
  congr 1
  funext answer
  cases answer <;> rfl

theorem target_addressing (card : String) :
    (c.addressing nameOnly withoutPaths).target card =
      ((c.addressing false false).target card).respelled nameOnly :=
  (RebootTarget.respelled_cold nameOnly card).symm

theorem respells_issueReboot (card : String) :
    Step.Respells nameOnly withoutPaths
      (Step.asked (issueReboot ((c.addressing nameOnly withoutPaths).target card)))
      (Step.asked (issueReboot ((c.addressing false false).target card))) := by
  apply Step.respells_timed
  apply Timed.respells_ask
  rw [c.target_addressing nameOnly withoutPaths]
  exact issueReboot_respelled nameOnly withoutPaths _

theorem respells_awaitReboot (card : String) (limit : Duration) :
    Timed.Respells nameOnly withoutPaths
      ((c.addressing nameOnly withoutPaths).awaitReboot
        ((c.addressing nameOnly withoutPaths).target card) limit)
      ((c.addressing false false).awaitReboot ((c.addressing false false).target card)
        limit) := by
  have hrequest := RebootTarget.statusRequest_cold nameOnly withoutPaths card
  unfold awaitReboot
  change Timed.Respells nameOnly withoutPaths
    (StatusPoll.poll c.patience limit
      ((RebootTarget.cold card nameOnly).statusRequest (!withoutPaths)) >>= _)
    (StatusPoll.poll c.patience limit ((RebootTarget.cold card false).statusRequest true) >>= _)
  rw [hrequest]
  apply (StatusPoll.respells_poll c.patience limit _).bind
  intro report
  exact Timed.respells_pure _

theorem isQuiet_checkDrops (card : String) : (c.checkDrops card).IsQuiet := by
  unfold checkDrops
  apply (Step.isQuiet_ofOutcome _).bind
  intro ingress
  apply (Step.isQuiet_timed (DropWindow.guarantees_watch _ _ _ _)).bind
  intro report
  exact Step.isQuiet_ofOutcome _

theorem isQuiet_finish (card : String) : (c.finish card).IsQuiet := by
  unfold finish
  by_cases hvendor : c.configuration.vendor = .juniper
  · rw [if_pos hvendor]
    by_cases hgenerator : c.hasGenerator = true
    · rw [if_pos hgenerator]
      exact c.isQuiet_checkDrops card
    · rw [if_neg hgenerator]
      exact Step.guarantees_skip trivial
  · rw [if_neg hvendor]
    exact Step.isQuiet_pure ()

theorem respells_recover (card : String) (pre : Snapshot) (case : RebootCase) :
    Step.Respells nameOnly withoutPaths
      ((c.addressing nameOnly withoutPaths).recover card pre case)
      ((c.addressing false false).recover card pre case) := by
  -- Only the question whether the reboot is over has a path in it.
  have hpause : ∀ d, Step.Respells nameOnly withoutPaths (Step.pause d) (Step.pause d) :=
    fun d => (Step.isQuiet_pause d).respells
  have hstate : ∀ what limit accept, Step.Respells nameOnly withoutPaths
      (Step.timed ((c.addressing nameOnly withoutPaths).awaitState what card limit accept))
      (Step.timed ((c.addressing false false).awaitState what card limit accept)) :=
    fun what limit accept =>
      Step.respells_timed (c.isFollowUp_awaitState what card limit accept).respells
  have hinterfaces : ∀ limit, Step.Respells nameOnly withoutPaths
      (Step.timed ((c.addressing nameOnly withoutPaths).awaitInterfaces limit pre))
      (Step.timed ((c.addressing false false).awaitInterfaces limit pre)) :=
    fun limit => Step.respells_timed (Recovery.isFollowUp_await _ _ limit pre c.scope).respells
  cases case with
  | standbyController =>
      rw [recover, recover]
      apply (hpause _).bind
      intro settled
      apply (hstate _ _ _).bind
      intro state
      exact (Step.isQuiet_pure _).respells
  | linecard =>
      rw [recover, recover]
      apply (hpause _).bind
      intro settled
      apply (Step.respells_timed (c.respells_awaitReboot nameOnly withoutPaths card _)).bind
      intro poll
      apply (hstate _ _ _).bind
      intro state
      apply (hinterfaces _).bind
      intro post
      exact (c.isQuiet_finish card).respells
  | fabric =>
      rw [recover, recover]
      apply (Step.respells_timed (c.respells_awaitReboot nameOnly withoutPaths card _)).bind
      intro poll
      apply (hstate _ _ _).bind
      intro state
      apply (hinterfaces _).bind
      intro post
      exact (Step.isQuiet_pure _).respells

theorem respells_steps (case : RebootCase) :
    Step.Respells nameOnly withoutPaths ((c.addressing nameOnly withoutPaths).steps case)
      ((c.addressing false false).steps case) := by
  rw [steps_eq, steps_eq]
  have hprepare : (c.addressing nameOnly withoutPaths).prepare case =
      (c.addressing false false).prepare case := by
    cases case <;> rfl
  rw [hprepare]
  apply (Step.IsQuiet.respells (isQuiet_prepare case)).bind
  intro found
  apply (c.respells_issueReboot nameOnly withoutPaths found.1).bind
  intro issued
  exact c.respells_recover nameOnly withoutPaths found.1 found.2 case

/-- A case under the deviations is the plain case with its paths respelled. -/
theorem respells_runCase (case : RebootCase) :
    Timed.Respells nameOnly withoutPaths ((c.addressing nameOnly withoutPaths).runCase case)
      ((c.addressing false false).runCase case) := by
  unfold runCase
  apply Timed.respells_now.bind
  intro start
  apply Timed.Respells.bind (c.respells_steps nameOnly withoutPaths case)
  intro result
  apply Timed.respells_now.bind
  intro stop
  exact Timed.respells_pure _

end Campaign

/-! ## Devices that do not look at the paths -/

namespace RehearsedDevice

/-- The second operation, behind whatever log, answers as the first one does and leaves the
device as that does, up to the log. -/
def LogBlind {α : Type} (f f' : RehearsedDevice → α × RehearsedDevice) : Prop :=
  ∀ d calls, ∃ later, f' (d.logging calls) = ((f d).1, (f d).2.logging later)

theorem logBlind_rebootStatus (request request' : StatusRequest) :
    LogBlind (·.rebootStatus request) (·.rebootStatus request') := by
  intro d calls
  obtain ⟨cards, answers, unimplemented, refusal, interfaces, counters, commandAnswers,
    defaultOutput, log⟩ := d
  cases answers with
  | nil => cases unimplemented <;> exact ⟨_, rfl⟩
  | cons answer rest => exact ⟨_, rfl⟩

theorem logBlind_console (command : String) :
    LogBlind (·.console command) (·.console command) := by
  intro d calls
  obtain ⟨cards, statusAnswers, unimplemented, refusal, interfaces, counters, answers,
    defaultOutput, log⟩ := d
  cases answers <;> exact ⟨_, rfl⟩

end RehearsedDevice

namespace Rehearsal

/-- Two benches with a rehearsed device that differ in its log at most. -/
def SameButLog (r r' : Rehearsal) : Prop :=
  ∃ d generator host calls, r = ⟨.rehearsed d, generator, host⟩ ∧
    r' = ⟨.rehearsed (d.logging calls), generator, host⟩

theorem onDevice_of_sameButLog
    {α : Type} {f f' : RehearsedDevice → α × RehearsedDevice}
    {onHost onHost' : Target → Dialogue CardReboot.host α} {r r' : Rehearsal}
    (hblind : RehearsedDevice.LogBlind f f') (hsame : SameButLog r r') :
    (r'.onDevice f' onHost').1 = (r.onDevice f onHost).1 ∧
      SameButLog (r.onDevice f onHost).2 (r'.onDevice f' onHost').2 := by
  obtain ⟨d, generator, host, calls, rfl, rfl⟩ := hsame
  obtain ⟨later, hlater⟩ := hblind d calls
  simp only [onDevice, hlater]
  exact ⟨trivial, _, generator, host, later, rfl, rfl⟩

theorem reply_reboot_of_sameButLog
    (target target' : RebootTarget) {r r' : Rehearsal} (hsame : SameButLog r r') :
    (reply (.reboot target') r').1 = (reply (.reboot target) r).1 ∧
      SameButLog (reply (.reboot target) r).2 (reply (.reboot target') r').2 := by
  simp only [reply]
  exact onDevice_of_sameButLog (fun _ _ => ⟨_, rfl⟩) hsame

theorem reply_rebootStatus_of_sameButLog
    (request request' : StatusRequest) {r r' : Rehearsal} (hsame : SameButLog r r') :
    (reply (.rebootStatus request') r').1 = (reply (.rebootStatus request) r).1 ∧
      SameButLog (reply (.rebootStatus request) r).2 (reply (.rebootStatus request') r').2 := by
  simp only [reply]
  exact onDevice_of_sameButLog (RehearsedDevice.logBlind_rebootStatus request request') hsame

/-- The log tells a rehearsed bench nothing. -/
theorem reply_of_sameButLog
    (q : BenchRequest) {r r' : Rehearsal} (hsame : SameButLog r r') :
    (reply q r').1 = (reply q r).1 ∧ SameButLog (reply q r).2 (reply q r').2 := by
  -- Every request is written to the log, and no answer is taken from it.
  cases q with
  | reboot target => exact reply_reboot_of_sameButLog target target hsame
  | rebootStatus request => exact reply_rebootStatus_of_sameButLog request request hsame
  | componentNames type =>
      simp only [reply]
      exact onDevice_of_sameButLog (fun _ _ => ⟨_, rfl⟩) hsame
  | componentState name =>
      simp only [reply]
      exact onDevice_of_sameButLog (fun _ _ => ⟨_, rfl⟩) hsame
  | interfaceNames =>
      simp only [reply]
      exact onDevice_of_sameButLog (fun _ _ => ⟨_, rfl⟩) hsame
  | interfaceStatus name =>
      simp only [reply]
      exact onDevice_of_sameButLog (fun _ _ => ⟨_, rfl⟩) hsame
  | ingressPackets name =>
      simp only [reply]
      exact onDevice_of_sameButLog (fun _ _ => ⟨_, rfl⟩) hsame
  | console command =>
      simp only [reply]
      exact onDevice_of_sameButLog (RehearsedDevice.logBlind_console command) hsame
  | startTraffic =>
      obtain ⟨d, generator, host, calls, rfl, rfl⟩ := hsame
      cases generator <;> exact ⟨rfl, d, _, _, calls, rfl, rfl⟩
  | stopTraffic =>
      obtain ⟨d, generator, host, calls, rfl, rfl⟩ := hsame
      cases generator <;> exact ⟨rfl, d, _, _, calls, rfl, rfl⟩
  | pause d => exact ⟨rfl, hsame⟩

end Rehearsal

/-- A traffic generator of any kind, with a state of its own. -/
structure TrafficGenerator (τ : Type) where
  start : τ → Answered Unit × τ
  stop : τ → Answered Unit × τ

namespace Rehearsal

variable {τ : Type} (generator : TrafficGenerator τ)

/-- Starts and stops this generator in the place of the bench's own. -/
def replyDriving : (q : BenchRequest) → Rehearsal × τ → q.Answer × (Rehearsal × τ)
  | .startTraffic, (r, traffic) => ((generator.start traffic).1, r, (generator.start traffic).2)
  | .stopTraffic, (r, traffic) => ((generator.stop traffic).1, r, (generator.stop traffic).2)
  | q, (r, traffic) => ((reply q r).1, (reply q r).2, traffic)

def driving : Responder bench (Rehearsal × τ) := ⟨replyDriving generator⟩

end Rehearsal

/-- Whatever `same` overlooks and however the paths are spelled, the bench gives the same
answers. -/
def PathBlind {σ : Type} (bed : Responder bench σ) (same : σ → σ → Prop) : Prop :=
  ∀ nameOnly withoutPaths (q : bench.Question) state state', same state state' →
    ((Bench.respell nameOnly withoutPaths q).run bed state').1 = (bed.reply q state).1 ∧
      same (bed.reply q state).2 ((Bench.respell nameOnly withoutPaths q).run bed state').2

theorem Rehearsal.pathBlind_responder : PathBlind responder SameButLog := by
  intro nameOnly withoutPaths q r r' hsame
  cases q with
  | reboot target => exact reply_reboot_of_sameButLog target (target.respelled nameOnly) hsame
  | rebootStatus request =>
      exact reply_rebootStatus_of_sameButLog request
        (request.respelled nameOnly withoutPaths) hsame
  | _ => exact reply_of_sameButLog _ hsame

theorem Rehearsal.pathBlind_driving {τ : Type} (generator : TrafficGenerator τ) :
    PathBlind (driving generator) fun s s' => SameButLog s.1 s'.1 ∧ s'.2 = s.2 := by
  rintro nameOnly withoutPaths q ⟨r, traffic⟩ ⟨r', _⟩ ⟨hsame, rfl⟩
  have hdevice := pathBlind_responder nameOnly withoutPaths q r r' hsame
  cases q with
  | startTraffic => exact ⟨rfl, hsame, rfl⟩
  | stopTraffic => exact ⟨rfl, hsame, rfl⟩
  | _ => exact ⟨hdevice.1, hdevice.2, rfl⟩

theorem Bench.transcript_respell
    {σ : Type} (nameOnly withoutPaths : Bool) (device : Responder bench σ)
    (q : bench.Question) (state : σ) :
    (respell nameOnly withoutPaths q).transcript device state =
      [Exchange.respelled nameOnly withoutPaths
        ⟨q, ((respell nameOnly withoutPaths q).run device state).1⟩] := by
  cases q <;> rfl

/-! ## The requests of a case in other spellings -/

namespace BenchRequest

/-- A reboot that is asked for is this one, and so is a status query. -/
def Names (target : RebootTarget) (request : StatusRequest) : BenchRequest → Prop
  | .reboot asked => asked = target
  | .rebootStatus asked => asked = request
  | _ => True

/-- A reboot has the path of the card in this spelling, and a status query has it unless
queries are without paths. -/
def Spells (card : String) (nameOnly withoutPaths : Bool) : BenchRequest → Prop
  | .reboot target =>
      target.paths.map ComponentPath.text = [ComponentPath.spelling card nameOnly]
  | .rebootStatus request =>
      request.paths.map ComponentPath.text =
        if withoutPaths then [] else [ComponentPath.spelling card nameOnly]
  | _ => True

/-- The texts of the paths of a reboot or a status query. -/
def cardPaths : BenchRequest → Option (List String)
  | .reboot target => some (target.paths.map ComponentPath.text)
  | .rebootStatus request => some (request.paths.map ComponentPath.text)
  | _ => none

variable {target : RebootTarget} {request : StatusRequest} {q : BenchRequest}

theorem IsQuiet.names (hasks : q.IsQuiet) : q.Names target request := by
  cases q with
  | reboot asked => exact hasks.elim
  | rebootStatus asked => exact hasks.elim
  | _ => trivial

theorem IsFollowUp.names (hasks : q.IsFollowUp request) : q.Names target request := by
  cases q with
  | reboot asked => exact hasks.elim
  | rebootStatus asked => exact hasks
  | _ => trivial

end BenchRequest

theorem Exchange.spells_respelled
    {card : String} (nameOnly withoutPaths : Bool) {exchange : Exchange bench}
    (hnames : BenchRequest.Names (.cold card false)
      ((RebootTarget.cold card false).statusRequest true) exchange.question) :
    BenchRequest.Spells card nameOnly withoutPaths
      (exchange.respelled nameOnly withoutPaths).question := by
  obtain ⟨question, answer⟩ := exchange
  cases question with
  | reboot target =>
      obtain rfl : target = .cold card false := hnames
      change ((RebootTarget.cold card false).respelled nameOnly).paths.map _ = _
      rw [RebootTarget.respelled_cold]
      exact congrArg (fun text => [text]) (ComponentPath.text_ofComponent card nameOnly)
  | rebootStatus request =>
      obtain rfl : request = (RebootTarget.cold card false).statusRequest true := hnames
      change (StatusRequest.respelled nameOnly withoutPaths _).paths.map _ = _
      rw [← RebootTarget.statusRequest_cold]
      cases withoutPaths
      · exact congrArg (fun text => [text]) (ComponentPath.text_ofComponent card nameOnly)
      · rfl
  | _ => trivial

namespace Campaign

variable {c : Campaign} {case : RebootCase}

/-- Whatever a case asks the device to reboot and whatever reboot it asks about, it is that
of one card. -/
theorem CaseRun.exists_card
    {transcript : Transcript bench} {result : Option (Except Exit Unit)}
    (hrun : c.CaseRun case transcript result) :
    ∃ card, Transcript.AsksOnly (I := bench)
      (BenchRequest.Names (c.target card) (c.statusRequest (c.target card))) transcript := by
  cases hrun with
  | unprepared hquiet hresult => exact ⟨"", hquiet.mono fun q => BenchRequest.IsQuiet.names⟩
  | @refused before card pre hquiet hprepared e =>
      refine ⟨card, Transcript.asksOnly_append.mpr ⟨?_, ?_⟩⟩
      · exact hquiet.mono fun q => BenchRequest.IsQuiet.names
      · exact Transcript.asksOnly_cons.mpr ⟨rfl, Transcript.asksOnly_nil⟩
  | @rebooted before after result card pre hquiet hprepared hfollow hlate hshows =>
      refine ⟨card, Transcript.asksOnly_append.mpr ⟨?_, ?_⟩⟩
      · exact hquiet.mono fun q => BenchRequest.IsQuiet.names
      · exact Transcript.asksOnly_cons.mpr
          ⟨rfl, hfollow.mono fun q => BenchRequest.IsFollowUp.names⟩

/-- The case under the deviations beside the plain one: the same end at the same time, and
the same requests with the same answers but for the paths in them. -/
structure RunsRespelled
    {σ : Type} (c : Campaign) (case : RebootCase) (bed : Responder bench σ) (start : Instant)
    (state : σ) (same : σ → σ → Prop) (nameOnly withoutPaths : Bool) : Prop where
  result :
    (((c.addressing nameOnly withoutPaths).runCase case).answeredBy bed start state).1 =
      (((c.addressing false false).runCase case).answeredBy bed start state).1
  later :
    same (((c.addressing false false).runCase case).answeredBy bed start state).2
      (((c.addressing nameOnly withoutPaths).runCase case).answeredBy bed start state).2
  calls :
    ((c.addressing nameOnly withoutPaths).runCase case).exchangesWith bed start state =
      (((c.addressing false false).runCase case).exchangesWith bed start state).map
        (Exchange.respelled nameOnly withoutPaths)

theorem runsRespelled_of_pathBlind
    {σ : Type} {bed : Responder bench σ} {same : σ → σ → Prop} (hblind : PathBlind bed same)
    (c : Campaign) (case : RebootCase) (start : Instant) {state : σ} (hsame : same state state)
    (nameOnly withoutPaths : Bool) :
    c.RunsRespelled case bed start state same nameOnly withoutPaths := by
  have hreply : ∀ (q : bench.Question) first second, same first second →
      ((Bench.respell nameOnly withoutPaths q).run bed second).1 = (bed.reply q first).1 ∧
        same (bed.reply q first).2 ((Bench.respell nameOnly withoutPaths q).run bed second).2 ∧
          (Bench.respell nameOnly withoutPaths q).transcript bed second =
            [Exchange.respelled nameOnly withoutPaths ⟨q, (bed.reply q first).1⟩] := by
    intro q first second hfirst
    obtain ⟨hanswer, hlater⟩ := hblind nameOnly withoutPaths q first second hfirst
    refine ⟨hanswer, hlater, ?_⟩
    rw [Bench.transcript_respell, hanswer]
  obtain ⟨hresult, hlater, hcalls⟩ := Dialogue.run_carryOut_of_blind (I := bench) hreply
    (((c.addressing false false).runCase case).startingAt start) hsame
  have hrun := c.respells_runCase nameOnly withoutPaths case start
  rw [← hrun] at hresult hlater hcalls
  exact ⟨hresult, hlater, hcalls⟩

/-- Under every setting of the two deviations, a case on a rehearsed device ends with the
same report at the same time, whatever generator drives the traffic, and asks the same of
both but for the paths: each is the one of the same card, and a status query may be without
it. -/
theorem deviations_respell_only
    {τ : Type} (c : Campaign) (case : RebootCase) (d : RehearsedDevice)
    (generator : TrafficGenerator τ) (traffic : τ) (host : RehearsedHost) (start : Instant)
    (hcheck : c.configuration.check = .ok ()) (hclock : c.DeadlinesFit start case) :
    ∃ card report, ∀ nameOnly withoutPaths,
      let run := (c.addressing nameOnly withoutPaths).runCase case
      let bed := Rehearsal.driving generator
      (run.answeredBy bed start (⟨.rehearsed d, .missing, host⟩, traffic)).1 =
          (some report, start.after report.elapsed) ∧
        c.RunsRespelled case bed start (⟨.rehearsed d, .missing, host⟩, traffic)
          (fun s s' => Rehearsal.SameButLog s.1 s'.1 ∧ s'.2 = s.2) nameOnly withoutPaths ∧
        Transcript.AsksOnly (I := bench) (BenchRequest.Spells card nameOnly withoutPaths)
          (run.exchangesWith bed start (⟨.rehearsed d, .missing, host⟩, traffic)) := by
  have hsame : Rehearsal.SameButLog ⟨.rehearsed d, .missing, host⟩
      ⟨.rehearsed d, .missing, host⟩ :=
    ⟨d, .missing, host, d.calls, rfl, rfl⟩
  have hbeside : ∀ nameOnly withoutPaths,
      c.RunsRespelled case (Rehearsal.driving generator) start
        (⟨.rehearsed d, .missing, host⟩, traffic)
        (fun s s' => Rehearsal.SameButLog s.1 s'.1 ∧ s'.2 = s.2) nameOnly withoutPaths :=
    runsRespelled_of_pathBlind (Rehearsal.pathBlind_driving generator) c case start
      ⟨hsame, rfl⟩
  obtain ⟨report, hreport, -, -⟩ := runCase_bounded (c.addressing false false) case
    (Rehearsal.driving generator) (⟨.rehearsed d, .missing, host⟩, traffic) start hcheck hclock
  obtain ⟨result, hcase, -⟩ := exists_caseRun_answeredBy (c.addressing false false) case
    (Rehearsal.driving generator) (⟨.rehearsed d, .missing, host⟩, traffic) start
  obtain ⟨card, hnames⟩ := hcase.exists_card
  refine ⟨card, report, fun nameOnly withoutPaths => ⟨?_, hbeside nameOnly withoutPaths, ?_⟩⟩
  · rw [(hbeside nameOnly withoutPaths).result, hreport]
  · rw [(hbeside nameOnly withoutPaths).calls]
    intro exchange hmem
    obtain ⟨plain, hplain, rfl⟩ := List.mem_map.mp hmem
    exact Exchange.spells_respelled nameOnly withoutPaths (hnames plain hplain)

/-- The line card case asks this device twice about a card, with a reboot and a status query,
and fails on the ingress counter that the device does not report. -/
theorem modularChassis_respelled :
    pinnedCampaign.configuration.check = .ok () ∧ pinnedCampaign.DeadlinesFit ⟨0⟩ .linecard ∧
      ∃ report : CaseReport,
        report.verdict = .failed
          (.during "read counters of et-1/0/0" (.decode "et-1/0/0" "in-pkts not reported")) ∧
        ∀ nameOnly withoutPaths,
          let run := (pinnedCampaign.addressing nameOnly withoutPaths).runCase .linecard
          let bed := Rehearsal.driving ⟨RehearsedGenerator.start, RehearsedGenerator.stop⟩
          (run.answeredBy bed ⟨0⟩ (⟨.rehearsed .modularChassis, .missing, {}⟩, {})).1 =
              (some report, (⟨0⟩ : Instant).after report.elapsed) ∧
            (run.exchangesWith bed ⟨0⟩ (⟨.rehearsed .modularChassis, .missing, {}⟩, {})).filterMap
                (fun exchange => BenchRequest.cardPaths exchange.question) =
              [[ComponentPath.spelling "FPC1" nameOnly],
                if withoutPaths then [] else [ComponentPath.spelling "FPC1" nameOnly]] := by
  have hcheck : pinnedCampaign.configuration.check = .ok () := rfl
  have hlast : (⟨0⟩ : Instant).HasDeadline (pinnedCampaign.timeLimit .linecard) := by
    decide +kernel
  have hclock := pinnedCampaign.deadlinesFit_of_hasDeadline hlast
  obtain ⟨card, report, hall⟩ := deviations_respell_only pinnedCampaign .linecard
    .modularChassis ⟨RehearsedGenerator.start, RehearsedGenerator.stop⟩ {} {} ⟨0⟩ hcheck hclock
  have hverdict := congrArg (fun result => result.1.map CaseReport.verdict) (hall false false).1
  refine ⟨hcheck, hclock, report, (Option.some.inj hverdict).symm, ?_⟩
  intro nameOnly withoutPaths
  refine ⟨(hall nameOnly withoutPaths).1, ?_⟩
  cases nameOnly <;> cases withoutPaths <;> rfl

end Campaign

end CardReboot
