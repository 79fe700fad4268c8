import CardReboot.Proofs.CardChoice
import CardReboot.Proofs.DropCheck

/-!
# The runs of a case

Every case is a preparation, one reboot request and a recovery.  The preparation
picks the card and leaves every card alone; the recovery asks about this reboot
only.  So a case goes one of three ways: it ends before the request, the request is
refused, or it is accepted and the recovery follows.
-/

namespace CardReboot

namespace Step

variable {α β : Type}

/-- Whatever is answered, the step reboots nothing and asks about no reboot. -/
abbrev IsQuiet (p : Step α) : Prop :=
  p.Guarantees BenchRequest.IsQuiet (fun _ => True) fun _ => True

theorem IsQuiet.bind
    {p : Step α} {f : α → Step β} (hp : p.IsQuiet) (hf : ∀ a, (f a).IsQuiet) :
    (p >>= f).IsQuiet :=
  guarantees_bind hp fun a _ => hf a

theorem isQuiet_pure (a : α) : (pure a : Step α).IsQuiet :=
  guarantees_pure trivial

theorem isQuiet_asked
    {d : Dialogue bench (Outcome α)}
    (hd : d.Guarantees (I := bench) BenchRequest.IsQuiet fun _ => True) :
    (asked d).IsQuiet := by
  intro start transcript result stop hrun
  obtain ⟨outcome, houtcome, -, -⟩ := runs_asked_iff.mp hrun
  exact ⟨(hd transcript outcome houtcome).1, fun _ _ => trivial, fun _ _ => trivial⟩

theorem isQuiet_ofOutcome (outcome : Outcome α) : (ofOutcome outcome).IsQuiet := by
  intro start transcript result stop hrun
  obtain ⟨rfl, -, -⟩ := runs_ofOutcome_iff.mp hrun
  exact ⟨Transcript.asksOnly_nil, fun _ _ => trivial, fun _ _ => trivial⟩

theorem isQuiet_ofSelection (outcome : Outcome (Selection α)) :
    (ofSelection outcome).IsQuiet := by
  intro start transcript result stop hrun
  obtain ⟨rfl, -, -⟩ := runs_ofSelection_iff.mp hrun
  exact ⟨Transcript.asksOnly_nil, fun _ _ => trivial, fun _ _ => trivial⟩

end Step

namespace Campaign

variable (c : Campaign)

/-! ## The parts of a case -/

/-- Picks the card to reboot and notes which interfaces are up before. -/
def prepare : RebootCase → Step (String × Snapshot)
  | .standbyController => do
      let inventory ← Step.asked (Inventory.fetch .controllerCard)
      let pair ← Step.ofSelection
        (inventory.selectControllers c.configuration.topology.controllerCards)
      return (pair.standby.name, .empty)
  | .linecard => do
      let inventory ← Step.asked (Inventory.fetch .linecard)
      let pinned ← Step.ofOutcome c.pinnedLinecard
      let card ← Step.ofSelection
        (inventory.selectLinecard c.configuration.topology.linecards pinned)
      let pre ← Step.asked (captureBefore c.scope)
      return (card.name, pre)
  | .fabric =>
      if c.configuration.deviations.fabricRebootUnsupported then
        Step.skip "fabric component reboot is unsupported on this platform"
      else do
        let inventory ← Step.asked (Inventory.fetch .fabric)
        let card ← Step.ofSelection (inventory.selectFabric c.configuration.topology.fabrics)
        let pre ← Step.asked (captureBefore c.scope)
        return (card.name, pre)

def finish (card : String) : Step Unit := do
  if c.configuration.vendor = .juniper then
    if c.hasGenerator then c.checkDrops card
    else Step.skip "traffic-drop check needs a traffic generator"

/-- Waits until the card and the interfaces are back. -/
def recover (card : String) (pre : Snapshot) : RebootCase → Step Unit
  | .standbyController => do
      let timing := c.configuration.timing
      Step.pause (.ofSeconds timing.controllerSettle)
      let _ ← Step.timed (c.awaitState "redundant role" card
        (.ofSeconds timing.controllerBoot) fun state => state.role.isSome)
  | .linecard => do
      let timing := c.configuration.timing
      let boot := Duration.ofSeconds timing.linecardBoot
      Step.pause (.ofSeconds timing.linecardSettle)
      let _ ← Step.timed (c.awaitReboot (c.target card) boot)
      let _ ← Step.timed (c.awaitState "removable flag" card boot
        fun state => state.removable == some true)
      let _ ← Step.timed (c.awaitInterfaces (.ofSeconds timing.linecardRecovery) pre)
      c.finish card
  | .fabric => do
      let timing := c.configuration.timing
      let boot := Duration.ofSeconds timing.fabricBoot
      let _ ← Step.timed (c.awaitReboot (c.target card) boot)
      let _ ← Step.timed (c.awaitState "oper-status" card boot
        fun state => state.status == some .active)
      let _ ← Step.timed (c.awaitInterfaces (.ofSeconds timing.fabricRecovery) pre)

theorem steps_eq (case : RebootCase) :
    c.steps case =
      c.prepare case >>= fun found =>
        Step.asked (issueReboot (c.target found.1)) >>= fun _ =>
          c.recover found.1 found.2 case := by
  cases case with
  | standbyController =>
      simp only [steps, standbyController, prepare, recover, bind_assoc, pure_bind]
  | linecard =>
      simp only [steps, linecard, prepare, recover, finish, bind_assoc, pure_bind]
  | fabric =>
      simp only [steps, fabric, prepare, recover]
      split
      · simp only [Step.skip_bind]
      · simp only [bind_assoc, pure_bind]

/-! ## The preparation -/

/-- What a case knows before its reboot request: the inventory it has just read picks
the card, and where it has to see the interfaces back, one pass has shown which are up. -/
inductive Prepared : RebootCase → String → Snapshot → Transcript bench → Prop
  | standbyController
      {inventory : Inventory} {pair : ControllerPair} {reading : Transcript bench}
      (hread : inventory.IsReadIn .controllerCard reading)
      (hselect : inventory.selectControllers c.configuration.topology.controllerCards =
        .ok (.selected pair))
      (hstandby : inventory.withRole .secondary = [pair.standby]) :
      Prepared .standbyController pair.standby.name .empty reading
  | linecard
      {inventory : Inventory} {pinned : Option String} {card : ComponentDescriptor}
      {pre : Snapshot} {reading pass : Transcript bench}
      (hread : inventory.IsReadIn .linecard reading)
      (hpinned : c.pinnedLinecard = .ok pinned)
      (hselect : inventory.selectLinecard c.configuration.topology.linecards pinned =
        .ok (.selected card))
      (hport : c.configuration.vendor = .juniper →
        ∃ port, c.configuration.topology.ports.head? = some port ∧
          Port.linecardOf port = .ok card.name)
      (htaken : pre.TakenIn c.scope pass) :
      Prepared .linecard card.name pre (reading ++ pass)
  | fabric
      {inventory : Inventory} {card : ComponentDescriptor}
      {pre : Snapshot} {reading pass : Transcript bench}
      (hread : inventory.IsReadIn .fabric reading)
      (hselect : inventory.selectFabric c.configuration.topology.fabrics =
        .ok (.selected card))
      (htaken : pre.TakenIn c.scope pass) :
      Prepared .fabric card.name pre (reading ++ pass)

variable {c}

/-- On the vendor whose ports tell their line card, that is the one that is picked. -/
theorem exists_port_of_selectLinecard
    {inventory : Inventory} {pinned : Option String} {card : ComponentDescriptor}
    (hpinned : c.pinnedLinecard = .ok pinned)
    (hselect : inventory.selectLinecard c.configuration.topology.linecards pinned =
      .ok (.selected card))
    (hvendor : c.configuration.vendor = .juniper) :
    ∃ port, c.configuration.topology.ports.head? = some port ∧
      Port.linecardOf port = .ok card.name := by
  unfold pinnedLinecard at hpinned
  rw [if_pos hvendor] at hpinned
  obtain ⟨port, hport, hnamed⟩ := exists_of_bind_eq_ok hpinned
  obtain ⟨name, hname, hend⟩ := exists_of_bind_eq_ok hnamed
  cases hend
  rw [Inventory.name_eq_of_selectLinecard hselect]
  exact ⟨port, c.ingressPort_eq_ok_iff.mp hport, hname⟩

theorem isReadIn_of_runs_fetch
    {type : ComponentType} {start stop : Instant} {transcript : Transcript bench}
    {inventory : Inventory}
    (hrun : (Step.asked (Inventory.fetch type)).Runs start transcript
      (some (.ok inventory)) stop) :
    inventory.IsReadIn type transcript := by
  obtain ⟨hfetched, -⟩ := Step.runs_asked_ok_iff.mp hrun
  exact Inventory.isReadIn_of_fetch_produces hfetched

theorem takenIn_of_runs_captureBefore
    {scope : InterfaceScope} {card : String} {start stop : Instant}
    {transcript : Transcript bench} {found : String × Snapshot}
    (hrun : (Step.asked (captureBefore scope) >>= fun pre => pure (card, pre)).Runs start
      transcript (some (.ok found)) stop) :
    found.1 = card ∧ found.2.TakenIn scope transcript := by
  obtain ⟨pass, _, pre, _, rfl, hcapture, hend⟩ := Step.runs_bind_ok_iff.mp hrun
  obtain ⟨hcaptured, -⟩ := Step.runs_asked_ok_iff.mp hcapture
  obtain ⟨rfl, hfound, -⟩ := Step.runs_pure_iff.mp hend
  cases hfound
  rw [List.append_nil]
  exact ⟨rfl, Snapshot.takenIn_of_captureBefore_produces hcaptured⟩

theorem prepared_of_runs
    {case : RebootCase} {start stop : Instant} {transcript : Transcript bench}
    {found : String × Snapshot}
    (hrun : (c.prepare case).Runs start transcript (some (.ok found)) stop) :
    c.Prepared case found.1 found.2 transcript := by
  cases case with
  | standbyController =>
      rw [prepare] at hrun
      obtain ⟨reading, _, inventory, _, rfl, hfetch, hrest⟩ := Step.runs_bind_ok_iff.mp hrun
      obtain ⟨_, _, pair, _, rfl, hpair, hend⟩ := Step.runs_bind_ok_iff.mp hrest
      obtain ⟨rfl, hselect, rfl⟩ := Step.runs_ofSelection_ok_iff.mp hpair
      obtain ⟨rfl, hfound, -⟩ := Step.runs_pure_iff.mp hend
      cases hfound
      have hread := isReadIn_of_runs_fetch hfetch
      have hstandby := Inventory.withRole_eq_of_selectControllers hselect
      rw [hread.ofType_eq] at hstandby
      rw [List.append_nil, List.append_nil]
      exact .standbyController hread hselect hstandby
  | linecard =>
      rw [prepare] at hrun
      obtain ⟨reading, _, inventory, _, rfl, hfetch, hpin⟩ := Step.runs_bind_ok_iff.mp hrun
      obtain ⟨_, _, pinned, _, rfl, hpinning, hpick⟩ := Step.runs_bind_ok_iff.mp hpin
      obtain ⟨_, pass, card, _, rfl, hcard, hcapture⟩ := Step.runs_bind_ok_iff.mp hpick
      obtain ⟨rfl, hpinned, rfl⟩ := Step.runs_ofOutcome_ok_iff.mp hpinning
      obtain ⟨rfl, hselect, rfl⟩ := Step.runs_ofSelection_ok_iff.mp hcard
      obtain ⟨hname, htaken⟩ := takenIn_of_runs_captureBefore hcapture
      have hread := isReadIn_of_runs_fetch hfetch
      have hport := exists_port_of_selectLinecard hpinned hselect
      rw [hname, List.nil_append, List.nil_append]
      exact .linecard hread hpinned hselect hport htaken
  | fabric =>
      rw [prepare] at hrun
      split at hrun
      · obtain ⟨-, hend, -⟩ := Step.runs_skip_iff.mp hrun
        cases hend
      · obtain ⟨reading, _, inventory, _, rfl, hfetch, hpick⟩ := Step.runs_bind_ok_iff.mp hrun
        obtain ⟨_, pass, card, _, rfl, hcard, hcapture⟩ := Step.runs_bind_ok_iff.mp hpick
        obtain ⟨rfl, hselect, rfl⟩ := Step.runs_ofSelection_ok_iff.mp hcard
        obtain ⟨hname, htaken⟩ := takenIn_of_runs_captureBefore hcapture
        have hread := isReadIn_of_runs_fetch hfetch
        rw [hname, List.nil_append]
        exact .fabric hread hselect htaken

theorem isQuiet_prepare (case : RebootCase) : (c.prepare case).IsQuiet := by
  have hcapture := Step.isQuiet_asked (Snapshot.guarantees_captureBefore c.scope)
  cases case with
  | standbyController =>
      rw [prepare]
      have hfetch := Step.isQuiet_asked (Inventory.guarantees_fetch .controllerCard)
      apply hfetch.bind
      intro inventory
      apply (Step.isQuiet_ofSelection _).bind
      intro pair
      exact Step.isQuiet_pure _
  | linecard =>
      rw [prepare]
      have hfetch := Step.isQuiet_asked (Inventory.guarantees_fetch .linecard)
      apply hfetch.bind
      intro inventory
      apply (Step.isQuiet_ofOutcome _).bind
      intro pinned
      apply (Step.isQuiet_ofSelection _).bind
      intro card
      apply hcapture.bind
      intro pre
      exact Step.isQuiet_pure _
  | fabric =>
      rw [prepare]
      split
      · exact Step.guarantees_skip trivial
      · have hfetch := Step.isQuiet_asked (Inventory.guarantees_fetch .fabric)
        apply hfetch.bind
        intro inventory
        apply (Step.isQuiet_ofSelection _).bind
        intro card
        apply hcapture.bind
        intro pre
        exact Step.isQuiet_pure _

/-! ## The recovery -/

/-- The question about the reboot was answered: it is over. -/
def IsRebootOver (request : StatusRequest) (transcript : Transcript bench) : Prop :=
  ∃ status, transcript = [⟨.rebootStatus request, .ok status⟩] ∧ status.active = false

def IsStateOf
    (card : String) (accepted : ComponentState → Prop) (transcript : Transcript bench) :
    Prop :=
  ∃ state, transcript = [⟨.componentState card, .ok state⟩] ∧ accepted state

/-- One pass has found every interface up that was up before. -/
def IsRecoveryOf
    (pre : Snapshot) (scope : InterfaceScope) (transcript : Transcript bench) : Prop :=
  ∃ post : Snapshot, post.TakenIn scope transcript ∧ pre.up ⊆ post.up

variable (c)

def interfaceSigns (pre : Snapshot) : List (Transcript bench → Prop) :=
  if pre.up = [] then [] else [IsRecoveryOf pre c.scope]

/-- What a case has to see after the reboot of its card, in this order. -/
def recoverySigns (card : String) (pre : Snapshot) :
    RebootCase → List (Transcript bench → Prop)
  | .standbyController =>
      [fun transcript =>
          transcript = [⟨.pause (.ofSeconds c.configuration.timing.controllerSettle), ()⟩],
        IsStateOf card fun state => state.role.isSome = true]
  | .linecard =>
      IsRebootOver (c.statusRequest (c.target card)) ::
        (IsStateOf card fun state => state.removable = some true) ::
          (c.interfaceSigns pre ++
            if c.configuration.vendor = .juniper then [c.IsCleanWindow card] else [])
  | .fabric =>
      IsRebootOver (c.statusRequest (c.target card)) ::
        (IsStateOf card fun state => state.status = some .active) :: c.interfaceSigns pre

theorem shows_awaitReboot (target : RebootTarget) (limit : Duration) :
    (Step.timed (c.awaitReboot target limit)).Shows
      [IsRebootOver (c.statusRequest target)] := by
  apply Step.shows_timed
  intro start transcript report stop hrun
  obtain ⟨before, status, rfl, hinactive⟩ := c.exists_of_runs_awaitReboot hrun
  exact Transcript.showsInOrder_singleton (I := bench) _ ⟨status, rfl, hinactive⟩

theorem shows_awaitState
    {accept : ComponentState → Bool} {accepted : ComponentState → Prop}
    (haccept : ∀ state, accept state = true → accepted state)
    (what card : String) (limit : Duration) :
    (Step.timed (c.awaitState what card limit accept)).Shows [IsStateOf card accepted] := by
  apply Step.shows_timed
  intro start transcript state stop hrun
  obtain ⟨before, rfl, hstate⟩ := c.exists_of_runs_awaitState hrun
  exact Transcript.showsInOrder_singleton (I := bench) _ ⟨state, rfl, haccept state hstate⟩

theorem shows_awaitInterfaces (limit : Duration) (pre : Snapshot) :
    (Step.timed (c.awaitInterfaces limit pre)).Shows (c.interfaceSigns pre) := by
  unfold interfaceSigns
  by_cases hpre : pre.up = []
  · rw [if_pos hpre]
    exact Step.shows_nothing _
  · rw [if_neg hpre]
    apply Step.shows_timed
    intro start transcript post stop hrun
    obtain ⟨before, last, rfl, htaken, hsubset⟩ := Recovery.exists_of_runs_await hrun hpre
    exact Transcript.showsInOrder_singleton (I := bench) _ ⟨post, htaken, hsubset⟩

theorem shows_pause (d : Duration) :
    (Step.pause d).Shows [fun transcript => transcript = [⟨.pause d, ()⟩]] := by
  intro start transcript done stop hrun
  obtain ⟨rfl, -, -⟩ := Step.runs_pause_iff.mp hrun
  exact Transcript.showsInOrder_singleton (I := bench) [] rfl

theorem shows_finish (card : String) :
    (c.finish card).Shows
      (if c.configuration.vendor = .juniper then [c.IsCleanWindow card] else []) := by
  unfold finish
  by_cases hvendor : c.configuration.vendor = .juniper
  · rw [if_pos hvendor, if_pos hvendor]
    by_cases hgenerator : c.hasGenerator = true
    · rw [if_pos hgenerator]
      exact c.shows_checkDrops card
    · rw [if_neg hgenerator]
      exact Step.shows_skip _
  · rw [if_neg hvendor, if_neg hvendor]
    exact Step.shows_nothing _

theorem shows_recover (card : String) (pre : Snapshot) (case : RebootCase) :
    (c.recover card pre case).Shows (c.recoverySigns card pre case) := by
  cases case with
  | standbyController =>
      rw [recover]
      have hstate :
          (Step.timed (c.awaitState "redundant role" card
            (.ofSeconds c.configuration.timing.controllerBoot)
            fun state => state.role.isSome)).Shows
            [IsStateOf card fun state => state.role.isSome = true] :=
        c.shows_awaitState (fun _ haccept => haccept) _ _ _
      have hrest := Step.shows_bind hstate fun _ => Step.shows_nothing (pure ())
      exact Step.shows_bind (shows_pause _) fun _ => hrest
  | linecard =>
      rw [recover]
      have hreboot := c.shows_awaitReboot (c.target card)
        (.ofSeconds c.configuration.timing.linecardBoot)
      have hstate :
          (Step.timed (c.awaitState "removable flag" card
            (.ofSeconds c.configuration.timing.linecardBoot)
            fun state => state.removable == some true)).Shows
            [IsStateOf card fun state => state.removable = some true] :=
        c.shows_awaitState (fun _ haccept => eq_of_beq haccept) _ _ _
      have hinterfaces := c.shows_awaitInterfaces
        (.ofSeconds c.configuration.timing.linecardRecovery) pre
      have hdrops := c.shows_finish card
      have hrest := Step.shows_bind hinterfaces fun _ => hdrops
      have hwaits := Step.shows_bind hreboot fun _ => Step.shows_bind hstate fun _ => hrest
      have hsettle := Step.shows_nothing
        (Step.pause (.ofSeconds c.configuration.timing.linecardSettle))
      have hwhole := Step.shows_bind hsettle fun _ => hwaits
      exact hwhole
  | fabric =>
      rw [recover]
      have hreboot := c.shows_awaitReboot (c.target card)
        (.ofSeconds c.configuration.timing.fabricBoot)
      have hstate :
          (Step.timed (c.awaitState "oper-status" card
            (.ofSeconds c.configuration.timing.fabricBoot)
            fun state => state.status == some .active)).Shows
            [IsStateOf card fun state => state.status = some .active] :=
        c.shows_awaitState (fun _ haccept => eq_of_beq haccept) _ _ _
      have hinterfaces := c.shows_awaitInterfaces
        (.ofSeconds c.configuration.timing.fabricRecovery) pre
      have hrest := Step.shows_bind hinterfaces fun _ => Step.shows_nothing (pure ())
      rw [List.append_nil] at hrest
      have hwaits := Step.shows_bind hreboot fun _ => Step.shows_bind hstate fun _ => hrest
      exact hwaits

theorem guarantees_finish
    (hport : c.configuration.vendor = .juniper →
      ∃ port, c.configuration.topology.ports.head? = some port)
    (card : String) (request : StatusRequest) :
    (c.finish card).Guarantees (BenchRequest.IsFollowUp request) Exit.IsLate
      fun _ => True := by
  unfold finish
  by_cases hvendor : c.configuration.vendor = .juniper
  · rw [if_pos hvendor]
    obtain ⟨port, hfirst⟩ := hport hvendor
    by_cases hgenerator : c.hasGenerator = true
    · rw [if_pos hgenerator]
      exact c.guarantees_checkDrops (c.ingressPort_eq_ok_iff.mpr hfirst) card request
    · rw [if_neg hgenerator]
      exact Step.guarantees_skip rfl
  · rw [if_neg hvendor]
    exact Step.guarantees_pure trivial

/-- Whatever is answered, a recovery asks about the reboot of its card only, and it
leaves the case in one of the ways that are left after a reboot. -/
theorem guarantees_recover
    (card : String) (pre : Snapshot) {case : RebootCase}
    (hport : case = .linecard → c.configuration.vendor = .juniper →
      ∃ port, c.configuration.topology.ports.head? = some port) :
    (c.recover card pre case).Guarantees
      (BenchRequest.IsFollowUp (c.statusRequest (c.target card))) Exit.IsLate
      fun _ => True := by
  cases case with
  | standbyController =>
      rw [recover]
      refine Step.guarantees_bind (Step.guarantees_pause trivial) fun _ _ => ?_
      refine Step.guarantees_bind
        (Step.guarantees_timed (c.isFollowUp_awaitState _ _ _ _)) fun _ _ => ?_
      exact Step.guarantees_pure trivial
  | linecard =>
      rw [recover]
      refine Step.guarantees_bind (Step.guarantees_pause trivial) fun _ _ => ?_
      refine Step.guarantees_bind
        (Step.guarantees_timed (c.isFollowUp_awaitReboot _ _)) fun _ _ => ?_
      refine Step.guarantees_bind
        (Step.guarantees_timed (c.isFollowUp_awaitState _ _ _ _)) fun _ _ => ?_
      refine Step.guarantees_bind
        (Step.guarantees_timed (Recovery.isFollowUp_await _ _ _ _ _)) fun _ _ => ?_
      exact c.guarantees_finish (hport rfl) card _
  | fabric =>
      rw [recover]
      refine Step.guarantees_bind
        (Step.guarantees_timed (c.isFollowUp_awaitReboot _ _)) fun _ _ => ?_
      refine Step.guarantees_bind
        (Step.guarantees_timed (c.isFollowUp_awaitState _ _ _ _)) fun _ _ => ?_
      refine Step.guarantees_bind
        (Step.guarantees_timed (Recovery.isFollowUp_await _ _ _ _ _)) fun _ _ => ?_
      exact Step.guarantees_pure trivial

/-! ## The whole case -/

/-- How a case can go, with its transcript and its result. -/
inductive CaseRun (case : RebootCase) :
    Transcript bench → Option (Except Exit Unit) → Prop
  | unprepared
      {before : Transcript bench} {result : Option (Except Exit Unit)}
      (hquiet : Transcript.AsksOnly (I := bench) BenchRequest.IsQuiet before)
      (hresult : result ≠ some (.ok ())) :
      CaseRun case before result
  | refused
      {before : Transcript bench} {card : String} {pre : Snapshot}
      (hquiet : Transcript.AsksOnly (I := bench) BenchRequest.IsQuiet before)
      (hprepared : c.Prepared case card pre before) (e : DeviceError) :
      CaseRun case (before ++ [⟨.reboot (c.target card), .error e⟩])
        (some (.error (.fail (rebootFailure card e))))
  | rebooted
      {before after : Transcript bench} {result : Option (Except Exit Unit)}
      {card : String} {pre : Snapshot}
      (hquiet : Transcript.AsksOnly (I := bench) BenchRequest.IsQuiet before)
      (hprepared : c.Prepared case card pre before)
      (hfollow : Transcript.AsksOnly (I := bench)
        (BenchRequest.IsFollowUp (c.statusRequest (c.target card))) after)
      (hlate : ∀ exit, result = some (.error exit) → exit.IsLate)
      (hshows : result = some (.ok ()) →
        Transcript.ShowsInOrder (I := bench) (c.recoverySigns card pre case) after) :
      CaseRun case (before ++ ⟨.reboot (c.target card), .ok ()⟩ :: after) result

theorem exists_of_runs_issueReboot
    {target : RebootTarget} {start stop : Instant} {transcript : Transcript bench}
    {result : Option (Except Exit Unit)}
    (hrun : (Step.asked (issueReboot target)).Runs start transcript result stop) :
    ∃ answer, transcript = [⟨.reboot target, answer⟩] ∧
      match answer with
      | .ok () => result = some (.ok ())
      | .error e => result = some (.error (.fail (rebootFailure target.component e))) := by
  obtain ⟨outcome, hissue, rfl, rfl⟩ := Step.runs_asked_iff.mp hrun
  obtain ⟨answer, rest, rfl, hrest⟩ := Dialogue.produces_question_bind_iff.mp hissue
  refine ⟨answer, ?_⟩
  cases answer with
  | error e =>
      obtain ⟨rfl, rfl⟩ := Dialogue.produces_done_iff.mp hrest
      exact ⟨rfl, rfl⟩
  | ok _ =>
      obtain ⟨rfl, rfl⟩ := Dialogue.produces_done_iff.mp hrest
      exact ⟨rfl, rfl⟩

variable {c}

theorem Prepared.exists_port
    {case : RebootCase} {card : String} {pre : Snapshot} {transcript : Transcript bench}
    (hprepared : c.Prepared case card pre transcript) (hcase : case = .linecard)
    (hvendor : c.configuration.vendor = .juniper) :
    ∃ port, c.configuration.topology.ports.head? = some port := by
  cases hprepared with
  | standbyController => cases hcase
  | fabric => cases hcase
  | linecard _ _ _ hport _ =>
      obtain ⟨port, hfirst, -⟩ := hport hvendor
      exact ⟨port, hfirst⟩

theorem caseRun_of_runs
    {case : RebootCase} {start stop : Instant} {transcript : Transcript bench}
    {result : Option (Except Exit Unit)}
    (hrun : (c.steps case).Runs start transcript result stop) :
    c.CaseRun case transcript result := by
  rw [steps_eq] at hrun
  have hquiet := isQuiet_prepare (c := c) case
  rcases Step.runs_bind_iff.mp hrun with
    ⟨before, rest, found, _, rfl, hprepare, hrest⟩ | ⟨exit, hexit, rfl⟩ | ⟨hnone, rfl⟩
  · have hprepared := prepared_of_runs hprepare
    have hasks := (hquiet _ _ _ _ hprepare).1
    rcases Step.runs_bind_iff.mp hrest with
      ⟨_, after, _, _, rfl, hissue, hrecover⟩ | ⟨exit, hissue, rfl⟩ | ⟨hissue, rfl⟩
    · obtain ⟨answer, rfl, hanswer⟩ := exists_of_runs_issueReboot hissue
      cases answer with
      | error e => cases hanswer
      | ok _ =>
          have hrecovery :=
            c.guarantees_recover found.1 found.2 hprepared.exists_port _ _ _ _ hrecover
          refine .rebooted hasks hprepared hrecovery.1 hrecovery.2.1 ?_
          rintro rfl
          exact c.shows_recover found.1 found.2 case _ _ _ _ hrecover
    · obtain ⟨answer, rfl, hanswer⟩ := exists_of_runs_issueReboot hissue
      cases answer with
      | error e =>
          cases hanswer
          exact .refused hasks hprepared e
      | ok _ => cases hanswer
    · obtain ⟨answer, -, hanswer⟩ := exists_of_runs_issueReboot hissue
      cases answer <;> cases hanswer
  · exact .unprepared (hquiet _ _ _ _ hexit).1 (by simp)
  · exact .unprepared (hquiet _ _ _ _ hnone).1 (by simp)

theorem exists_caseRun_of_runs_runCase
    {case : RebootCase} {start stop : Instant} {transcript : Transcript bench}
    {report : Option CaseReport}
    (hrun : (c.runCase case).Runs start transcript report stop) :
    ∃ result, c.CaseRun case transcript result ∧
      report.map CaseReport.verdict = result.map verdict := by
  unfold runCase at hrun
  have hsteps := Timed.runs_now_bind_iff.mp hrun
  rcases Timed.runs_bind_iff.mp hsteps with
    ⟨before, after, result, _, rfl, hcase, hreport⟩ | ⟨hcase, rfl⟩
  · have hend := Timed.runs_now_bind_iff.mp hreport
    obtain ⟨rfl, rfl, -⟩ := Timed.runs_pure_iff.mp hend
    rw [List.append_nil]
    exact ⟨some result, caseRun_of_runs hcase, rfl⟩
  · exact ⟨none, caseRun_of_runs hcase, rfl⟩

theorem exists_caseRun_answeredBy
    {σ : Type} (c : Campaign) (case : RebootCase) (device : Responder bench σ) (state : σ)
    (start : Instant) :
    ∃ result, c.CaseRun case ((c.runCase case).exchangesWith device start state) result ∧
      ((c.runCase case).answeredBy device start state).1.1.map CaseReport.verdict =
        result.map verdict := by
  have hrun := Timed.runs_answeredBy (c.runCase case) device start state
  exact exists_caseRun_of_runs_runCase hrun

end Campaign

end CardReboot
