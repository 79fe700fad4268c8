import CardReboot.Rehearsal.Bench

/-!
# Scripts and what comes in between

A rehearsed device is made of parts that do not share anything: each script is moved on
by its own reads, each queue by its own kind of request, and the log by every request it
lists.  So an answer is known from the script or the queue and from the number of earlier
requests that used it, whatever came in between and whatever the answers were.
-/

namespace CardReboot

/-! ## One question after the other -/

/-- The state of a responder after these questions. -/
def Responder.after {I : Interface} {σ : Type} (r : Responder I σ) :
    List I.Question → σ → σ
  | [], state => state
  | question :: rest, state => r.after rest (r.reply question state).2

/-- An answer in a dialogue depends on the questions before it and on nothing else. -/
theorem Dialogue.answer_of_transcript
    {I : Interface} {α σ : Type} (r : Responder I σ) (d : Dialogue I α) {state : σ}
    {before after : Transcript I} {e : Exchange I}
    (hsplit : d.transcript r state = before ++ e :: after) :
    e.answer = (r.reply e.question (r.after before.questions state)).1 := by
  induction d generalizing state before with
  | done value => simp [transcript] at hsplit
  | ask question next ih =>
      cases before with
      | nil =>
          obtain ⟨rfl, -⟩ := List.cons.inj hsplit
          rfl
      | cons first before =>
          obtain ⟨rfl, hrest⟩ := List.cons.inj hsplit
          have hlater := ih _ hrest
          exact hlater

theorem Dialogue.run_eq_after
    {I : Interface} {α σ : Type} (d : Dialogue I α) (r : Responder I σ) (state : σ) :
    (d.run r state).2 = r.after (d.transcript r state).questions state := by
  induction d generalizing state with
  | done value => rfl
  | ask question next ih => exact ih _ _

namespace AnswerScript

variable {α : Type}

theorem read_after_of_pos
    (s : AnswerScript α) (reads : Nat) (hpos : 0 < s.values.length) :
    (s.after reads).read.1 = some s.values[min reads (s.values.length - 1)] := by
  rw [read_after, List.getElem?_eq_getElem]

end AnswerScript

/-- A card that reboots reads as before once, as during the reboot so many times, and
from then on as after it. -/
theorem RehearsedCard.read_rebooting
    (card : RehearsedCard) (reads : Nat) (during after : ComponentState) (earlier : Nat) :
    ((card.rebooting reads during after).states.after earlier).read.1 =
      some (if earlier = 0 then card.firstState
        else if earlier ≤ reads then during
        else after) := by
  have hlength : (card.rebooting reads during after).states.values.length - 1 = reads + 1 := by
    simp [rebooting]
  rw [AnswerScript.read_after, hlength]
  cases earlier with
  | zero => simp [rebooting]
  | succ earlier =>
      by_cases hduring : earlier < reads
      · have hplace : min (earlier + 1) (reads + 1) = earlier + 1 := by omega
        have hle : earlier + 1 ≤ reads := hduring
        simp [rebooting, hplace, hle, hduring, List.getElem?_append]
      · have hplace : min (earlier + 1) (reads + 1) = reads + 1 := by omega
        have hgt : ¬ earlier + 1 ≤ reads := hduring
        simp [rebooting, hplace, hgt]

/-! ## The requests of one kind -/

namespace BenchRequest

def rebootTarget? : BenchRequest → Option RebootTarget
  | .reboot target => some target
  | _ => none

def statusRequest? : BenchRequest → Option StatusRequest
  | .rebootStatus request => some request
  | _ => none

def consoleCommand? : BenchRequest → Option String
  | .console command => some command
  | _ => none

def cardRead? : BenchRequest → Option String
  | .componentState name => some name
  | _ => none

def counterRead? : BenchRequest → Option String
  | .ingressPackets name => some name
  | _ => none

end BenchRequest

open BenchRequest in
/-- The log with these requests behind it, each kind in its order. -/
def CallLog.extendedBy (log : CallLog) (requests : List BenchRequest) : CallLog where
  reboots := log.reboots ++ requests.filterMap rebootTarget?
  statusRequests := log.statusRequests ++ requests.filterMap statusRequest?
  commands := log.commands ++ requests.filterMap consoleCommand?
  componentReads := log.componentReads ++ requests.filterMap cardRead?
  counterReads := log.counterReads ++ requests.filterMap counterRead?

theorem CallLog.extendedBy_nil (log : CallLog) : log.extendedBy [] = log := by
  simp [extendedBy]

/-! ## One request -/

namespace RehearsedDevice

/-- The card that reads under a name are about: the first that has it. -/
def firstCard? (d : RehearsedDevice) (name : String) : Option RehearsedCard :=
  d.cards.find? fun card => card.name = name

/-- What a status query finds when no answer is left for it. -/
def lastStatus (d : RehearsedDevice) : Answered RebootStatus :=
  if d.statusUnimplemented then
    .error (.unimplemented "RebootStatus" "unknown method RebootStatus")
  else .ok .finished

def afterRequest (d : RehearsedDevice) : BenchRequest → RehearsedDevice
  | .reboot target => (d.reboot target).2
  | .rebootStatus request => (d.rebootStatus request).2
  | .componentState name => (d.componentState name).2
  | .interfaceStatus name => (d.interfaceStatus name).2
  | .ingressPackets name => (d.ingressPackets name).2
  | .console command => (d.console command).2
  | .componentNames _ | .interfaceNames | .startTraffic | .stopTraffic | .pause _ => d

variable (d : RehearsedDevice)

theorem rebootStatus_eq (request : StatusRequest) :
    d.rebootStatus request =
      (d.statusAnswers.head?.getD d.lastStatus,
        { d with
          statusAnswers := d.statusAnswers.tail
          calls.statusRequests := d.calls.statusRequests.push request }) := by
  cases d with
  | mk cards statusAnswers statusUnimplemented =>
      cases statusAnswers with
      | cons answer rest => rfl
      | nil => cases statusUnimplemented <;> rfl

theorem console_eq (command : String) :
    d.console command =
      (d.commandAnswers.head?.getD (.ok d.defaultOutput),
        { d with
          commandAnswers := d.commandAnswers.tail
          calls.commands := d.calls.commands.push command }) := by
  cases d with
  | mk cards statusAnswers statusUnimplemented refusal interfaces counters commandAnswers =>
      cases commandAnswers <;> rfl

/-- A read moves the first card of its name on, and no other. -/
theorem find?_readCard (name other : String) (cards : List RehearsedCard) :
    (readCard name cards).2.find? (fun card => card.name = other) =
      (cards.find? fun card => card.name = other).map fun card =>
        if other = name then { card with states := card.states.read.2 } else card := by
  induction cards with
  | nil => rfl
  | cons card rest ih =>
      rw [readCard]
      by_cases hname : card.name = name
      · rw [if_pos hname]
        by_cases hother : card.name = other
        · have hsame : other = name := hother.symm.trans hname
          simp [hother, hsame]
        · have hapart : ¬ other = name := fun hsame => hother (hname.trans hsame.symm)
          simp [hother, hapart]
      · rw [if_neg hname]
        by_cases hother : card.name = other
        · have hapart : ¬ other = name := fun hsame => hname (hother.trans hsame)
          simp [hother, hapart]
        · simpa [List.find?_cons, hother] using ih

theorem readCard_eq_find? (name : String) (cards : List RehearsedCard) :
    (readCard name cards).1 =
      (cards.find? fun card => card.name = name).map fun card =>
        card.states.read.1.getD {} := by
  induction cards with
  | nil => rfl
  | cons card rest ih =>
      rw [readCard]
      by_cases hname : card.name = name
      · simp [hname]
      · simpa [List.find?_cons, hname] using ih

theorem script_firstCard?_afterRequest (q : BenchRequest) (name : String) :
    ((d.afterRequest q).firstCard? name).map RehearsedCard.states =
      ((d.firstCard? name).map RehearsedCard.states).map fun script =>
        if q = .componentState name then script.read.2 else script := by
  cases q with
  | componentState other =>
      have hmoved := find?_readCard other name d.cards
      simp only [afterRequest, componentState, firstCard?, hmoved, Option.map_map]
      congr 1
      funext card
      by_cases hsame : name = other
      · simp [hsame]
      · have hapart : ¬ other = name := fun h => hsame h.symm
        simp [hsame, hapart]
  | _ => simp [afterRequest, reboot, rebootStatus_eq, interfaceStatus, ingressPackets,
      console_eq, firstCard?, Function.comp_def]

theorem lookup_interfaces_afterRequest (q : BenchRequest) (name : String) :
    (d.afterRequest q).interfaces.lookup name =
      (d.interfaces.lookup name).map fun script =>
        if q = .interfaceStatus name then script.read.2 else script := by
  cases q with
  | interfaceStatus other =>
      by_cases hsame : name = other
      · simp [afterRequest, interfaceStatus, ScriptTable.lookup_read, hsame]
      · have hapart : ¬ other = name := fun h => hsame h.symm
        simp [afterRequest, interfaceStatus, ScriptTable.lookup_read, hsame, hapart]
  | _ => simp [afterRequest, reboot, rebootStatus_eq, componentState, ingressPackets,
      console_eq]

theorem lookup_counters_afterRequest (q : BenchRequest) (name : String) :
    (d.afterRequest q).counters.lookup name =
      (d.counters.lookup name).map fun script =>
        if q = .ingressPackets name then script.read.2 else script := by
  cases q with
  | ingressPackets other =>
      by_cases hsame : name = other
      · simp [afterRequest, ingressPackets, ScriptTable.lookup_read, hsame]
      · have hapart : ¬ other = name := fun h => hsame h.symm
        simp [afterRequest, ingressPackets, ScriptTable.lookup_read, hsame, hapart]
  | _ => simp [afterRequest, reboot, rebootStatus_eq, componentState, interfaceStatus,
      console_eq]

theorem statusAnswers_afterRequest (q : BenchRequest) :
    (d.afterRequest q).statusAnswers = d.statusAnswers.drop q.statusRequest?.toList.length := by
  cases q with
  | rebootStatus request =>
      simp [afterRequest, rebootStatus_eq, BenchRequest.statusRequest?]
  | _ => simp [afterRequest, reboot, componentState, interfaceStatus, ingressPackets,
      console_eq, BenchRequest.statusRequest?]

theorem commandAnswers_afterRequest (q : BenchRequest) :
    (d.afterRequest q).commandAnswers =
      d.commandAnswers.drop q.consoleCommand?.toList.length := by
  cases q with
  | console command => simp [afterRequest, console_eq, BenchRequest.consoleCommand?]
  | _ => simp [afterRequest, reboot, rebootStatus_eq, componentState, interfaceStatus,
      ingressPackets, BenchRequest.consoleCommand?]

/-- What is answered when a queue has run dry never changes. -/
theorem defaults_afterRequest (q : BenchRequest) :
    (d.afterRequest q).lastStatus = d.lastStatus ∧
      (d.afterRequest q).defaultOutput = d.defaultOutput := by
  have hkept : (d.afterRequest q).statusUnimplemented = d.statusUnimplemented ∧
      (d.afterRequest q).defaultOutput = d.defaultOutput := by
    cases q <;>
      simp [afterRequest, reboot, rebootStatus_eq, componentState, interfaceStatus,
        ingressPackets, console_eq]
  exact ⟨by rw [lastStatus, hkept.1, lastStatus], hkept.2⟩

theorem extendedBy_afterRequest (q : BenchRequest) (rest : List BenchRequest) :
    (d.afterRequest q).calls.extendedBy rest = d.calls.extendedBy (q :: rest) := by
  cases q <;>
    simp [afterRequest, reboot, rebootStatus_eq, componentState, interfaceStatus,
      ingressPackets, console_eq, CallLog.extendedBy, List.filterMap_cons,
      BenchRequest.rebootTarget?, BenchRequest.statusRequest?, BenchRequest.consoleCommand?,
      BenchRequest.cardRead?, BenchRequest.counterRead?]

/-! ## A sequence of requests -/

def afterRequests (requests : List BenchRequest) : RehearsedDevice :=
  requests.foldl afterRequest d

variable {d} {α β : Type}

/-- A script that only one request moves on is read as often as that was asked. -/
theorem script_afterRequests
    (script? : RehearsedDevice → Option (AnswerScript α)) {own : BenchRequest}
    (hstep : ∀ d q, script? (d.afterRequest q) =
      (script? d).map fun script => if q = own then script.read.2 else script)
    (requests : List BenchRequest) :
    script? (d.afterRequests requests) = (script? d).map (·.after (requests.count own)) := by
  -- The device stays general: after the first request the rest meets a device whose script
  -- is one read further on, or where it was.
  induction requests generalizing d with
  | nil => simp [afterRequests, AnswerScript.after]
  | cons q rest ih =>
      have hrest := ih (d := d.afterRequest q)
      rw [hstep, Option.map_map] at hrest
      refine hrest.trans ?_
      congr 1
      funext script
      by_cases hown : q = own
      · simp [hown, AnswerScript.after]
      · simp [hown]

/-- A queue that only one kind of request takes from has lost one answer for each. -/
theorem queue_afterRequests
    (queue : RehearsedDevice → List α) {kind? : BenchRequest → Option β}
    (hstep : ∀ d q, queue (d.afterRequest q) = (queue d).drop (kind? q).toList.length)
    (requests : List BenchRequest) :
    queue (d.afterRequests requests) =
      (queue d).drop (requests.filterMap kind?).length := by
  induction requests generalizing d with
  | nil => simp [afterRequests]
  | cons q rest ih =>
      have hrest := ih (d := d.afterRequest q)
      rw [hstep, List.drop_drop] at hrest
      refine hrest.trans ?_
      cases hkind : kind? q with
      | none => simp [hkind]
      | some _ => simp [hkind, Nat.add_comm]

theorem defaults_afterRequests (requests : List BenchRequest) :
    (d.afterRequests requests).lastStatus = d.lastStatus ∧
      (d.afterRequests requests).defaultOutput = d.defaultOutput := by
  induction requests generalizing d with
  | nil => exact ⟨rfl, rfl⟩
  | cons q rest ih =>
      have hstep := d.defaults_afterRequest q
      have hrest := ih (d := d.afterRequest q)
      exact ⟨hrest.1.trans hstep.1, hrest.2.trans hstep.2⟩

theorem calls_afterRequests (requests : List BenchRequest) :
    (d.afterRequests requests).calls = d.calls.extendedBy requests := by
  induction requests generalizing d with
  | nil => exact d.calls.extendedBy_nil.symm
  | cons q rest ih =>
      have hrest := ih (d := d.afterRequest q)
      exact hrest.trans (d.extendedBy_afterRequest q rest)

/-! ## The next answer -/

variable (d)

theorem componentState_eq (name : String) :
    (d.componentState name).1 =
      match d.firstCard? name with
      | some card => .ok (card.states.read.1.getD {})
      | none => .error (.transport "Get" ("no component " ++ name)) := by
  cases hcard : d.cards.find? fun card => card.name = name <;>
    simp [componentState, readCard_eq_find?, firstCard?, hcard]

theorem interfaceStatus_eq (name : String) :
    (d.interfaceStatus name).1 =
      .ok (((d.interfaces.lookup name).bind fun script => script.read.1).getD .notPresent) := by
  simp only [interfaceStatus, ScriptTable.read_eq_lookup]

theorem ingressPackets_eq (name : String) :
    (d.ingressPackets name).1 =
      match (d.counters.lookup name).bind fun script => script.read.1 with
      | some count => .ok count
      | none => .error (.decode name "in-pkts not reported") := by
  cases hread : (d.counters.lookup name).bind fun script => script.read.1 <;>
    simp [ingressPackets, ScriptTable.read_eq_lookup, hread]

variable {d} (earlier : List BenchRequest)

theorem componentState_of_firstCard?
    {name : String} {card : RehearsedCard} (hcard : d.firstCard? name = some card) :
    ((d.afterRequests earlier).componentState name).1 =
      .ok ((card.states.after (earlier.count (.componentState name))).read.1.getD {}) := by
  have hscript := script_afterRequests (d := d)
    (fun d => (d.firstCard? name).map RehearsedCard.states)
    (fun d q => d.script_firstCard?_afterRequest q name) earlier
  simp only [hcard, Option.map_some] at hscript
  obtain ⟨now, hnow, hstates⟩ := Option.map_eq_some_iff.mp hscript
  rw [componentState_eq, hnow]
  simp only [hstates]

theorem componentState_afterRequests
    {name : String} {card : RehearsedCard} (hcard : d.firstCard? name = some card)
    (hpos : 0 < card.states.values.length) :
    ((d.afterRequests earlier).componentState name).1 =
      .ok card.states.values[
        min (earlier.count (.componentState name)) (card.states.values.length - 1)] := by
  rw [componentState_of_firstCard? earlier hcard, AnswerScript.read_after_of_pos _ _ hpos,
    Option.getD_some]

theorem interfaceStatus_afterRequests
    {name : String} {script : AnswerScript InterfaceStatus}
    (hscript : d.interfaces.lookup name = some script) (hpos : 0 < script.values.length) :
    ((d.afterRequests earlier).interfaceStatus name).1 =
      .ok script.values[
        min (earlier.count (.interfaceStatus name)) (script.values.length - 1)] := by
  have hmoved := script_afterRequests (d := d) (fun d => d.interfaces.lookup name)
    (fun d q => d.lookup_interfaces_afterRequest q name) earlier
  simp only [hscript, Option.map_some] at hmoved
  rw [interfaceStatus_eq, hmoved]
  simp only [Option.bind_some, AnswerScript.read_after_of_pos _ _ hpos, Option.getD_some]

theorem ingressPackets_afterRequests
    {name : String} {script : AnswerScript Nat}
    (hscript : d.counters.lookup name = some script) (hpos : 0 < script.values.length) :
    ((d.afterRequests earlier).ingressPackets name).1 =
      .ok script.values[
        min (earlier.count (.ingressPackets name)) (script.values.length - 1)] := by
  have hmoved := script_afterRequests (d := d) (fun d => d.counters.lookup name)
    (fun d q => d.lookup_counters_afterRequest q name) earlier
  simp only [hscript, Option.map_some] at hmoved
  rw [ingressPackets_eq, hmoved]
  simp only [Option.bind_some, AnswerScript.read_after_of_pos _ _ hpos]

theorem rebootStatus_afterRequests (request : StatusRequest) :
    ((d.afterRequests earlier).rebootStatus request).1 =
      d.statusAnswers[(earlier.filterMap BenchRequest.statusRequest?).length]?.getD
        d.lastStatus := by
  have hqueue := queue_afterRequests (d := d) statusAnswers
    (fun d q => d.statusAnswers_afterRequest q) earlier
  rw [rebootStatus_eq, hqueue, (defaults_afterRequests earlier).1, List.head?_drop]

theorem console_afterRequests (command : String) :
    ((d.afterRequests earlier).console command).1 =
      d.commandAnswers[(earlier.filterMap BenchRequest.consoleCommand?).length]?.getD
        (.ok d.defaultOutput) := by
  have hqueue := queue_afterRequests (d := d) commandAnswers
    (fun d q => d.commandAnswers_afterRequest q) earlier
  rw [console_eq, hqueue, (defaults_afterRequests earlier).2, List.head?_drop]

end RehearsedDevice

/-! ## Behind the bench -/

namespace Rehearsal

theorem device_reply
    {r : Rehearsal} {d : RehearsedDevice} (hdevice : r.device = .rehearsed d)
    (q : BenchRequest) : (reply q r).2.device = .rehearsed (d.afterRequest q) := by
  cases q with
  | startTraffic =>
      simp only [reply, startTraffic]
      split <;> exact hdevice
  | stopTraffic =>
      simp only [reply, stopTraffic]
      split <;> exact hdevice
  | pause _ => exact hdevice
  | _ => simp only [reply, onDevice, hdevice, RehearsedDevice.afterRequest]

theorem device_after
    {r : Rehearsal} {d : RehearsedDevice} (hdevice : r.device = .rehearsed d)
    (requests : List BenchRequest) :
    (responder.after requests r).device = .rehearsed (d.afterRequests requests) := by
  induction requests generalizing r d with
  | nil => exact hdevice
  | cons q rest ih => exact ih (device_reply hdevice q)

/-- After these requests to a rehearsed device, each script gives the value at the place
of its own reads so far, or its last one; each queue gives its answers in turn and then a
default; and the log holds what was asked. -/
structure AnswersInTurn (d : RehearsedDevice) (earlier : List BenchRequest) (now : Rehearsal) :
    Prop where
  card : ∀ name card, d.firstCard? name = some card →
    ∀ hpos : 0 < card.states.values.length,
      (reply (.componentState name) now).1 =
        .ok card.states.values[
          min (earlier.count (.componentState name)) (card.states.values.length - 1)]
  interface : ∀ name script, d.interfaces.lookup name = some script →
    ∀ hpos : 0 < script.values.length,
      (reply (.interfaceStatus name) now).1 =
        .ok script.values[
          min (earlier.count (.interfaceStatus name)) (script.values.length - 1)]
  counter : ∀ name script, d.counters.lookup name = some script →
    ∀ hpos : 0 < script.values.length,
      (reply (.ingressPackets name) now).1 =
        .ok script.values[
          min (earlier.count (.ingressPackets name)) (script.values.length - 1)]
  status : ∀ request,
    (reply (.rebootStatus request) now).1 =
      d.statusAnswers[(earlier.filterMap BenchRequest.statusRequest?).length]?.getD d.lastStatus
  command : ∀ command,
    (reply (.console command) now).1 =
      d.commandAnswers[(earlier.filterMap BenchRequest.consoleCommand?).length]?.getD
        (.ok d.defaultOutput)
  log : now.calls = d.calls.extendedBy earlier
  rebooting : ∀ name (card : RehearsedCard) reads during after,
    d.firstCard? name = some (card.rebooting reads during after) →
      (reply (.componentState name) now).1 =
        .ok (if earlier.count (.componentState name) = 0 then card.firstState
          else if earlier.count (.componentState name) ≤ reads then during
          else after)

theorem answersInTurn_of_device
    {d : RehearsedDevice} {earlier : List BenchRequest} {now : Rehearsal}
    (hdevice : now.device = .rehearsed (d.afterRequests earlier)) :
    AnswersInTurn d earlier now where
  card := by
    intro name card hcard hpos
    simp only [reply, onDevice, hdevice]
    exact RehearsedDevice.componentState_afterRequests earlier hcard hpos
  interface := by
    intro name script hscript hpos
    simp only [reply, onDevice, hdevice]
    exact RehearsedDevice.interfaceStatus_afterRequests earlier hscript hpos
  counter := by
    intro name script hscript hpos
    simp only [reply, onDevice, hdevice]
    exact RehearsedDevice.ingressPackets_afterRequests earlier hscript hpos
  status := by
    intro request
    simp only [reply, onDevice, hdevice]
    exact RehearsedDevice.rebootStatus_afterRequests earlier request
  command := by
    intro command
    simp only [reply, onDevice, hdevice]
    exact RehearsedDevice.console_afterRequests earlier command
  log := by
    simp only [calls, hdevice]
    exact RehearsedDevice.calls_afterRequests earlier
  rebooting := by
    intro name card reads during after hcard
    simp only [reply, onDevice, hdevice]
    rw [RehearsedDevice.componentState_of_firstCard? earlier hcard,
      RehearsedCard.read_rebooting, Option.getD_some]

/-- Whatever a rehearsed device is asked, in whatever order, it answers in turn.  In a
dialogue with it the earlier requests are those of the transcript. -/
theorem rehearsed_answers_in_turn
    (d : RehearsedDevice) (generator : RehearsalGenerator) (onHost : RehearsedHost) :
    let start : Rehearsal := ⟨.rehearsed d, generator, onHost⟩
    (∀ earlier, AnswersInTurn d earlier (responder.after earlier start)) ∧
      ∀ (α : Type) (dialogue : Dialogue bench α),
        let asked := dialogue.transcript responder start
        (dialogue.run responder start).2 = responder.after asked.questions start ∧
          ∀ (before : Transcript bench) q answer after, asked = before ++ ⟨q, answer⟩ :: after →
            answer = (reply q (responder.after before.questions start)).1 := by
  intro start
  refine ⟨fun earlier => answersInTurn_of_device (device_after rfl earlier), ?_⟩
  intro α dialogue asked
  refine ⟨dialogue.run_eq_after responder start, ?_⟩
  intro before q answer after hsplit
  exact Dialogue.answer_of_transcript responder dialogue hsplit

/-- Two line cards of one name, of which only the first ever answers. -/
def namesakes : RehearsedDevice where
  cards :=
    [(RehearsedCard.linecard "LC0").rebooting 1 {} { removable := some true },
      RehearsedCard.linecard "LC0"]

theorem namesakes_answer_in_turn :
    (reply (.componentState "LC0")
        (responder.after [.componentState "LC0", .console "reboot", .componentState "LC0"]
          ⟨.rehearsed namesakes, .missing, {}⟩)).1 =
      .ok { removable := some true } := by
  have hturn := (rehearsed_answers_in_turn namesakes .missing {}).1
    [.componentState "LC0", .console "reboot", .componentState "LC0"]
  have hread := hturn.rebooting "LC0" (RehearsedCard.linecard "LC0") 1 {}
    { removable := some true } rfl
  exact hread

end Rehearsal

end CardReboot
