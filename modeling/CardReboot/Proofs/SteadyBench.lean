import CardReboot.Rehearsal.Bench

/-!
# A steady bench

A rehearsed device with at most one value in each script and nothing in its queues
gives the same answers for ever.  Its log grows and the generator counts, but no answer
tells of either.  So every dialogue has the same result, whatever was asked before it.
-/

namespace CardReboot

/-- While an invariant of the responder settles its answers, all its states make a
dialogue end in the same way. -/
theorem Dialogue.run_eq_of_invariant
    {I : Interface} {α σ : Type} {r : Responder I σ} {invariant : σ → Prop}
    {answer : (q : I.Question) → I.Answer q}
    (hreply : ∀ question state, invariant state →
      (r.reply question state).1 = answer question ∧ invariant (r.reply question state).2)
    (d : Dialogue I α) {state fresh : σ} (hstate : invariant state) (hfresh : invariant fresh) :
    (d.run r state).1 = (d.run r fresh).1 ∧ invariant (d.run r state).2 := by
  induction d generalizing state fresh with
  | done value => exact ⟨rfl, hstate⟩
  | ask question next ih =>
      obtain ⟨hanswer, hnext⟩ := hreply question state hstate
      obtain ⟨hanswer', hnext'⟩ := hreply question fresh hfresh
      rw [run_ask, run_ask, hanswer, hanswer']
      exact ih (answer question) hnext hnext'

/-! ## Scripts -/

def AnswerScript.IsSteady {α : Type} (s : AnswerScript α) : Prop := s.values.length ≤ 1

theorem AnswerScript.IsSteady.read_eq
    {α : Type} {s : AnswerScript α} (hsteady : s.IsSteady) : s.read.2 = s := by
  obtain ⟨values⟩ := s
  rcases values with _ | ⟨value, _ | ⟨next, rest⟩⟩
  · rfl
  · rfl
  · simp [IsSteady] at hsteady

def ScriptTable.IsSteady {α : Type} (table : ScriptTable α) : Prop :=
  ∀ entry ∈ table, entry.2.IsSteady

theorem ScriptTable.IsSteady.read_eq
    {α : Type} {table : ScriptTable α} (hsteady : ScriptTable.IsSteady table) (name : String) :
    (ScriptTable.read name table).2 = table := by
  induction table with
  | nil => rfl
  | cons entry table ih =>
      obtain ⟨hfirst, hrest⟩ := List.forall_mem_cons.mp hsteady
      rw [ScriptTable.read]
      split
      · rw [hfirst.read_eq]
      · rw [ih hrest]

/-! ## The device -/

namespace RehearsedDevice

structure IsSteady (d : RehearsedDevice) : Prop where
  cards : ∀ card ∈ d.cards, card.states.IsSteady
  interfaces : ScriptTable.IsSteady d.interfaces
  counters : ScriptTable.IsSteady d.counters
  statusAnswers : d.statusAnswers = []
  commandAnswers : d.commandAnswers = []

def logging (d : RehearsedDevice) (calls : CallLog) : RehearsedDevice :=
  { d with calls := calls }

/-- The operation has one answer whatever the log is, and changes nothing else. -/
def KeepsAnswer
    {α : Type} (d : RehearsedDevice) (f : RehearsedDevice → α × RehearsedDevice) : Prop :=
  ∀ calls, ∃ later, f (d.logging calls) = ((f d).1, d.logging later)

variable {d : RehearsedDevice}

theorem readCard_eq
    {cards : List RehearsedCard} (hsteady : ∀ card ∈ cards, card.states.IsSteady)
    (name : String) : (readCard name cards).2 = cards := by
  induction cards with
  | nil => rfl
  | cons card cards ih =>
      obtain ⟨hfirst, hrest⟩ := List.forall_mem_cons.mp hsteady
      rw [readCard]
      split
      · rw [hfirst.read_eq]
      · rw [ih hrest]

theorem keepsAnswer_reboot (target : RebootTarget) : d.KeepsAnswer (·.reboot target) := by
  intro calls
  exact ⟨{ calls with reboots := calls.reboots.push target }, rfl⟩

theorem keepsAnswer_componentNames (type : ComponentType) :
    d.KeepsAnswer fun d => ((.ok (d.componentNames type) : Answered (List String)), d) := by
  intro calls
  exact ⟨calls, rfl⟩

theorem keepsAnswer_interfaceNames :
    d.KeepsAnswer fun d =>
      ((.ok (ScriptTable.names d.interfaces) : Answered (List String)), d) := by
  intro calls
  exact ⟨calls, rfl⟩

namespace IsSteady

variable (hsteady : d.IsSteady)
include hsteady

theorem keepsAnswer_rebootStatus (request : StatusRequest) :
    d.KeepsAnswer (·.rebootStatus request) := by
  intro calls
  refine ⟨{ calls with statusRequests := calls.statusRequests.push request }, ?_⟩
  simp only [rebootStatus, logging, hsteady.statusAnswers]
  split <;> rfl

theorem keepsAnswer_componentState (name : String) :
    d.KeepsAnswer (·.componentState name) := by
  intro calls
  refine ⟨{ calls with componentReads := calls.componentReads.push name }, ?_⟩
  simp only [componentState, logging, readCard_eq hsteady.cards]

theorem keepsAnswer_interfaceStatus (name : String) :
    d.KeepsAnswer (·.interfaceStatus name) := by
  intro calls
  refine ⟨calls, ?_⟩
  simp only [interfaceStatus, logging, hsteady.interfaces.read_eq]

theorem keepsAnswer_ingressPackets (name : String) :
    d.KeepsAnswer (·.ingressPackets name) := by
  intro calls
  refine ⟨{ calls with counterReads := calls.counterReads.push name }, ?_⟩
  simp only [ingressPackets, logging, hsteady.counters.read_eq]

theorem keepsAnswer_console (command : String) : d.KeepsAnswer (·.console command) := by
  intro calls
  refine ⟨{ calls with commands := calls.commands.push command }, ?_⟩
  simp only [console, logging, hsteady.commandAnswers]

end IsSteady

end RehearsedDevice

def RehearsedGenerator.counting (g : RehearsedGenerator) (starts stops : Nat) :
    RehearsedGenerator :=
  { g with starts := starts, stops := stops }

/-! ## The bench -/

namespace Rehearsal

def of (d : RehearsedDevice) (generator : Option RehearsedGenerator) (host : RehearsedHost) :
    Rehearsal where
  device := .rehearsed d
  generator :=
    match generator with
    | none => .missing
    | some g => .rehearsed g
  host := host

/-- The same bench with whatever log and counts. -/
def Resembles
    (d : RehearsedDevice) (generator : Option RehearsedGenerator) (host : RehearsedHost)
    (r : Rehearsal) : Prop :=
  ∃ calls starts stops,
    r = of (d.logging calls) (generator.map (·.counting starts stops)) host

variable {d : RehearsedDevice} {generator : Option RehearsedGenerator} {host : RehearsedHost}
  {r : Rehearsal}

theorem resembles_of : Resembles d generator host (of d generator host) := by
  cases generator with
  | none => exact ⟨d.calls, 0, 0, rfl⟩
  | some g => exact ⟨d.calls, g.starts, g.stops, rfl⟩

theorem reply_onDevice
    {α : Type} {f : RehearsedDevice → α × RehearsedDevice}
    {onHost : Target → Dialogue CardReboot.host α} (hkeeps : d.KeepsAnswer f)
    (hr : Resembles d generator host r) :
    (r.onDevice f onHost).1 = ((of d generator host).onDevice f onHost).1 ∧
      Resembles d generator host (r.onDevice f onHost).2 := by
  obtain ⟨calls, starts, stops, rfl⟩ := hr
  obtain ⟨later, hlater⟩ := hkeeps calls
  simp only [onDevice, of, hlater]
  exact ⟨trivial, later, starts, stops, rfl⟩

/-- A steady bench answers as it did when it was fresh, and goes on to do so. -/
theorem reply_of_resembles
    (hsteady : d.IsSteady) (q : BenchRequest) (hr : Resembles d generator host r) :
    (reply q r).1 = (reply q (of d generator host)).1 ∧
      Resembles d generator host (reply q r).2 := by
  cases q with
  | reboot target =>
      simp only [reply]
      exact reply_onDevice (d.keepsAnswer_reboot target) hr
  | rebootStatus request =>
      simp only [reply]
      exact reply_onDevice (hsteady.keepsAnswer_rebootStatus request) hr
  | componentNames type =>
      simp only [reply]
      exact reply_onDevice (d.keepsAnswer_componentNames type) hr
  | componentState name =>
      simp only [reply]
      exact reply_onDevice (hsteady.keepsAnswer_componentState name) hr
  | interfaceNames =>
      simp only [reply]
      exact reply_onDevice d.keepsAnswer_interfaceNames hr
  | interfaceStatus name =>
      simp only [reply]
      exact reply_onDevice (hsteady.keepsAnswer_interfaceStatus name) hr
  | ingressPackets name =>
      simp only [reply]
      exact reply_onDevice (hsteady.keepsAnswer_ingressPackets name) hr
  | console command =>
      simp only [reply]
      exact reply_onDevice (hsteady.keepsAnswer_console command) hr
  | startTraffic =>
      obtain ⟨calls, starts, stops, rfl⟩ := hr
      cases generator with
      | none => exact ⟨rfl, calls, starts, stops, rfl⟩
      | some g => exact ⟨rfl, calls, starts + 1, stops, rfl⟩
  | stopTraffic =>
      obtain ⟨calls, starts, stops, rfl⟩ := hr
      cases generator with
      | none => exact ⟨rfl, calls, starts, stops, rfl⟩
      | some g => exact ⟨rfl, calls, starts, stops + 1, rfl⟩
  | pause d => exact ⟨rfl, hr⟩

theorem run_of_resembles
    {α : Type} (hsteady : d.IsSteady) (dialogue : Dialogue bench α)
    (hr : Resembles d generator host r) :
    (dialogue.run responder r).1 = (dialogue.run responder (of d generator host)).1 ∧
      Resembles d generator host (dialogue.run responder r).2 := by
  have hreply : ∀ question state, Resembles d generator host state →
      (responder.reply question state).1 = (reply question (of d generator host)).1 ∧
        Resembles d generator host (responder.reply question state).2 :=
    fun question state hstate => reply_of_resembles hsteady question hstate
  exact Dialogue.run_eq_of_invariant hreply dialogue hr resembles_of

end Rehearsal

end CardReboot
