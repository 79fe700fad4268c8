import CardReboot.Proofs.CommandWords
import CardReboot.Proofs.Guarantee
import CardReboot.Tool.Device

/-!
# The commands that reach the device

A request to the device is carried out by calls that are known before it: one for most
requests, and one for each leaf of a card's state.  No answer of the host can lead to
another call, so what is known about the words of a call holds of every command.
-/

namespace CardReboot.Tool

open Shell

/-! ## What is asked of the host -/

/-- The calls that a request to the device can make. -/
def invocations : BenchRequest → List Invocation
  | .reboot target => [.reboot target]
  | .rebootStatus request => [.status request]
  | .componentNames _ => [.get typePath]
  | .componentState name =>
      [.get (statePath name "removable"), .get (statePath name "empty"),
        .get (statePath name "redundant-role"), .get (statePath name "oper-status")]
  | .interfaceNames => [.get interfaceNamePath]
  | .interfaceStatus name => [.get (interfacePath name "oper-status")]
  | .ingressPackets name => [.get (interfacePath name "counters/in-pkts")]
  | .console command => [.console command]
  | .startTraffic | .stopTraffic | .pause _ => []

def IsCallOf (t : Target) (calls : List Invocation) : HostRequest → Prop
  | .run command => ∃ i ∈ calls, command = i.command t
  | .pause _ => False

/-- Whatever the host answers, it is asked for these calls only. -/
abbrev CallsOnly {α : Type} (t : Target) (calls : List Invocation) (d : Dialogue host α) :
    Prop :=
  d.Guarantees (I := host) (IsCallOf t calls) fun _ => True

section Carry

variable {α β : Type} {t : Target} {calls : List Invocation}

theorem callsOnly_done (a : α) : CallsOnly t calls (.done a : Dialogue host α) :=
  Dialogue.guarantees_done (I := host) trivial

/-- A failure ends the request. -/
theorem CallsOnly.bind
    {d : Dialogue host (Answered α)} {f : Answered α → Dialogue host β}
    (hd : CallsOnly t calls d) {failed : DeviceError → β}
    (herror : ∀ e, f (.error e) = .done (failed e)) (hok : ∀ a, CallsOnly t calls (f (.ok a))) :
    CallsOnly t calls (d >>= f) := by
  apply Dialogue.guarantees_bind hd
  intro answer _
  cases answer with
  | error e =>
      rw [herror e]
      exact callsOnly_done _
  | ok a => exact hok a

theorem callsOnly_run {i : Invocation} (hmem : i ∈ calls) :
    CallsOnly t calls (Host.run (i.command t)) := by
  have hcall : IsCallOf t calls (.run (i.command t)) := ⟨i, hmem, rfl⟩
  exact Dialogue.guarantees_question (I := host) hcall

theorem callsOnly_call {i : Invocation} (hmem : i ∈ calls) (rpc : String) :
    CallsOnly t calls (call rpc (i.command t)) := by
  unfold call
  refine (callsOnly_run hmem).bind (fun _ => rfl) ?_
  intro result
  dsimp only
  split <;> exact callsOnly_done _

theorem callsOnly_get {path : String} (hmem : .get path ∈ calls) :
    CallsOnly t calls (get t path) := by
  unfold get
  refine (callsOnly_run hmem).bind (fun _ => rfl) ?_
  intro result
  dsimp only
  split
  · exact callsOnly_done _
  · split <;> exact callsOnly_done _

theorem callsOnly_leaf {path : String} (hmem : .get path ∈ calls) :
    CallsOnly t calls (leaf t path) := by
  unfold leaf
  exact (callsOnly_get hmem).bind (fun _ => rfl) fun _ => callsOnly_done _

theorem callsOnly_readComponentState (name : String) :
    CallsOnly t (invocations (.componentState name)) (readComponentState t name) := by
  have hleaf : ∀ leaf' ∈ ["removable", "empty", "redundant-role", "oper-status"],
      CallsOnly t (invocations (.componentState name)) (leaf t (statePath name leaf')) := by
    intro leaf' hmem
    apply callsOnly_leaf
    simp only [List.mem_cons, List.not_mem_nil, or_false] at hmem
    rcases hmem with rfl | rfl | rfl | rfl <;> simp [invocations]
  unfold readComponentState
  refine (hleaf "removable" (by decide)).bind (fun _ => rfl) fun removable => ?_
  refine (hleaf "empty" (by decide)).bind (fun _ => rfl) fun empty => ?_
  refine (hleaf "redundant-role" (by decide)).bind (fun _ => rfl) fun role => ?_
  exact (hleaf "oper-status" (by decide)).bind (fun _ => rfl) fun _ => callsOnly_done _

theorem callsOnly_readIngressPackets (name : String) :
    CallsOnly t (invocations (.ingressPackets name)) (readIngressPackets t name) := by
  unfold readIngressPackets
  refine (callsOnly_leaf List.mem_cons_self).bind (fun _ => rfl) ?_
  intro value
  dsimp only
  split <;> exact callsOnly_done _

theorem callsOnly_carry
    (plan : TrafficPlan) {q : BenchRequest} (hcalls : invocations q ≠ []) :
    CallsOnly t (invocations q) (carry t plan q) := by
  cases q with
  | reboot target =>
      have hcall : CallsOnly t (invocations (.reboot target))
          (call "Reboot" (rebootCommand t target)) :=
        callsOnly_call (i := .reboot target) List.mem_cons_self "Reboot"
      exact hcall.bind (fun _ => rfl) fun _ => callsOnly_done _
  | rebootStatus request =>
      have hcall : CallsOnly t (invocations (.rebootStatus request))
          (call "RebootStatus" (statusCommand t request)) :=
        callsOnly_call (i := .status request) List.mem_cons_self "RebootStatus"
      exact hcall.bind (fun _ => rfl) fun _ => callsOnly_done _
  | componentNames type =>
      exact (callsOnly_get List.mem_cons_self).bind (fun _ => rfl) fun _ => callsOnly_done _
  | componentState name => exact callsOnly_readComponentState name
  | interfaceNames =>
      exact (callsOnly_get List.mem_cons_self).bind (fun _ => rfl) fun _ => callsOnly_done _
  | interfaceStatus name =>
      exact (callsOnly_leaf List.mem_cons_self).bind (fun _ => rfl) fun _ => callsOnly_done _
  | ingressPackets name => exact callsOnly_readIngressPackets name
  | console command =>
      have hrun : CallsOnly t (invocations (.console command))
          (Host.run (consoleCommand t command)) :=
        callsOnly_run (i := .console command) List.mem_cons_self
      exact hrun.bind (fun _ => rfl) fun _ => callsOnly_done _
  | startTraffic => exact absurd rfl hcalls
  | stopTraffic => exact absurd rfl hcalls
  | pause d => exact absurd rfl hcalls

end Carry

/-- Every command for the device is one simple command of the expected words, and a
field stands in one of them only. -/
theorem device_commands_keep_words (t : Target) (plan : TrafficPlan) :
    (∀ q, invocations q ≠ [] → CallsOnly t (invocations q) (carry t plan q)) ∧
      ∀ i : Invocation,
        Script.ofText (i.command t).toList =
            (.command 1 ((i.pattern t).map (·.pieces (i.value t))) [], none) ∧
          simpleCommand? (i.command t).toList = some (i.words t) ∧
          ((i.pattern t).flatMap WordPattern.fields).Nodup ∧
          ∀ (t' : Target) (i' : Invocation) (f : Field), i'.pattern t' = i.pattern t →
            (∀ g, g ≠ f → i'.value t' g = i.value t g) →
            ∀ (place : Nat) (w : WordPattern), (i.pattern t)[place]? = some w →
              f ∉ w.fields → (i'.words t')[place]? = (i.words t)[place]? := by
  refine ⟨fun q hcalls => callsOnly_carry plan hcalls, ?_⟩
  intro i
  refine ⟨i.ofText_command t, i.simpleCommand?_command t, i.nodup_fields_pattern t, ?_⟩
  intro t' i' f hpattern hothers place w hplace hfree
  exact Invocation.words_congr hpattern hothers hplace hfree

example :
    simpleCommand? (getCommand { password := "$(reboot)\";\n#" } "/a b").toList =
      some ["gnmic", "-a", "127.0.0.1:9339", "-u", "admin", "-p", "$(reboot)\";#", "--insecure",
        "get", "--path", "/a b", "--format", "json"] := by
  decide +kernel

end CardReboot.Tool
