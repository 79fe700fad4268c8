import CardReboot.Proofs.Guarantee

/-!
# The readings of a device

An inventory and a snapshot are read name by name.  A reading that succeeds has
asked for every name in turn and was answered each time, so the inventory or the
snapshot is exactly what the answers said.  A reading that fails has asked
nothing else either.
-/

namespace CardReboot

/-- Requests that neither reboot a card nor ask about a reboot. -/
def BenchRequest.IsQuiet : BenchRequest → Prop
  | .reboot _ => False
  | .rebootStatus _ => False
  | _ => True

namespace Inventory

def readingExchanges
    (type : ComponentType) (readings : List (String × ComponentState)) :
    Transcript bench :=
  ⟨.componentNames type, .ok (readings.map Prod.fst)⟩ ::
    readings.map fun reading => ⟨.componentState reading.1, .ok reading.2⟩

/-- The inventory is what the device reported in this transcript. -/
def IsReadIn
    (inventory : Inventory) (type : ComponentType) (transcript : Transcript bench) : Prop :=
  ∃ readings, transcript = readingExchanges type readings ∧
    inventory =
      readings.map fun reading => ComponentDescriptor.ofState reading.1 type reading.2

theorem exists_of_readStates_produces
    {type : ComponentType} {names : List String} {transcript : Transcript bench}
    {inventory : Inventory}
    (hrun : (readStates type names).Produces transcript (.ok inventory)) :
    ∃ readings : List (String × ComponentState), names = readings.map Prod.fst ∧
      transcript =
        readings.map (fun reading => ⟨.componentState reading.1, .ok reading.2⟩) ∧
      inventory =
        readings.map fun reading => ComponentDescriptor.ofState reading.1 type reading.2 := by
  induction names generalizing transcript inventory with
  | nil =>
      obtain ⟨rfl, hend⟩ := Dialogue.produces_done_iff.mp hrun
      cases hend
      exact ⟨[], rfl, rfl, rfl⟩
  | cons name rest ih =>
      obtain ⟨answer, after, rfl, hafter⟩ := Dialogue.produces_question_bind_iff.mp hrun
      cases answer with
      | error e =>
          obtain ⟨-, hend⟩ := Dialogue.produces_done_iff.mp hafter
          cases hend
      | ok state =>
          obtain ⟨states, final, others, rfl, hstates, hfinal⟩ :=
            Dialogue.produces_bind_iff.mp hafter
          cases others with
          | error failure =>
              obtain ⟨-, hend⟩ := Dialogue.produces_done_iff.mp hfinal
              cases hend
          | ok found =>
              obtain ⟨rfl, hend⟩ := Dialogue.produces_done_iff.mp hfinal
              cases hend
              obtain ⟨readings, rfl, rfl, rfl⟩ := ih hstates
              exact ⟨(name, state) :: readings, rfl, by simp, rfl⟩

theorem isReadIn_of_fetch_produces
    {type : ComponentType} {transcript : Transcript bench} {inventory : Inventory}
    (hrun : (fetch type).Produces transcript (.ok inventory)) :
    inventory.IsReadIn type transcript := by
  obtain ⟨answer, after, rfl, hafter⟩ := Dialogue.produces_question_bind_iff.mp hrun
  cases answer with
  | error e =>
      obtain ⟨-, hend⟩ := Dialogue.produces_done_iff.mp hafter
      cases hend
  | ok names =>
      obtain ⟨readings, rfl, rfl, rfl⟩ := exists_of_readStates_produces hafter
      exact ⟨readings, rfl, rfl⟩

theorem guarantees_readStates (type : ComponentType) (names : List String) :
    (readStates type names).Guarantees (I := bench) BenchRequest.IsQuiet
      fun _ => True := by
  induction names with
  | nil => exact Dialogue.guarantees_done trivial
  | cons name rest ih =>
      refine Dialogue.guarantees_question_bind trivial ?_
      rintro (e | state)
      · exact Dialogue.guarantees_done trivial
      · refine Dialogue.guarantees_bind ih ?_
        rintro (failure | others) -
        · exact Dialogue.guarantees_done trivial
        · exact Dialogue.guarantees_done trivial

theorem guarantees_fetch (type : ComponentType) :
    (fetch type).Guarantees (I := bench) BenchRequest.IsQuiet fun _ => True := by
  refine Dialogue.guarantees_question_bind trivial ?_
  rintro (e | names)
  · exact Dialogue.guarantees_done trivial
  · exact guarantees_readStates type names

end Inventory

namespace Snapshot

def statusExchanges (readings : List (String × InterfaceStatus)) : Transcript bench :=
  readings.map fun reading => ⟨.interfaceStatus reading.1, .ok reading.2⟩

/-- The snapshot is one pass over the interfaces in scope, and it holds those that
were reported up in it. -/
inductive TakenIn (snapshot : Snapshot) : InterfaceScope → Transcript bench → Prop
  | all
      (readings : List (String × InterfaceStatus))
      (hup : ∀ name, name ∈ snapshot.up ↔ (name, .up) ∈ readings) :
      TakenIn snapshot .all
        (⟨.interfaceNames, .ok (readings.map Prod.fst)⟩ :: statusExchanges readings)
  | only
      (readings : List (String × InterfaceStatus))
      (hup : ∀ name, name ∈ snapshot.up ↔ (name, .up) ∈ readings) :
      TakenIn snapshot (.only (readings.map Prod.fst)) (statusExchanges readings)

theorem mem_insert {s : Snapshot} {name other : String} :
    other ∈ (s.insert name).up ↔ other = name ∨ other ∈ s.up :=
  mem_insertName

theorem mem_up_of_reading
    {s : Snapshot} {name other : String} {status : InterfaceStatus} :
    other ∈ (if status = .up then s.insert name else s).up ↔
      (other, InterfaceStatus.up) = (name, status) ∨ other ∈ s.up := by
  by_cases hstatus : status = .up
  · rw [if_pos hstatus, mem_insert]
    simp [hstatus]
  · rw [if_neg hstatus]
    simp [Ne.symm hstatus]

theorem exists_of_readAll_produces
    {names : List String} {first final : Snapshot} {transcript : Transcript bench}
    (hrun : (readAll names first).Produces transcript (.ok final)) :
    ∃ readings : List (String × InterfaceStatus), names = readings.map Prod.fst ∧
      transcript = statusExchanges readings ∧
      ∀ name, name ∈ final.up ↔ (name, .up) ∈ readings ∨ name ∈ first.up := by
  induction names generalizing first transcript with
  | nil =>
      obtain ⟨rfl, hend⟩ := Dialogue.produces_done_iff.mp hrun
      cases hend
      exact ⟨[], rfl, rfl, by simp⟩
  | cons name rest ih =>
      obtain ⟨answer, after, rfl, hafter⟩ := Dialogue.produces_question_bind_iff.mp hrun
      cases answer with
      | error e =>
          obtain ⟨-, hend⟩ := Dialogue.produces_done_iff.mp hafter
          cases hend
      | ok status =>
          obtain ⟨readings, rfl, rfl, hup⟩ := ih hafter
          refine ⟨(name, status) :: readings, rfl, rfl, ?_⟩
          intro other
          rw [hup, mem_up_of_reading, List.mem_cons, or_left_comm, or_assoc]

theorem takenIn_of_capture_produces
    {scope : InterfaceScope} {transcript : Transcript bench} {snapshot : Snapshot}
    (hrun : (capture scope).Produces transcript (.ok snapshot)) :
    snapshot.TakenIn scope transcript := by
  cases scope with
  | only names =>
      obtain ⟨readings, rfl, rfl, hup⟩ := exists_of_readAll_produces hrun
      exact .only readings (by simpa [empty] using hup)
  | all =>
      obtain ⟨answer, after, rfl, hafter⟩ := Dialogue.produces_question_bind_iff.mp hrun
      cases answer with
      | error e =>
          obtain ⟨-, hend⟩ := Dialogue.produces_done_iff.mp hafter
          cases hend
      | ok names =>
          obtain ⟨readings, rfl, rfl, hup⟩ := exists_of_readAll_produces hafter
          exact .all readings (by simpa [empty] using hup)

theorem takenIn_of_captureBefore_produces
    {scope : InterfaceScope} {transcript : Transcript bench} {snapshot : Snapshot}
    (hrun : (captureBefore scope).Produces transcript (.ok snapshot)) :
    snapshot.TakenIn scope transcript := by
  obtain ⟨before, after, answer, rfl, hbefore, hafter⟩ :=
    Dialogue.produces_bind_iff.mp hrun
  cases answer with
  | error e =>
      obtain ⟨-, hend⟩ := Dialogue.produces_done_iff.mp hafter
      cases hend
  | ok captured =>
      obtain ⟨rfl, hend⟩ := Dialogue.produces_done_iff.mp hafter
      cases hend
      rw [List.append_nil]
      exact takenIn_of_capture_produces hbefore

theorem guarantees_readAll (names : List String) (first : Snapshot) :
    (readAll names first).Guarantees (I := bench) BenchRequest.IsQuiet
      fun _ => True := by
  induction names generalizing first with
  | nil => exact Dialogue.guarantees_done trivial
  | cons name rest ih =>
      refine Dialogue.guarantees_question_bind trivial ?_
      rintro (e | status)
      · exact Dialogue.guarantees_done trivial
      · exact ih _

theorem guarantees_capture (scope : InterfaceScope) :
    (capture scope).Guarantees (I := bench) BenchRequest.IsQuiet fun _ => True := by
  cases scope with
  | only names => exact guarantees_readAll names empty
  | all =>
      refine Dialogue.guarantees_question_bind trivial ?_
      rintro (e | names)
      · exact Dialogue.guarantees_done trivial
      · exact guarantees_readAll names empty

theorem guarantees_captureBefore (scope : InterfaceScope) :
    (captureBefore scope).Guarantees (I := bench) BenchRequest.IsQuiet
      fun _ => True := by
  refine Dialogue.guarantees_bind (guarantees_capture scope) ?_
  rintro (e | snapshot) -
  · exact Dialogue.guarantees_done trivial
  · exact Dialogue.guarantees_done trivial

end Snapshot

namespace Recovery

theorem takenIn_of_observe_produces
    {pre : Snapshot} {scope : InterfaceScope} {transcript : Transcript bench}
    {observation : Observation}
    (hrun : (observe pre scope).Produces transcript (.ok observation)) :
    observation.post.TakenIn scope transcript ∧
      observation.missing = pre.missingFrom observation.post := by
  obtain ⟨before, after, answer, rfl, hbefore, hafter⟩ :=
    Dialogue.produces_bind_iff.mp hrun
  cases answer with
  | error e =>
      obtain ⟨-, hend⟩ := Dialogue.produces_done_iff.mp hafter
      cases hend
  | ok post =>
      obtain ⟨rfl, hend⟩ := Dialogue.produces_done_iff.mp hafter
      cases hend
      rw [List.append_nil]
      exact ⟨Snapshot.takenIn_of_capture_produces hbefore, rfl⟩

theorem guarantees_observe (pre : Snapshot) (scope : InterfaceScope) :
    (observe pre scope).Guarantees (I := bench) BenchRequest.IsQuiet
      fun _ => True := by
  refine Dialogue.guarantees_bind (Snapshot.guarantees_capture scope) ?_
  rintro (e | post) -
  · exact Dialogue.guarantees_done trivial
  · exact Dialogue.guarantees_done trivial

end Recovery

end CardReboot
