import CardReboot.Campaign
import CardReboot.Proofs.TimedRun

/-!
# Runs of steps

A step of a case is a timed procedure that can leave the case.  A run of two
steps ends in the second one, unless the first leaves the case or is abandoned.
What a step guarantees whatever is answered is a law about its requests and one
about its end, and both are found part by part.
-/

namespace CardReboot

namespace Step

variable {α β : Type}

/-- A step that starts at `start` can ask what is in the transcript, get the
answers in it, and end at `stop`: by going on, by leaving the case, or abandoned. -/
def Runs
    (p : Step α) (start : Instant) (transcript : Transcript bench)
    (result : Option (Except Exit α)) (stop : Instant) : Prop :=
  Timed.Runs p.run start transcript result stop

def continued (f : α → Step β) : Except Exit α → Timed bench (Except Exit β)
  | .ok a => (f a).run
  | .error exit => pure (.error exit)

theorem run_bind_eq (p : Step α) (f : α → Step β) :
    (p >>= f).run = p.run >>= continued f := by
  rw [ExceptT.run_bind]
  congr 1
  funext result
  cases result <;> rfl

theorem runs_pure_iff
    {a : α} {start stop : Instant} {transcript : Transcript bench}
    {result : Option (Except Exit α)} :
    (pure a : Step α).Runs start transcript result stop ↔
      transcript = [] ∧ result = some (.ok a) ∧ stop = start :=
  Timed.runs_pure_iff

theorem runs_bind_ok_iff
    {p : Step α} {f : α → Step β} {start stop : Instant}
    {transcript : Transcript bench} {b : β} :
    (p >>= f).Runs start transcript (some (.ok b)) stop ↔
      ∃ before after a middle, transcript = before ++ after ∧
        p.Runs start before (some (.ok a)) middle ∧
          (f a).Runs middle after (some (.ok b)) stop := by
  rw [Runs, run_bind_eq, Timed.runs_bind_some_iff]
  constructor
  · rintro ⟨before, after, result, middle, rfl, hbefore, hafter⟩
    cases result with
    | ok a => exact ⟨before, after, a, middle, rfl, hbefore, hafter⟩
    | error exit =>
        obtain ⟨-, hend, -⟩ := Timed.runs_pure_iff.mp hafter
        cases hend
  · rintro ⟨before, after, a, middle, rfl, hbefore, hafter⟩
    exact ⟨before, after, .ok a, middle, rfl, hbefore, hafter⟩

theorem runs_bind_iff
    {p : Step α} {f : α → Step β} {start stop : Instant}
    {transcript : Transcript bench} {result : Option (Except Exit β)} :
    (p >>= f).Runs start transcript result stop ↔
      (∃ before after a middle, transcript = before ++ after ∧
        p.Runs start before (some (.ok a)) middle ∧
          (f a).Runs middle after result stop) ∨
      (∃ exit, p.Runs start transcript (some (.error exit)) stop ∧
        result = some (.error exit)) ∨
      (p.Runs start transcript none stop ∧ result = none) := by
  rw [Runs, run_bind_eq, Timed.runs_bind_iff]
  constructor
  · rintro (⟨before, after, found, middle, rfl, hbefore, hafter⟩ | hnone)
    · cases found with
      | ok a => exact .inl ⟨before, after, a, middle, rfl, hbefore, hafter⟩
      | error exit =>
          obtain ⟨rfl, rfl, rfl⟩ := Timed.runs_pure_iff.mp hafter
          rw [List.append_nil]
          exact .inr (.inl ⟨exit, hbefore, rfl⟩)
    · exact .inr (.inr hnone)
  · rintro (⟨before, after, a, middle, rfl, hbefore, hafter⟩ | ⟨exit, hexit, rfl⟩ | hnone)
    · exact .inl ⟨before, after, .ok a, middle, rfl, hbefore, hafter⟩
    · refine .inl ⟨transcript, [], .error exit, stop, by simp, hexit, ?_⟩
      exact Timed.runs_pure_iff.mpr ⟨rfl, rfl, rfl⟩
    · exact .inr hnone

theorem runs_bind_error_iff
    {p : Step α} {f : α → Step β} {start stop : Instant}
    {transcript : Transcript bench} {exit : Exit} :
    (p >>= f).Runs start transcript (some (.error exit)) stop ↔
      (∃ before after a middle, transcript = before ++ after ∧
        p.Runs start before (some (.ok a)) middle ∧
          (f a).Runs middle after (some (.error exit)) stop) ∨
      p.Runs start transcript (some (.error exit)) stop := by
  rw [runs_bind_iff]
  constructor
  · rintro (hboth | ⟨found, hfirst, hfound⟩ | ⟨-, hnone⟩)
    · exact .inl hboth
    · cases hfound
      exact .inr hfirst
    · cases hnone
  · rintro (hboth | hfirst)
    · exact .inl hboth
    · exact .inr (.inl ⟨exit, hfirst, rfl⟩)

def ofResult : Outcome α → Except Exit α
  | .ok a => .ok a
  | .error failure => .error (.fail failure)

theorem runs_ofOutcome_iff
    {outcome : Outcome α} {start stop : Instant} {transcript : Transcript bench}
    {result : Option (Except Exit α)} :
    (ofOutcome outcome).Runs start transcript result stop ↔
      transcript = [] ∧ result = some (ofResult outcome) ∧ stop = start := by
  cases outcome <;> exact Timed.runs_pure_iff

theorem ofResult_eq_ok_iff {outcome : Outcome α} {a : α} :
    ofResult outcome = .ok a ↔ outcome = .ok a := by
  cases outcome <;> simp [ofResult]

theorem runs_ofOutcome_ok_iff
    {outcome : Outcome α} {start stop : Instant} {transcript : Transcript bench} {a : α} :
    (ofOutcome outcome).Runs start transcript (some (.ok a)) stop ↔
      transcript = [] ∧ outcome = .ok a ∧ stop = start := by
  rw [runs_ofOutcome_iff, Option.some.injEq, eq_comm (a := Except.ok a), ofResult_eq_ok_iff]

theorem run_timed_eq (t : Timed bench (Outcome α)) :
    (timed t).run = t >>= fun outcome => pure (ofResult outcome) := by
  rw [timed, run_bind_eq, ExceptT.run_lift, map_eq_pure_bind, bind_assoc]
  congr 1
  funext outcome
  rw [pure_bind]
  cases outcome <;> rfl

theorem runs_timed_iff
    {t : Timed bench (Outcome α)} {start stop : Instant}
    {transcript : Transcript bench} {result : Option (Except Exit α)} :
    (timed t).Runs start transcript result stop ↔
      ∃ found, t.Runs start transcript found stop ∧ result = found.map ofResult := by
  rw [Runs, run_timed_eq, Timed.runs_bind_iff]
  constructor
  · rintro (⟨before, after, outcome, middle, rfl, hbefore, hafter⟩ | ⟨hnone, rfl⟩)
    · obtain ⟨rfl, rfl, rfl⟩ := Timed.runs_pure_iff.mp hafter
      rw [List.append_nil]
      exact ⟨some outcome, hbefore, rfl⟩
    · exact ⟨none, hnone, rfl⟩
  · rintro ⟨found, hfound, rfl⟩
    cases found with
    | none => exact .inr ⟨hfound, rfl⟩
    | some outcome =>
        exact .inl ⟨transcript, [], outcome, stop, by simp, hfound,
          Timed.runs_pure_iff.mpr ⟨rfl, rfl, rfl⟩⟩

theorem runs_timed_ok_iff
    {t : Timed bench (Outcome α)} {start stop : Instant}
    {transcript : Transcript bench} {a : α} :
    (timed t).Runs start transcript (some (.ok a)) stop ↔
      t.Runs start transcript (some (.ok a)) stop := by
  rw [runs_timed_iff]
  constructor
  · rintro ⟨found, hfound, hend⟩
    obtain ⟨outcome, rfl, houtcome⟩ := Option.map_eq_some_iff.mp hend.symm
    rw [← ofResult_eq_ok_iff.mp houtcome]
    exact hfound
  · intro hrun
    exact ⟨_, hrun, rfl⟩

theorem runs_asked_iff
    {d : Dialogue bench (Outcome α)} {start stop : Instant}
    {transcript : Transcript bench} {result : Option (Except Exit α)} :
    (asked d).Runs start transcript result stop ↔
      ∃ outcome, d.Produces transcript outcome ∧ result = some (ofResult outcome) ∧
        stop = start := by
  rw [asked, runs_timed_iff]
  constructor
  · rintro ⟨found, hfound, rfl⟩
    obtain ⟨outcome, houtcome, rfl, rfl⟩ := Timed.runs_ask_iff.mp hfound
    exact ⟨outcome, houtcome, rfl, rfl⟩
  · rintro ⟨outcome, houtcome, rfl, rfl⟩
    exact ⟨some outcome, Timed.runs_ask_iff.mpr ⟨outcome, houtcome, rfl, rfl⟩, rfl⟩

theorem not_runs_asked_skip
    {d : Dialogue bench (Outcome α)} {start stop : Instant}
    {transcript : Transcript bench} {reason : String} :
    ¬ (asked d).Runs start transcript (some (.error (.skip reason))) stop := by
  rw [runs_asked_iff]
  rintro ⟨outcome, -, hend, -⟩
  cases outcome <;> cases hend

theorem runs_asked_ok_iff
    {d : Dialogue bench (Outcome α)} {start stop : Instant}
    {transcript : Transcript bench} {a : α} :
    (asked d).Runs start transcript (some (.ok a)) stop ↔
      d.Produces transcript (.ok a) ∧ stop = start := by
  rw [asked, runs_timed_ok_iff, Timed.runs_ask_iff]
  constructor
  · rintro ⟨outcome, houtcome, hend, rfl⟩
    cases hend
    exact ⟨houtcome, rfl⟩
  · rintro ⟨houtcome, rfl⟩
    exact ⟨_, houtcome, rfl, rfl⟩

theorem skip_bind (reason : String) (f : α → Step β) : skip reason >>= f = skip reason := rfl

theorem runs_skip_iff
    {reason : String} {start stop : Instant} {transcript : Transcript bench}
    {result : Option (Except Exit α)} :
    (skip reason : Step α).Runs start transcript result stop ↔
      transcript = [] ∧ result = some (.error (.skip reason)) ∧ stop = start :=
  Timed.runs_pure_iff

theorem runs_pause_iff
    {d : Duration} {start stop : Instant} {transcript : Transcript bench}
    {result : Option (Except Exit Unit)} :
    (pause d).Runs start transcript result stop ↔
      transcript = [⟨.pause d, ()⟩] ∧ result = some (.ok ()) ∧ stop = start.after d := by
  rw [Runs, pause, ExceptT.run_lift, map_eq_pure_bind, Timed.runs_pause_bind_iff]
  constructor
  · rintro ⟨rest, rfl, hrest⟩
    obtain ⟨rfl, rfl, rfl⟩ := Timed.runs_pure_iff.mp hrest
    exact ⟨rfl, rfl, rfl⟩
  · rintro ⟨rfl, rfl, rfl⟩
    exact ⟨[], rfl, Timed.runs_pure_iff.mpr ⟨rfl, rfl, rfl⟩⟩

def ofSelected : Outcome (Selection α) → Except Exit α
  | .ok (.selected choice) => .ok choice
  | .ok (.skip reason) => .error (.skip reason)
  | .error failure => .error (.fail failure)

theorem runs_ofSelection_iff
    {outcome : Outcome (Selection α)} {start stop : Instant}
    {transcript : Transcript bench} {result : Option (Except Exit α)} :
    (ofSelection outcome).Runs start transcript result stop ↔
      transcript = [] ∧ result = some (ofSelected outcome) ∧ stop = start := by
  rcases outcome with failure | choice | reason <;> exact Timed.runs_pure_iff

theorem runs_ofSelection_ok_iff
    {outcome : Outcome (Selection α)} {start stop : Instant}
    {transcript : Transcript bench} {choice : α} :
    (ofSelection outcome).Runs start transcript (some (.ok choice)) stop ↔
      transcript = [] ∧ outcome = .ok (.selected choice) ∧ stop = start := by
  rw [runs_ofSelection_iff, Option.some.injEq]
  rcases outcome with failure | found | reason <;> simp [ofSelected, eq_comm]

end Step

end CardReboot
