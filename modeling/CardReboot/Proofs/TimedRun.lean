import CardReboot.Bench

/-!
# Runs of timed procedures

A run of a timed procedure is its start, the transcript of what it asked, its
result and the time at its end.  The inversion lemmas take a run apart along the
program, so that nothing below has to look at the layers of the monad.  A run
against a responder is one of these runs, which is how a law about all runs
becomes a law about every device.
-/

namespace CardReboot

def Duration.times (d : Duration) (count : Nat) : Duration := ⟨count * d.nanos⟩

@[simp] theorem Instant.after_times_zero (start : Instant) (d : Duration) :
    start.after (d.times 0) = start := by
  simp [after, Duration.times]

theorem Instant.after_times_succ (start : Instant) (d : Duration) (count : Nat) :
    start.after (d.times (count + 1)) = (start.after (d.times count)).after d := by
  simp only [after, Duration.times, mk.injEq, Nat.add_mul]
  omega

theorem Instant.after_after_times (start : Instant) (d : Duration) (count : Nat) :
    (start.after d).after (d.times count) = start.after (d.times (count + 1)) := by
  simp only [after, Duration.times, mk.injEq, Nat.add_mul]
  omega

@[simp] theorem Instant.since_after (start : Instant) (d : Duration) :
    (start.after d).since start = d := by
  simp [after, since]

namespace Dialogue

variable {I : Interface} {α β : Type}

theorem produces_done_iff {value a : α} {transcript : Transcript I} :
    (done value : Dialogue I α).Produces transcript a ↔
      transcript = [] ∧ a = value := by
  constructor
  · intro h
    cases h
    exact ⟨rfl, rfl⟩
  · rintro ⟨rfl, rfl⟩
    exact .done _

theorem produces_ask_iff
    {question : I.Question} {next : I.Answer question → Dialogue I α}
    {transcript : Transcript I} {a : α} :
    (ask question next).Produces transcript a ↔
      ∃ answer rest, transcript = ⟨question, answer⟩ :: rest ∧
        (next answer).Produces rest a := by
  constructor
  · intro h
    cases h with
    | ask rest => exact ⟨_, _, rfl, rest⟩
  · rintro ⟨answer, rest, rfl, hrest⟩
    exact .ask hrest

theorem produces_question_iff
    {q : I.Question} {transcript : Transcript I} {a : I.Answer q} :
    (question q).Produces transcript a ↔ transcript = [⟨q, a⟩] := by
  rw [question, produces_ask_iff]
  constructor
  · rintro ⟨answer, rest, rfl, hrest⟩
    obtain ⟨rfl, rfl⟩ := produces_done_iff.mp hrest
    rfl
  · rintro rfl
    exact ⟨a, [], rfl, .done a⟩

theorem produces_bind_iff
    {d : Dialogue I α} {f : α → Dialogue I β} {transcript : Transcript I} {b : β} :
    (d.bind f).Produces transcript b ↔
      ∃ before after a, transcript = before ++ after ∧ d.Produces before a ∧
        (f a).Produces after b := by
  constructor
  · exact exists_of_produces_bind
  · rintro ⟨before, after, a, rfl, hbefore, hafter⟩
    exact hbefore.bind hafter

theorem produces_question_bind_iff
    {q : I.Question} {f : I.Answer q → Dialogue I β}
    {transcript : Transcript I} {b : β} :
    ((question q).bind f).Produces transcript b ↔
      ∃ answer rest, transcript = ⟨q, answer⟩ :: rest ∧
        (f answer).Produces rest b := by
  rw [question, bind]
  exact produces_ask_iff

end Dialogue

namespace Timed

variable {I : Interface} {α β σ : Type}

theorem startingAt_pure (a : α) (start : Instant) :
    (pure a : Timed I α).startingAt start = .done (some a, start) := rfl

theorem startingAt_bind (t : Timed I α) (f : α → Timed I β) (start : Instant) :
    (t >>= f).startingAt start =
      (t.startingAt start).bind fun r =>
        match r.1 with
        | some a => (f a).startingAt r.2
        | none => .done (none, r.2) := by
  change Dialogue.bind (t.startingAt start) _ = _
  congr 1
  funext r
  rcases r with ⟨_ | a, stop⟩ <;> rfl

theorem startingAt_now (start : Instant) :
    (now : Timed I Instant).startingAt start = .done (some start, start) := rfl

theorem startingAt_abandoned (start : Instant) :
    (abandoned : Timed I α).startingAt start = .done (none, start) := rfl

theorem startingAt_ask (d : Dialogue I α) (start : Instant) :
    (ask d).startingAt start = d.bind fun a => .done (some a, start) := by
  change (d.bind _).bind _ = _
  rw [Dialogue.bind_assoc]
  rfl

theorem startingAt_pause [Pausing I] (d : Duration) (start : Instant) :
    (pause d : Timed I Unit).startingAt start =
      (Pausing.pause d).bind fun _ => .done (some (), start.after d) := by
  change ((Pausing.pause d).bind _).bind _ = _
  rw [Dialogue.bind_assoc]
  rfl

/-- A procedure that starts at `start` can ask what is in the transcript, get the
answers in it, and end at `stop` with this result, or abandoned. -/
def Runs
    (t : Timed I α) (start : Instant) (transcript : Transcript I)
    (result : Option α) (stop : Instant) : Prop :=
  (t.startingAt start).Produces transcript (result, stop)

theorem runs_pure_iff
    {a : α} {start stop : Instant} {transcript : Transcript I} {result : Option α} :
    (pure a : Timed I α).Runs start transcript result stop ↔
      transcript = [] ∧ result = some a ∧ stop = start := by
  rw [Runs, startingAt_pure, Dialogue.produces_done_iff, Prod.mk.injEq]

theorem runs_now_iff
    {start stop : Instant} {transcript : Transcript I} {result : Option Instant} :
    (now : Timed I Instant).Runs start transcript result stop ↔
      transcript = [] ∧ result = some start ∧ stop = start := by
  rw [Runs, startingAt_now, Dialogue.produces_done_iff, Prod.mk.injEq]

theorem runs_abandoned_iff
    {start stop : Instant} {transcript : Transcript I} {result : Option α} :
    (abandoned : Timed I α).Runs start transcript result stop ↔
      transcript = [] ∧ result = none ∧ stop = start := by
  rw [Runs, startingAt_abandoned, Dialogue.produces_done_iff, Prod.mk.injEq]

theorem runs_ask_iff
    {d : Dialogue I α} {start stop : Instant} {transcript : Transcript I}
    {result : Option α} :
    (ask d).Runs start transcript result stop ↔
      ∃ a, d.Produces transcript a ∧ result = some a ∧ stop = start := by
  rw [Runs, startingAt_ask, Dialogue.produces_bind_iff]
  constructor
  · rintro ⟨before, after, a, rfl, hbefore, hafter⟩
    obtain ⟨rfl, hend⟩ := Dialogue.produces_done_iff.mp hafter
    rw [Prod.mk.injEq] at hend
    rw [List.append_nil]
    exact ⟨a, hbefore, hend⟩
  · rintro ⟨a, ha, rfl, rfl⟩
    exact ⟨transcript, [], a, by simp, ha, .done _⟩

/-- A run of two parts ends in the second one, unless the first is abandoned. -/
theorem runs_bind_iff
    {t : Timed I α} {f : α → Timed I β} {start stop : Instant}
    {transcript : Transcript I} {result : Option β} :
    (t >>= f).Runs start transcript result stop ↔
      (∃ before after a middle, transcript = before ++ after ∧
        t.Runs start before (some a) middle ∧
          (f a).Runs middle after result stop) ∨
      (t.Runs start transcript none stop ∧ result = none) := by
  rw [Runs, startingAt_bind, Dialogue.produces_bind_iff]
  constructor
  · rintro ⟨before, after, ⟨found, middle⟩, rfl, hbefore, hafter⟩
    cases found with
    | some a => exact .inl ⟨before, after, a, middle, rfl, hbefore, hafter⟩
    | none =>
        obtain ⟨rfl, hend⟩ := Dialogue.produces_done_iff.mp hafter
        rw [Prod.mk.injEq] at hend
        obtain ⟨rfl, rfl⟩ := hend
        rw [List.append_nil]
        exact .inr ⟨hbefore, rfl⟩
  · rintro (⟨before, after, a, middle, rfl, hbefore, hafter⟩ | ⟨hnone, rfl⟩)
    · exact ⟨before, after, (some a, middle), rfl, hbefore, hafter⟩
    · exact ⟨transcript, [], (none, stop), by simp, hnone, .done _⟩

theorem runs_bind_some_iff
    {t : Timed I α} {f : α → Timed I β} {start stop : Instant}
    {transcript : Transcript I} {b : β} :
    (t >>= f).Runs start transcript (some b) stop ↔
      ∃ before after a middle, transcript = before ++ after ∧
        t.Runs start before (some a) middle ∧
          (f a).Runs middle after (some b) stop := by
  rw [runs_bind_iff]
  simp

theorem runs_now_bind_iff
    {f : Instant → Timed I β} {start stop : Instant} {transcript : Transcript I}
    {result : Option β} :
    (now >>= f).Runs start transcript result stop ↔
      (f start).Runs start transcript result stop := by
  rw [runs_bind_iff]
  constructor
  · rintro (⟨before, after, a, middle, rfl, hnow, hrest⟩ | ⟨hnow, -⟩)
    · obtain ⟨rfl, ha, rfl⟩ := runs_now_iff.mp hnow
      cases ha
      exact hrest
    · cases (runs_now_iff.mp hnow).2.1
  · intro h
    exact .inl ⟨[], transcript, start, start, rfl, runs_now_iff.mpr ⟨rfl, rfl, rfl⟩, h⟩

theorem runs_ask_bind_iff
    {d : Dialogue I α} {f : α → Timed I β} {start stop : Instant}
    {transcript : Transcript I} {result : Option β} :
    (ask d >>= f).Runs start transcript result stop ↔
      ∃ before after a, transcript = before ++ after ∧ d.Produces before a ∧
        (f a).Runs start after result stop := by
  rw [runs_bind_iff]
  constructor
  · rintro (⟨before, after, a, middle, rfl, hask, hrest⟩ | ⟨hask, -⟩)
    · obtain ⟨found, hfound, ha, rfl⟩ := runs_ask_iff.mp hask
      cases ha
      exact ⟨before, after, a, rfl, hfound, hrest⟩
    · obtain ⟨found, -, hfound, -⟩ := runs_ask_iff.mp hask
      cases hfound
  · rintro ⟨before, after, a, rfl, hbefore, hafter⟩
    exact .inl
      ⟨before, after, a, start, rfl, runs_ask_iff.mpr ⟨a, hbefore, rfl, rfl⟩, hafter⟩

theorem runs_pause_iff
    {d : Duration} {start stop : Instant} {transcript : Transcript bench}
    {result : Option Unit} :
    (pause d : Timed bench Unit).Runs start transcript result stop ↔
      transcript = [⟨.pause d, ()⟩] ∧ result = some () ∧ stop = start.after d := by
  rw [Runs, startingAt_pause]
  constructor
  · intro h
    obtain ⟨_, rest, rfl, hrest⟩ := Dialogue.produces_question_bind_iff.mp h
    obtain ⟨rfl, hend⟩ := Dialogue.produces_done_iff.mp hrest
    rw [Prod.mk.injEq] at hend
    exact ⟨rfl, hend⟩
  · rintro ⟨rfl, rfl, rfl⟩
    exact .ask (.done _)

theorem runs_pause_bind_iff
    {d : Duration} {f : Unit → Timed bench β} {start stop : Instant}
    {transcript : Transcript bench} {result : Option β} :
    (pause d >>= f).Runs start transcript result stop ↔
      ∃ rest, transcript = ⟨.pause d, ()⟩ :: rest ∧
        (f ()).Runs (start.after d) rest result stop := by
  rw [runs_bind_iff]
  constructor
  · rintro (⟨before, after, _, middle, rfl, hpause, hrest⟩ | ⟨hpause, -⟩)
    · obtain ⟨rfl, -, rfl⟩ := runs_pause_iff.mp hpause
      exact ⟨after, rfl, hrest⟩
    · cases (runs_pause_iff.mp hpause).2.1
  · rintro ⟨rest, rfl, hrest⟩
    exact .inl
      ⟨[_], rest, (), _, rfl, runs_pause_iff.mpr ⟨rfl, rfl, rfl⟩, hrest⟩

/-! ## Runs against a responder -/

/-- The result and the time at the end when a responder answers, and the state
in which that leaves the responder. -/
def answeredBy
    (t : Timed I α) (r : Responder I σ) (start : Instant) (state : σ) :
    (Option α × Instant) × σ :=
  (t.startingAt start).run r state

def exchangesWith
    (t : Timed I α) (r : Responder I σ) (start : Instant) (state : σ) :
    Transcript I :=
  (t.startingAt start).transcript r state

/-- Whatever a responder answers makes a run. -/
theorem runs_answeredBy
    (t : Timed I α) (r : Responder I σ) (start : Instant) (state : σ) :
    t.Runs start (t.exchangesWith r start state)
      (t.answeredBy r start state).1.1 (t.answeredBy r start state).1.2 :=
  Dialogue.produces_transcript r (t.startingAt start) state

variable (r : Responder I σ) (start : Instant) (state : σ)

@[simp] theorem answeredBy_pure (a : α) :
    (pure a : Timed I α).answeredBy r start state = ((some a, start), state) := rfl

@[simp] theorem answeredBy_now :
    (now : Timed I Instant).answeredBy r start state =
      ((some start, start), state) := rfl

@[simp] theorem answeredBy_ask (d : Dialogue I α) :
    (ask d).answeredBy r start state =
      ((some (d.run r state).1, start), (d.run r state).2) := by
  rw [answeredBy, startingAt_ask, Dialogue.run_bind, Dialogue.run_done]

@[simp] theorem answeredBy_pause [Pausing I] (d : Duration) :
    (pause d : Timed I Unit).answeredBy r start state =
      ((some (), start.after d), ((Pausing.pause d).run r state).2) := by
  rw [answeredBy, startingAt_pause, Dialogue.run_bind, Dialogue.run_done]

theorem answeredBy_bind_of_some
    {t : Timed I α} {f : α → Timed I β} {a : α} {middle : Instant} {between : σ}
    (ht : t.answeredBy r start state = ((some a, middle), between)) :
    (t >>= f).answeredBy r start state = (f a).answeredBy r middle between := by
  rw [answeredBy] at ht
  rw [answeredBy, startingAt_bind, Dialogue.run_bind, ht]
  rfl

theorem answeredBy_bind_of_none
    {t : Timed I α} {f : α → Timed I β} {stop : Instant} {later : σ}
    (ht : t.answeredBy r start state = ((none, stop), later)) :
    (t >>= f).answeredBy r start state = ((none, stop), later) := by
  rw [answeredBy] at ht
  rw [answeredBy, startingAt_bind, Dialogue.run_bind, ht]
  rfl

theorem exchangesWith_bind_of_some
    {t : Timed I α} {f : α → Timed I β} {a : α} {middle : Instant} {between : σ}
    (ht : t.answeredBy r start state = ((some a, middle), between)) :
    (t >>= f).exchangesWith r start state =
      t.exchangesWith r start state ++ (f a).exchangesWith r middle between := by
  rw [answeredBy] at ht
  rw [exchangesWith, startingAt_bind, Dialogue.transcript_bind, ht]
  rfl

@[simp] theorem exchangesWith_pure (a : α) :
    (pure a : Timed I α).exchangesWith r start state = [] := rfl

end Timed

end CardReboot
