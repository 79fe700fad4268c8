import CardReboot.Proofs.Guarantee
import Mathlib.Tactic.Choose

/-!
# How long a procedure takes

A procedure that looks at the clock only to find its deadlines does the same from
every instant from which these deadlines are on the clock.  It is then one dialogue,
in which each result comes with the time that passed until then, moved to the instant
at which it begins.  Such a procedure is never abandoned, and what is known about its
time is found part by part along the program.
-/

namespace CardReboot

namespace Duration

instance : Add Duration := ⟨fun d e => ⟨d.nanos + e.nanos⟩⟩

instance : LE Duration := ⟨fun d e => d.nanos ≤ e.nanos⟩

instance (d e : Duration) : Decidable (d ≤ e) := Nat.decLe d.nanos e.nanos

@[simp] theorem nanos_add (d e : Duration) : (d + e).nanos = d.nanos + e.nanos := rfl

@[simp] theorem nanos_zero : zero.nanos = 0 := rfl

theorem le_def {d e : Duration} : d ≤ e ↔ d.nanos ≤ e.nanos := Iff.rfl

theorem eq_zero_of_le_zero {d : Duration} (hle : d ≤ zero) : d = zero := by
  have hnanos : d.nanos = 0 := Nat.le_zero.mp hle
  exact congrArg Duration.mk hnanos

theorem zero_add (d : Duration) : zero + d = d :=
  congrArg Duration.mk (Nat.zero_add d.nanos)

@[simp] theorem add_zero (d : Duration) : d + zero = d := rfl

theorem add_assoc (d e f : Duration) : d + e + f = d + (e + f) :=
  congrArg Duration.mk (Nat.add_assoc d.nanos e.nanos f.nanos)

theorem times_le_times (d : Duration) {few many : Nat} (hle : few ≤ many) :
    d.times few ≤ d.times many :=
  Nat.mul_le_mul_right d.nanos hle

end Duration

namespace Instant

@[simp] theorem after_zero (start : Instant) : start.after .zero = start := rfl

theorem after_add (start : Instant) (d e : Duration) :
    start.after (d + e) = (start.after d).after e := by
  simp only [after, Duration.nanos_add, mk.injEq]
  omega

/-- The instant when `d` has passed is on the clock. -/
def HasDeadline (start : Instant) (d : Duration) : Prop :=
  (start.after d).nanos < secondLimit * Duration.nanosPerSecond

instance (start : Instant) (d : Duration) : Decidable (start.HasDeadline d) :=
  Nat.decLt (start.after d).nanos (secondLimit * Duration.nanosPerSecond)

theorem HasDeadline.deadline?_eq {start : Instant} {d : Duration} (h : start.HasDeadline d) :
    start.deadline? d = some (start.after d) :=
  if_pos h

theorem HasDeadline.mono
    {start earlier : Instant} {d e : Duration} (h : start.HasDeadline d)
    (hle : (earlier.after e).nanos ≤ (start.after d).nanos) : earlier.HasDeadline e :=
  Nat.lt_of_le_of_lt hle h

end Instant

namespace Dialogue

variable {I : Interface} {α β : Type}

/-- Whatever is answered, the dialogue has a result of this kind. -/
abbrev EndsWith (d : Dialogue I α) (ends : α → Prop) : Prop :=
  d.Guarantees (fun _ => True) ends

theorem endsWith_any (d : Dialogue I α) : d.EndsWith fun _ => True :=
  fun _ _ _ => ⟨fun _ _ => trivial, trivial⟩

theorem EndsWith.mono
    {d : Dialogue I α} {ends ends' : α → Prop} (hd : d.EndsWith ends)
    (hends : ∀ a, ends a → ends' a) : d.EndsWith ends' := by
  intro transcript a hproduces
  have hend := hd transcript a hproduces
  exact ⟨hend.1, hends a hend.2⟩

theorem EndsWith.bind_congr
    {d : Dialogue I α} {f g : α → Dialogue I β} {ends : α → Prop} (hd : d.EndsWith ends)
    (hagree : ∀ a, ends a → f a = g a) : d.bind f = d.bind g := by
  induction d with
  | done value => exact hagree value (hd [] value (.done value)).2
  | ask question next ih =>
      simp only [bind, ask.injEq, heq_eq_eq, true_and]
      funext answer
      apply ih
      intro transcript a hproduces
      have hend := hd _ a (.ask hproduces)
      exact ⟨(Transcript.asksOnly_cons.mp hend.1).2, hend.2⟩

/-- The dialogue whose results tell the time that passed, begun at `start`. -/
def beginningAt (d : Dialogue I (α × Duration)) (start : Instant) :
    Dialogue I (Option α × Instant) :=
  d.bind fun r => .done (some r.1, start.after r.2)

@[simp] theorem beginningAt_done (a : α) (elapsed : Duration) (start : Instant) :
    (done (a, elapsed) : Dialogue I (α × Duration)).beginningAt start =
      done (some a, start.after elapsed) := rfl

theorem beginningAt_bind
    (d : Dialogue I β) (f : β → Dialogue I (α × Duration)) (start : Instant) :
    (d.bind f).beginningAt start = d.bind fun b => (f b).beginningAt start :=
  bind_assoc d f _

end Dialogue

namespace Timed

variable {I : Interface} {α β : Type}

theorem startingAt_now_bind (f : Instant → Timed I β) (start : Instant) :
    (now >>= f).startingAt start = (f start).startingAt start := by
  rw [startingAt_bind, startingAt_now, Dialogue.done_bind]

theorem startingAt_ask_bind (d : Dialogue I α) (f : α → Timed I β) (start : Instant) :
    (ask d >>= f).startingAt start = d.bind fun a => (f a).startingAt start := by
  rw [startingAt_bind, startingAt_ask, Dialogue.bind_assoc]
  rfl

theorem startingAt_pause_bind [Pausing I] (d : Duration) (f : Unit → Timed I β)
    (start : Instant) :
    (pause d >>= f).startingAt start =
      (Pausing.pause d).bind fun _ => (f ()).startingAt (start.after d) := by
  rw [startingAt_bind, startingAt_pause, Dialogue.bind_assoc]
  rfl

/-- From every instant that `begins` allows the procedure is the same dialogue, moved
to that instant, and a result comes with a time as `ends` says. -/
def Takes
    (t : Timed I α) (begins : Instant → Prop) (ends : α → Duration → Prop) : Prop :=
  ∃ d : Dialogue I (α × Duration),
    (d.EndsWith fun r => ends r.1 r.2) ∧
      ∀ start, begins start → t.startingAt start = d.beginningAt start

theorem Takes.mono
    {t : Timed I α} {begins begins' : Instant → Prop} {ends ends' : α → Duration → Prop}
    (ht : t.Takes begins ends) (hbegins : ∀ start, begins' start → begins start)
    (hends : ∀ a elapsed, ends a elapsed → ends' a elapsed) : t.Takes begins' ends' := by
  obtain ⟨d, hd, hstart⟩ := ht
  refine ⟨d, hd.mono fun r => hends r.1 r.2, ?_⟩
  intro start hbegin
  exact hstart start (hbegins start hbegin)

theorem takes_pure
    {a : α} {begins : Instant → Prop} {ends : α → Duration → Prop} (ha : ends a .zero) :
    (pure a : Timed I α).Takes begins ends :=
  ⟨.done (a, .zero), Dialogue.guarantees_done ha, fun _ _ => rfl⟩

/-- Parts that let the same time pass whatever is answered. -/
theorem takes_of_startingAt
    {t : Timed I α} {d : Dialogue I α} {elapsed : Duration}
    (hstart : ∀ start, t.startingAt start = d.bind fun a => .done (some a, start.after elapsed)) :
    t.Takes (fun _ => True) fun _ took => took = elapsed := by
  refine ⟨d.bind fun a => .done (a, elapsed), ?_, ?_⟩
  · exact Dialogue.guarantees_bind d.endsWith_any fun a _ => Dialogue.guarantees_done rfl
  · intro start _
    rw [hstart, Dialogue.beginningAt_bind]
    rfl

theorem takes_ask (d : Dialogue I α) :
    (ask d).Takes (fun _ => True) fun _ elapsed => elapsed = .zero :=
  takes_of_startingAt (startingAt_ask d)

theorem takes_pause [Pausing I] (d : Duration) :
    (pause d : Timed I Unit).Takes (fun _ => True) fun _ elapsed => elapsed = d :=
  takes_of_startingAt (startingAt_pause d)

/-- The second part begins at one of the instants to which the first can lead, and its
time comes on top. -/
theorem Takes.bind
    {t : Timed I α} {f : α → Timed I β} {begins : Instant → Prop}
    {middle : α → Duration → Prop} {ends : β → Duration → Prop}
    (ht : t.Takes begins middle)
    (hf : ∀ a, (f a).Takes
      (fun now => ∃ start before, begins start ∧ middle a before ∧ now = start.after before)
      fun b after => ∀ before, middle a before → ends b (before + after)) :
    (t >>= f).Takes begins ends := by
  obtain ⟨d, hd, hfirst⟩ := ht
  -- One dialogue for each result of the first part, not for the instant where it ends.
  choose g hg hsecond using hf
  refine ⟨d.bind fun r => (g r.1).bind fun s => .done (s.1, r.2 + s.2), ?_, ?_⟩
  · apply Dialogue.guarantees_bind hd
    intro r hmiddle
    apply Dialogue.guarantees_bind (hg r.1)
    intro s hends
    exact Dialogue.guarantees_done (hends r.2 hmiddle)
  · intro start hbegins
    rw [startingAt_bind, hfirst start hbegins, Dialogue.beginningAt, Dialogue.bind_assoc,
      Dialogue.beginningAt_bind]
    apply hd.bind_congr
    intro r hmiddle
    have hnext := hsecond r.1 _ ⟨start, r.2, hbegins, hmiddle, rfl⟩
    rw [Dialogue.done_bind, Dialogue.beginningAt_bind]
    simp only [hnext, Dialogue.beginningAt, Dialogue.done_bind, Instant.after_add]

theorem Takes.bind_pure
    {t : Timed I α} {f : α → Timed I β} {g : α → β} {begins : Instant → Prop}
    {ends : β → Duration → Prop} (ht : t.Takes begins fun a elapsed => ends (g a) elapsed)
    (hf : ∀ a, f a = pure (g a)) : (t >>= f).Takes begins ends := by
  apply ht.bind
  intro a
  rw [hf a]
  exact takes_pure fun before hends => hends

theorem takes_ask_bind
    {d : Dialogue I α} {f : α → Timed I β} {begins : Instant → Prop}
    {ends : β → Duration → Prop} (hf : ∀ a, (f a).Takes begins ends) :
    (ask d >>= f).Takes begins ends := by
  have hask : (ask d).Takes begins fun _ elapsed => elapsed = .zero :=
    (takes_ask d).mono (fun _ _ => trivial) fun _ _ hzero => hzero
  apply hask.bind
  intro a
  apply (hf a).mono
  · rintro now ⟨start, before, hbegins, rfl, rfl⟩
    exact hbegins
  · rintro b after hends before rfl
    rw [Duration.zero_add]
    exact hends

theorem takes_pause_bind
    [Pausing I] {d : Duration} {f : Unit → Timed I β} {ends : β → Duration → Prop}
    (hf : ∀ done, (f done).Takes (fun _ => True) fun b elapsed => ends b (d + elapsed)) :
    (pause d >>= f).Takes (fun _ => True) ends := by
  apply (takes_pause d).bind
  intro done
  apply (hf done).mono
  · exact fun _ _ => trivial
  · rintro b after hends before rfl
    exact hends

theorem Takes.measured
    {t : Timed I α} {g : α → Duration → β} {begins : Instant → Prop}
    {middle : α → Duration → Prop} {ends : β → Duration → Prop} (ht : t.Takes begins middle)
    (hends : ∀ a elapsed, middle a elapsed → ends (g a elapsed) elapsed) :
    (now >>= fun start => t >>= fun a => now >>= fun stop =>
      pure (g a (stop.since start)) : Timed I β).Takes begins ends := by
  obtain ⟨d, hd, hstart⟩ := ht
  refine ⟨d.bind fun r => .done (g r.1 r.2, r.2), ?_, ?_⟩
  · apply Dialogue.guarantees_bind hd
    intro r hmiddle
    exact Dialogue.guarantees_done (hends r.1 r.2 hmiddle)
  · intro start hbegins
    rw [startingAt_now_bind, startingAt_bind, hstart start hbegins, Dialogue.beginningAt,
      Dialogue.bind_assoc, Dialogue.beginningAt_bind]
    congr 1
    funext r
    rw [Dialogue.done_bind, Dialogue.beginningAt_done]
    simp only [startingAt_now_bind, Instant.since_after]
    rfl

theorem answeredBy_of_startingAt
    {σ : Type} {t : Timed I α} {d : Dialogue I (α × Duration)} {start : Instant}
    (hsame : t.startingAt start = d.beginningAt start) (r : Responder I σ) (state : σ) :
    t.answeredBy r start state =
      ((some (d.run r state).1.1, start.after (d.run r state).1.2), (d.run r state).2) := by
  rw [answeredBy, hsame, Dialogue.beginningAt, Dialogue.run_bind, Dialogue.run_done]

/-- Against any responder a procedure of this kind has a result, at the instant that
the time it took leads to. -/
theorem Takes.answeredBy
    {σ : Type} {t : Timed I α} {begins : Instant → Prop} {ends : α → Duration → Prop}
    (ht : t.Takes begins ends) (r : Responder I σ) {start : Instant} (hbegins : begins start)
    (state : σ) :
    ∃ a elapsed, (t.answeredBy r start state).1 = (some a, start.after elapsed) ∧
      ends a elapsed := by
  obtain ⟨d, hd, hstart⟩ := ht
  have hresult := (hd _ _ (Dialogue.produces_transcript r d state)).2
  rw [answeredBy_of_startingAt (hstart start hbegins)]
  exact ⟨_, _, rfl, hresult⟩

end Timed

namespace Step

variable {α β : Type}

/-- The step takes at most `limit`, and goes on only after such a time. -/
def Takes
    (p : Step α) (begins : Instant → Prop) (limit : Duration) (goesOn : Duration → Prop) :
    Prop :=
  Timed.Takes p.run begins fun result elapsed =>
    elapsed ≤ limit ∧ ∀ a, result = .ok a → goesOn elapsed

theorem Takes.mono
    {p : Step α} {begins begins' : Instant → Prop} {limit limit' : Duration}
    {goesOn : Duration → Prop}
    (hp : p.Takes begins limit goesOn) (hbegins : ∀ start, begins' start → begins start)
    (hlimit : limit ≤ limit') : p.Takes begins' limit' goesOn := by
  apply Timed.Takes.mono hp hbegins
  intro result elapsed hends
  exact ⟨Nat.le_trans hends.1 hlimit, hends.2⟩

abbrev EndsWithin (p : Step α) (begins : Instant → Prop) (limit : Duration) : Prop :=
  p.Takes begins limit (· ≤ limit)

theorem EndsWithin.mono
    {p : Step α} {begins begins' : Instant → Prop} {limit limit' : Duration}
    (hp : p.EndsWithin begins limit) (hbegins : ∀ start, begins' start → begins start)
    (hlimit : limit ≤ limit') : p.EndsWithin begins' limit' := by
  apply Timed.Takes.mono hp hbegins
  intro result elapsed hends
  have hle : elapsed ≤ limit' := Nat.le_trans hends.1 hlimit
  exact ⟨hle, fun _ _ => hle⟩

/-- The second part begins only where the first goes on; where the first leaves the
case nothing is added to its time. -/
theorem Takes.bind
    {p : Step α} {f : α → Step β} {begins later : Instant → Prop} {limit rest : Duration}
    {middle goesOn : Duration → Prop}
    (hp : p.Takes begins limit middle) (hf : ∀ a, (f a).Takes later rest goesOn)
    (hlater : ∀ start before, begins start → middle before → later (start.after before)) :
    (p >>= f).EndsWithin begins (limit + rest) := by
  have hsum : ∀ {before after : Duration}, before ≤ limit → after ≤ rest →
      before + after ≤ limit + rest := Nat.add_le_add
  unfold EndsWithin Takes
  rw [run_bind_eq]
  apply Timed.Takes.bind hp
  intro result
  cases result with
  | ok a =>
      apply Timed.Takes.mono (hf a)
      · rintro now ⟨start, before, hbegins, hbefore, rfl⟩
        exact hlater start before hbegins (hbefore.2 a rfl)
      · intro found after hends before hbefore
        have hle := hsum hbefore.1 hends.1
        exact ⟨hle, fun _ _ => hle⟩
  | error exit =>
      apply Timed.takes_pure
      intro before hbefore
      have hle := hsum hbefore.1 (Nat.zero_le rest.nanos : Duration.zero ≤ rest)
      exact ⟨hle, fun _ _ => hle⟩

abbrev IsInstant (p : Step α) : Prop := p.EndsWithin (fun _ => True) .zero

theorem IsInstant.bind
    {p : Step α} {f : α → Step β} {begins : Instant → Prop} {limit : Duration}
    {goesOn : Duration → Prop}
    (hp : p.IsInstant) (hf : ∀ a, (f a).Takes begins limit goesOn) :
    (p >>= f).EndsWithin begins limit := by
  have hfirst : p.EndsWithin begins .zero :=
    hp.mono (fun _ _ => trivial) (Nat.le_refl 0)
  rw [← Duration.zero_add limit]
  apply hfirst.bind hf
  intro start before hbegins hbefore
  rw [Duration.eq_zero_of_le_zero hbefore, Instant.after_zero]
  exact hbegins

theorem EndsWithin.bind_instant
    {p : Step α} {f : α → Step β} {begins : Instant → Prop} {limit : Duration}
    (hp : p.EndsWithin begins limit) (hf : ∀ a, (f a).IsInstant) :
    (p >>= f).EndsWithin begins limit := by
  have hboth := hp.bind hf fun _ _ _ _ => trivial
  rw [Duration.add_zero] at hboth
  exact hboth

theorem isInstant_of_run_eq_pure
    {p : Step α} {result : Except Exit α} (hrun : p.run = pure result) : p.IsInstant := by
  unfold IsInstant EndsWithin Takes
  rw [hrun]
  exact Timed.takes_pure ⟨Nat.le_refl 0, fun _ _ => Nat.le_refl 0⟩

theorem isInstant_pure (a : α) : (pure a : Step α).IsInstant :=
  isInstant_of_run_eq_pure rfl

theorem isInstant_skip (reason : String) : (skip reason : Step α).IsInstant :=
  isInstant_of_run_eq_pure rfl

theorem isInstant_ofOutcome (outcome : Outcome α) : (ofOutcome outcome).IsInstant := by
  cases outcome with
  | ok a => exact isInstant_pure a
  | error failure => exact isInstant_of_run_eq_pure rfl

theorem isInstant_ofSelection (outcome : Outcome (Selection α)) :
    (ofSelection outcome).IsInstant := by
  apply (isInstant_ofOutcome outcome).bind
  intro selection
  cases selection with
  | selected choice => exact isInstant_pure choice
  | skip reason => exact isInstant_skip reason

theorem takes_timed
    {t : Timed bench (Outcome α)} {begins : Instant → Prop} {limit : Duration}
    {goesOn : Duration → Prop}
    (ht : t.Takes begins fun outcome elapsed =>
      elapsed ≤ limit ∧ ∀ a, outcome = .ok a → goesOn elapsed) :
    (timed t).Takes begins limit goesOn := by
  unfold Takes
  rw [run_timed_eq]
  refine Timed.Takes.bind_pure (ht.mono (fun _ hbegins => hbegins) ?_) fun _ => rfl
  intro outcome elapsed hends
  refine ⟨hends.1, ?_⟩
  intro a ha
  exact hends.2 a (ofResult_eq_ok_iff.mp ha)

theorem endsWithin_timed
    {t : Timed bench (Outcome α)} {begins : Instant → Prop} {limit : Duration}
    (ht : t.Takes begins fun _ elapsed => elapsed ≤ limit) :
    (timed t).EndsWithin begins limit := by
  apply takes_timed
  apply ht.mono
  · exact fun _ hbegins => hbegins
  · exact fun _ _ hle => ⟨hle, fun _ _ => hle⟩

theorem isInstant_asked (d : Dialogue bench (Outcome α)) : (asked d).IsInstant := by
  apply endsWithin_timed
  apply (Timed.takes_ask d).mono
  · exact fun _ hbegins => hbegins
  · rintro outcome elapsed rfl
    exact Nat.le_refl 0

theorem takes_pause (d : Duration) :
    (pause d).Takes (fun _ => True) d fun elapsed => elapsed = d := by
  unfold Takes pause
  rw [ExceptT.run_lift, map_eq_pure_bind]
  refine Timed.Takes.bind_pure ((Timed.takes_pause d).mono (fun _ _ => trivial) ?_) fun _ => rfl
  rintro done elapsed rfl
  exact ⟨Nat.le_refl elapsed.nanos, fun _ _ => rfl⟩

theorem EndsWithin.after_pause
    {d rest : Duration} {f : Unit → Step β} {later : Instant → Prop}
    (hf : ∀ done, (f done).EndsWithin later rest) :
    (pause d >>= f).EndsWithin (fun start => later (start.after d)) (d + rest) := by
  have hpause :=
    (takes_pause d).mono (fun start (_ : later (start.after d)) => trivial) (Nat.le_refl _)
  apply hpause.bind hf
  intro start before hlater hbefore
  rw [hbefore]
  exact hlater

end Step

end CardReboot
