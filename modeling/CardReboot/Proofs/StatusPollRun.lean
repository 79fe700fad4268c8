import CardReboot.StatusPoll
import CardReboot.Proofs.TimedRun
import Mathlib.Data.Set.Card
import Mathlib.Order.Interval.Finset.Nat
import Mathlib.Order.Lattice.Nat

/-!
# The runs of a status poll

The poll is followed against any service, with the clock moved by its pauses
alone.  A round that finds the deadline ahead and an answer that decides nothing
leads to the next round; the first other round ends the poll.  So the outcome is
settled by the first decisive answer and by the number of queries that come
before the deadline, and the report keeps what the answers up to then said.
-/

namespace CardReboot

namespace StatusPoll

/-! ## The answers of a service -/

section Service

variable {σ : Type} (service : Responder bench σ) (request : StatusRequest)

/-- One pause, one query and its answer. -/
def round (state : σ) : Answered RebootStatus × σ :=
  (Bench.rebootStatus request).run service
    ((Pausing.pause (I := bench) interval).run service state).2

def settled (state : σ) : Nat → σ
  | 0 => state
  | queries + 1 => (round service request (settled state queries)).2

/-- The answer to the query with this number, counted from one. -/
def answer (state : σ) (query : Nat) : Answered RebootStatus :=
  (round service request (settled service request state (query - 1))).1

end Service

/-- The reboot is over, or the device does not know the question. -/
def IsDecisive : Answered RebootStatus → Prop
  | .ok status => status.active = false
  | .error e => e.isUnimplemented = true

def ending : Answered RebootStatus → PollState
  | .ok _ => .completed
  | .error _ => .unsupported

theorem next_eq_of_isDecisive
    {found : Answered RebootStatus} (hfound : IsDecisive found) :
    PollState.polling.next found = ending found := by
  cases found with
  | error e => simp [PollState.next, ending, show e.isUnimplemented = true from hfound]
  | ok status => simp [PollState.next, ending, show status.active = false from hfound]

theorem next_eq_of_not_isDecisive
    {found : Answered RebootStatus} (hfound : ¬ IsDecisive found) :
    PollState.polling.next found = .polling := by
  cases found with
  | error e => simpa [PollState.next, IsDecisive] using hfound
  | ok status => simpa [PollState.next, IsDecisive] using hfound

theorem isTerminal_ending (found : Answered RebootStatus) :
    (ending found).isTerminal = true := by
  cases found <;> rfl

/-! ## What a report keeps of the answers -/

variable (answers : Nat → Answered RebootStatus)

/-- The last status among the answers to the first queries. -/
def lastStatus (queries : Nat) : Option RebootStatus :=
  ((List.range' 1 queries).filterMap fun query => (answers query).toOption).getLast?

/-- The text of the last answer when that is an error. -/
def lastError : Nat → Option String
  | 0 => none
  | query + 1 =>
      match answers (query + 1) with
      | .error e => some e.message
      | .ok _ => none

def reportAfter (queries : Nat) (state : PollState) (pauses : Nat) : PollReport :=
  ⟨state, interval.times pauses, queries, lastStatus answers queries,
    lastError answers queries⟩

def progressAfter : Nat → Progress
  | 0 => .start
  | queries + 1 => (progressAfter queries).record (answers (queries + 1))

theorem lastStatus_succ (queries : Nat) :
    lastStatus answers (queries + 1) =
      (answers (queries + 1)).toOption.or (lastStatus answers queries) := by
  cases hanswer : answers (queries + 1) <;>
    simp [lastStatus, List.range'_concat, hanswer, Nat.add_comm 1 queries,
      Except.toOption]

theorem progressAfter_eq (queries : Nat) :
    progressAfter answers queries =
      ⟨queries, lastStatus answers queries, lastError answers queries⟩ := by
  induction queries with
  | zero => rfl
  | succ queries ih =>
      rw [progressAfter, ih, lastStatus_succ, lastError]
      cases answers (queries + 1) <;> rfl

theorem report_progressAfter (queries : Nat) (state : PollState) (pauses : Nat) :
    (progressAfter answers queries).report state (interval.times pauses) =
      reportAfter answers queries state pauses := by
  rw [progressAfter_eq]
  rfl

/-! ## The loop -/

/-- The query with this number comes before the deadline. -/
def InTime (deadline : Option Instant) (start : Instant) (query : Nat) : Prop :=
  ∀ d ∈ deadline, (start.after (interval.times query)).nanos < d.nanos

theorem isDue_eq_false_iff
    {deadline : Option Instant} {start : Instant} {query : Nat} :
    isDue deadline (start.after (interval.times query)) = false ↔
      InTime deadline start query := by
  cases deadline <;> simp [isDue, InTime]

theorem InTime.of_succ
    {deadline : Option Instant} {start : Instant} {query : Nat}
    (hsucc : InTime deadline start (query + 1)) : InTime deadline start query := by
  intro d hd
  have hlater := hsucc d hd
  rw [Instant.after_times_succ] at hlater
  exact Nat.lt_of_le_of_lt (Nat.le_add_right _ _) hlater

def Continues (deadline : Option Instant) (start : Instant) (query : Nat) : Prop :=
  InTime deadline start query ∧ ¬ IsDecisive (answers query)

section Loop

variable {σ : Type} (service : Responder bench σ) (request : StatusRequest)
  (deadline : Option Instant) (start : Instant) (state : σ)

def loopAfter (rounds queries : Nat) : (Option PollReport × Instant) × σ :=
  (keepAsking request deadline start rounds
      (progressAfter (answer service request state) queries)).answeredBy service
    (start.after (interval.times queries)) (settled service request state queries)

theorem loopAfter_succ (rounds queries : Nat) :
    loopAfter service request deadline start state (rounds + 1) queries =
      (if isDue deadline (start.after (interval.times (queries + 1))) then
        pure ((progressAfter (answer service request state) queries).report .timedOut
          (interval.times (queries + 1)))
      else do
        let found ← Timed.ask (Bench.rebootStatus request)
        let progress := (progressAfter (answer service request state) queries).record found
        if (PollState.polling.next found).isTerminal then
          pure (progress.report (PollState.polling.next found)
            (interval.times (queries + 1)))
        else keepAsking request deadline start rounds progress).answeredBy service
      (start.after (interval.times (queries + 1)))
      ((Pausing.pause (I := bench) interval).run service
        (settled service request state queries)).2 := by
  rw [loopAfter, keepAsking,
    Timed.answeredBy_bind_of_some _ _ _ (Timed.answeredBy_pause _ _ _ _),
    Timed.answeredBy_bind_of_some _ _ _ (Timed.answeredBy_now _ _ _),
    ← Instant.after_times_succ, Instant.since_after]

theorem loopAfter_of_due
    {rounds queries : Nat} (hdue : ¬ InTime deadline start (queries + 1)) :
    (loopAfter service request deadline start state (rounds + 1) queries).1 =
      (some (reportAfter (answer service request state) queries .timedOut (queries + 1)),
        start.after (interval.times (queries + 1))) := by
  rw [← isDue_eq_false_iff, Bool.not_eq_false] at hdue
  rw [loopAfter_succ, if_pos hdue, Timed.answeredBy_pure, report_progressAfter]

theorem loopAfter_of_inTime
    {rounds queries : Nat} (htime : InTime deadline start (queries + 1)) :
    loopAfter service request deadline start state (rounds + 1) queries =
      (if (PollState.polling.next
          (answer service request state (queries + 1))).isTerminal then
        pure (reportAfter (answer service request state) (queries + 1)
          (PollState.polling.next (answer service request state (queries + 1)))
            (queries + 1))
      else
        keepAsking request deadline start rounds
          (progressAfter (answer service request state) (queries + 1))).answeredBy service
      (start.after (interval.times (queries + 1)))
      (settled service request state (queries + 1)) := by
  rw [loopAfter_succ, if_neg (by rw [isDue_eq_false_iff.mpr htime]; exact Bool.false_ne_true),
    Timed.answeredBy_bind_of_some _ _ _ (Timed.answeredBy_ask _ _ _ _),
    ← report_progressAfter]
  rfl

theorem loopAfter_of_decisive
    {rounds queries : Nat} (htime : InTime deadline start (queries + 1))
    (hdecisive : IsDecisive (answer service request state (queries + 1))) :
    (loopAfter service request deadline start state (rounds + 1) queries).1 =
      (some (reportAfter (answer service request state) (queries + 1)
          (ending (answer service request state (queries + 1))) (queries + 1)),
        start.after (interval.times (queries + 1))) := by
  rw [loopAfter_of_inTime _ _ _ _ _ htime, next_eq_of_isDecisive hdecisive,
    if_pos (isTerminal_ending _), Timed.answeredBy_pure]

theorem loopAfter_of_continues
    {rounds queries : Nat}
    (hcontinues : Continues (answer service request state) deadline start (queries + 1)) :
    loopAfter service request deadline start state (rounds + 1) queries =
      loopAfter service request deadline start state rounds (queries + 1) := by
  rw [loopAfter_of_inTime _ _ _ _ _ hcontinues.1, next_eq_of_not_isDecisive hcontinues.2,
    if_neg (by decide)]
  rfl

inductive LoopEnds (answers : Nat → Answered RebootStatus)
    (deadline : Option Instant) (start : Instant) (rounds : Nat) :
    Option PollReport × Instant → Prop
  | due {queries : Nat} (hcount : queries < rounds)
      (hbefore : ∀ query, 1 ≤ query → query ≤ queries →
        Continues answers deadline start query)
      (hdue : ¬ InTime deadline start (queries + 1)) :
      LoopEnds answers deadline start rounds
        (some (reportAfter answers queries .timedOut (queries + 1)),
          start.after (interval.times (queries + 1)))
  | decided {queries : Nat} (hcount : queries < rounds)
      (hbefore : ∀ query, 1 ≤ query → query ≤ queries →
        Continues answers deadline start query)
      (htime : InTime deadline start (queries + 1))
      (hdecisive : IsDecisive (answers (queries + 1))) :
      LoopEnds answers deadline start rounds
        (some (reportAfter answers (queries + 1) (ending (answers (queries + 1)))
            (queries + 1)),
          start.after (interval.times (queries + 1)))
  | abandoned {stop : Instant}
      (hall : ∀ query, 1 ≤ query → query ≤ rounds →
        Continues answers deadline start query) :
      LoopEnds answers deadline start rounds (none, stop)

theorem loopEnds_loopAfter
    (rounds queries : Nat)
    (hbefore : ∀ query, 1 ≤ query → query ≤ queries →
      Continues (answer service request state) deadline start query) :
    LoopEnds (answer service request state) deadline start (queries + rounds)
      (loopAfter service request deadline start state rounds queries).1 := by
  induction rounds generalizing queries with
  | zero => exact .abandoned hbefore
  | succ rounds ih =>
      by_cases htime : InTime deadline start (queries + 1)
      · by_cases hdecisive : IsDecisive (answer service request state (queries + 1))
        · rw [loopAfter_of_decisive _ _ _ _ _ htime hdecisive]
          exact .decided (by omega) hbefore htime hdecisive
        · rw [loopAfter_of_continues _ _ _ _ _ ⟨htime, hdecisive⟩,
            show queries + (rounds + 1) = queries + 1 + rounds by omega]
          apply ih
          intro query hpositive hquery
          rcases Nat.lt_or_eq_of_le hquery with hless | rfl
          · exact hbefore query hpositive (by omega)
          · exact ⟨htime, hdecisive⟩
      · rw [loopAfter_of_due _ _ _ _ _ htime]
        exact .due (by omega) hbefore htime

end Loop

/-! ## The number of queries before the deadline -/

theorem InTime.of_le
    {deadline : Option Instant} {start : Instant} {earlier later : Nat}
    (hle : earlier ≤ later) (htime : InTime deadline start later) :
    InTime deadline start earlier := by
  induction later, hle using Nat.le_induction with
  | base => exact htime
  | succ later hle ih => exact ih htime.of_succ

/-- The queries before the deadline are the first ones, so to lie among them is to
be no more than their number. -/
theorem le_encard_inTime_iff
    {deadline : Option Instant} {start : Instant} {query : Nat} (hpositive : 1 ≤ query) :
    (query : ℕ∞) ≤ {query | 1 ≤ query ∧ InTime deadline start query}.encard ↔
      InTime deadline start query := by
  constructor
  · intro hle
    by_contra hlate
    have hsubset :
        {query | 1 ≤ query ∧ InTime deadline start query} ⊆
          (Finset.Icc 1 (query - 1) : Set ℕ) := by
      rintro other ⟨hother, htime⟩
      have hless : other < query := by
        by_contra hnot
        exact hlate (htime.of_le (Nat.le_of_not_lt hnot))
      rw [Finset.mem_coe, Finset.mem_Icc]
      omega
    have hcard := hle.trans (Set.encard_le_encard hsubset)
    rw [Set.encard_coe_eq_coe_finsetCard, Nat.card_Icc, Nat.cast_le] at hcard
    omega
  · intro htime
    have hsubset :
        (Finset.Icc 1 query : Set ℕ) ⊆
          {query | 1 ≤ query ∧ InTime deadline start query} := by
      intro other hother
      rw [Finset.mem_coe, Finset.mem_Icc] at hother
      exact ⟨hother.1, htime.of_le hother.2⟩
    have hcard := Set.encard_le_encard hsubset
    rwa [Set.encard_coe_eq_coe_finsetCard, Nat.card_Icc, Nat.add_sub_cancel] at hcard

theorem not_inTime_rounds
    (patience : Nat) (start deadline : Instant) :
    ¬ InTime (some deadline) start (rounds patience start (some deadline)) := by
  intro htime
  have hbefore := htime deadline rfl
  simp only [rounds, interval, Instant.after, Instant.since, Duration.times,
    Duration.ofSeconds, Duration.nanosPerSecond] at hbefore
  omega

theorem le_rounds_of_inTime
    {patience : Nat} {start : Instant} {deadline : Option Instant} {query : Nat}
    (htime : InTime deadline start query)
    (hpatience : deadline = none → query ≤ patience) :
    query ≤ rounds patience start deadline := by
  cases deadline with
  | none => exact hpatience rfl
  | some deadline =>
      by_contra hless
      exact not_inTime_rounds patience start deadline
        (htime.of_le (Nat.le_of_not_le hless))

theorem lt_rounds_of_inTime_iff
    (patience : Nat) {start : Instant} {deadline : Option Instant} {last : Nat}
    (hlast : ∀ query, 1 ≤ query → (InTime deadline start query ↔ query ≤ last)) :
    last < rounds patience start deadline := by
  cases deadline with
  | none =>
      have hnever : InTime none start (last + 1) := by
        intro d hd
        cases hd
      have hle := (hlast (last + 1) (by omega)).mp hnever
      omega
  | some deadline =>
      by_contra hless
      have hpositive : 1 ≤ rounds patience start (some deadline) := Nat.succ_pos _
      exact not_inTime_rounds patience start deadline
        ((hlast _ hpositive).mpr (Nat.le_of_not_lt hless))

/-! ## The outcome -/

/-- What the report of a poll that ran out of time says about the last answer. -/
def observed (answers : Nat → Answered RebootStatus) : Nat → String
  | 0 => "no status answer"
  | query + 1 =>
      match answers (query + 1) with
      | .error e => "error: " ++ e.message
      | .ok _ => "active=true"

theorem lastObserved_reportAfter
    {answers : Nat → Answered RebootStatus} {queries pauses : Nat} {state : PollState}
    (hlast : 1 ≤ queries → ¬ IsDecisive (answers queries)) :
    (reportAfter answers queries state pauses).lastObserved = observed answers queries := by
  cases queries with
  | zero => rfl
  | succ queries =>
      have hundecided := hlast (by omega)
      cases hanswer : answers (queries + 1) with
      | error e =>
          simp [PollReport.lastObserved, reportAfter, observed, lastError, hanswer]
      | ok status =>
          rw [hanswer] at hundecided
          have hactive : status.active = true := Bool.of_not_eq_false hundecided
          simp [PollReport.lastObserved, reportAfter, observed, lastError,
            lastStatus_succ, hanswer, hactive, Except.toOption]

section Ends

variable {answers : Nat → Answered RebootStatus} {deadline : Option Instant}
  {start : Instant} {rounds : Nat} {outcome : Option PollReport × Instant}
  (hends : LoopEnds answers deadline start rounds outcome)

include hends

theorem LoopEnds.eq_of_first
    {first : Nat} (hfirst : IsLeast {query | 1 ≤ query ∧ IsDecisive (answers query)} first)
    (htime : InTime deadline start first) (hrounds : first ≤ rounds) :
    outcome =
      (some (reportAfter answers first (ending (answers first)) first),
        start.after (interval.times first)) := by
  obtain ⟨⟨hpositive, hdecisive⟩, hleast⟩ := hfirst
  cases hends with
  | @due queries hcount hbefore hdue =>
      exfalso
      rcases Nat.lt_or_ge queries first with hlater | hearlier
      · exact hdue (htime.of_le hlater)
      · exact (hbefore first hpositive hearlier).2 hdecisive
  | @decided queries hcount hbefore _ hdecided =>
      have hle : first ≤ queries + 1 := hleast ⟨by omega, hdecided⟩
      have hnot : ¬ first ≤ queries :=
        fun hearlier => (hbefore first hpositive hearlier).2 hdecisive
      obtain rfl : first = queries + 1 := by omega
      rfl
  | abandoned hall => exact absurd hdecisive (hall first hpositive hrounds).2

theorem LoopEnds.eq_of_last
    {last : Nat} (hlast : ∀ query, 1 ≤ query → (InTime deadline start query ↔ query ≤ last))
    (hundecided : ∀ query, 1 ≤ query → query ≤ last → ¬ IsDecisive (answers query))
    (hrounds : last < rounds) :
    outcome =
      (some (reportAfter answers last .timedOut (last + 1)),
        start.after (interval.times (last + 1))) := by
  cases hends with
  | @due queries hcount hbefore hdue =>
      have hlate : ¬ queries + 1 ≤ last := fun hle => hdue ((hlast _ (by omega)).mpr hle)
      have hearly : queries ≤ last := by
        rcases Nat.eq_zero_or_pos queries with rfl | hpositive
        · exact Nat.zero_le last
        · exact (hlast queries hpositive).mp (hbefore queries hpositive le_rfl).1
      obtain rfl : queries = last := by omega
      rfl
  | @decided queries hcount hbefore htime hdecided =>
      have hle := (hlast (queries + 1) (by omega)).mp htime
      exact absurd hdecided (hundecided (queries + 1) (by omega) hle)
  | abandoned hall =>
      have htime := (hall (last + 1) (by omega) hrounds).1
      have hle := (hlast (last + 1) (by omega)).mp htime
      omega

theorem LoopEnds.eq_none
    (hforever : ∀ query, 1 ≤ query → Continues answers deadline start query) :
    outcome.1 = none := by
  cases hends with
  | @due queries hcount hbefore hdue =>
      exact absurd (hforever (queries + 1) (by omega)).1 hdue
  | @decided queries hcount hbefore htime hdecided =>
      exact absurd hdecided (hforever (queries + 1) (by omega)).2
  | abandoned hall => rfl

theorem LoopEnds.result_eq
    {report : PollReport} (hreport : outcome.1 = some report) :
    report.state ≠ .polling ∧
      (report.state = .timedOut → ∀ component waited,
        report.result component waited =
          .error (.timeout ("reboot of " ++ component) waited report.elapsed
            (observed answers report.queries))) := by
  cases hends with
  | @due queries hcount hbefore hdue =>
      cases hreport
      refine ⟨by simp [reportAfter], fun _ component waited => ?_⟩
      have hlast : 1 ≤ queries → ¬ IsDecisive (answers queries) :=
        fun hpositive => (hbefore queries hpositive le_rfl).2
      rw [PollReport.result, lastObserved_reportAfter hlast]
      rfl
  | @decided queries hcount hbefore htime hdecided =>
      cases hreport
      cases answers (queries + 1) <;> simp [reportAfter, ending]
  | abandoned hall => cases hreport

end Ends

theorem pollFrom_answeredBy
    {σ : Type} (service : Responder bench σ) (state : σ) (patience : Nat)
    (issued start : Instant) (limit : Duration) (request : StatusRequest) :
    (pollFrom patience issued limit request).answeredBy service start state =
      loopAfter service request (issued.deadline? limit) start state
        (rounds patience start (issued.deadline? limit)) 0 := by
  rw [loopAfter, Instant.after_times_zero, pollFrom,
    Timed.answeredBy_bind_of_some _ _ _ (Timed.answeredBy_now _ _ _)]
  rfl

/-- A poll ends at the first decisive answer if that comes before the deadline, and
otherwise at the first pause after the last query before the deadline. -/
theorem pollFrom_outcome
    {σ : Type} (service : Responder bench σ) (state : σ) (patience : Nat)
    (issued start : Instant) (limit : Duration) (request : StatusRequest) :
    let answers := answer service request state
    let deadline := issued.deadline? limit
    let decisive := {query | 1 ≤ query ∧ IsDecisive (answers query)}
    let timely := {query | 1 ≤ query ∧ InTime deadline start query}
    let outcome :=
      ((pollFrom patience issued limit request).answeredBy service start state).1
    (∀ first : ℕ, IsLeast decisive first → (first : ℕ∞) ≤ timely.encard →
      (deadline = none → first ≤ patience) →
        outcome =
          (some (reportAfter answers first (ending (answers first)) first),
            start.after (interval.times first))) ∧
    (∀ last : ℕ, timely.encard = last →
      (¬ ∃ first : ℕ, IsLeast decisive first ∧ (first : ℕ∞) ≤ timely.encard) →
        outcome =
          (some (reportAfter answers last .timedOut (last + 1)),
            start.after (interval.times (last + 1)))) ∧
    (timely.encard = ⊤ → decisive = ∅ → outcome.1 = none) ∧
    (∀ report, outcome.1 = some report →
      report.state ≠ .polling ∧
        (report.state = .timedOut → ∀ component waited,
          report.result component waited =
            .error (.timeout ("reboot of " ++ component) waited report.elapsed
              (observed answers report.queries)))) := by
  intro answers deadline decisive timely outcome
  have hends : LoopEnds answers deadline start (rounds patience start deadline) outcome := by
    have hloop :=
      loopEnds_loopAfter service request deadline start state
        (rounds patience start deadline) 0 (by omega)
    rw [Nat.zero_add, ← pollFrom_answeredBy] at hloop
    exact hloop
  refine ⟨?_, ?_, ?_, fun report hreport => hends.result_eq hreport⟩
  · intro first hfirst hcount hpatience
    have htime := (le_encard_inTime_iff hfirst.1.1).mp hcount
    exact hends.eq_of_first hfirst htime (le_rounds_of_inTime htime hpatience)
  · intro last hlast hundecided
    have hbound : ∀ query, 1 ≤ query → (InTime deadline start query ↔ query ≤ last) := by
      intro query hpositive
      rw [← le_encard_inTime_iff hpositive, ← Nat.cast_le (α := ℕ∞), ← hlast]
    refine hends.eq_of_last hbound ?_ ?_
    · intro query hpositive hquery hdecisive
      have hmem : query ∈ decisive := ⟨hpositive, hdecisive⟩
      have hle : sInf decisive ≤ last := (Nat.sInf_le hmem).trans hquery
      refine hundecided
        ⟨sInf decisive, ⟨Nat.sInf_mem ⟨query, hmem⟩, fun _ => Nat.sInf_le⟩, ?_⟩
      rw [hlast, Nat.cast_le]
      exact hle
    · exact lt_rounds_of_inTime_iff patience hbound
  · intro hinfinite hnone
    refine hends.eq_none fun query hpositive => ⟨?_, ?_⟩
    · rw [← le_encard_inTime_iff hpositive, hinfinite]
      exact le_top
    · intro hdecisive
      have hmem : query ∈ decisive := ⟨hpositive, hdecisive⟩
      rw [hnone] at hmem
      exact hmem

end StatusPoll

end CardReboot
