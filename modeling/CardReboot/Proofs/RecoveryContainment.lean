import CardReboot.Proofs.RecoveryPasses
import CardReboot.Rehearsal.Bench

/-!
# What a recovery does not look at

A recovery looks only at the interfaces that were up before.  Two rehearsed devices with
the same interfaces, on which those read alike, end it in the same way at the same
instant and are asked the same, whatever the other interfaces do.  And fewer interfaces
to wait for never make it fail, or end later.
-/

namespace CardReboot

/-- A dialogue that starts with a question goes on from its answer. -/
theorem Dialogue.exchange_question_bind
    {I : Interface} {α σ : Type} (r : Responder I σ) (q : I.Question)
    {f : I.Answer q → Dialogue I α} {state : σ} {answer : I.Answer q}
    (hanswer : (r.reply q state).1 = answer) :
    ((question q).bind f).run r state = (f answer).run r (r.reply q state).2 ∧
      ((question q).bind f).transcript r state =
        ⟨q, answer⟩ :: (f answer).transcript r (r.reply q state).2 := by
  subst hanswer
  exact ⟨rfl, rfl⟩

/-! ## Devices that read alike -/

/-- Two devices with the same interfaces, of which the named ones have the same scripts. -/
structure RehearsedDevice.Alike (names : List String) (d e : RehearsedDevice) : Prop where
  listed : ScriptTable.names d.interfaces = ScriptTable.names e.interfaces
  scripts : ∀ name ∈ names, d.interfaces.lookup name = e.interfaces.lookup name

namespace RehearsedDevice.Alike

variable {names : List String} {d e : RehearsedDevice} (halike : d.Alike names e)
include halike

theorem answer_eq {name : String} (hname : name ∈ names) :
    (d.interfaceStatus name).1 = (e.interfaceStatus name).1 := by
  simp only [interfaceStatus, ScriptTable.read_eq_lookup, halike.scripts name hname]

/-- A read of whatever interface keeps devices alike. -/
theorem interfaceStatus (name : String) :
    (d.interfaceStatus name).2.Alike names (e.interfaceStatus name).2 where
  listed := by
    change ScriptTable.names (ScriptTable.read name d.interfaces).2 =
      ScriptTable.names (ScriptTable.read name e.interfaces).2
    rw [ScriptTable.names_read, ScriptTable.names_read, halike.listed]
  scripts := by
    intro other hother
    change (ScriptTable.read name d.interfaces).2.lookup other =
      (ScriptTable.read name e.interfaces).2.lookup other
    rw [ScriptTable.lookup_read, ScriptTable.lookup_read]
    by_cases hsame : other = name
    · subst hsame
      rw [if_pos rfl, if_pos rfl, halike.scripts other hother]
    · rw [if_neg hsame, if_neg hsame, halike.scripts other hother]

end RehearsedDevice.Alike

/-- Two rehearsals whose devices are rehearsed, and alike. -/
def Rehearsal.Alike (names : List String) (r r' : Rehearsal) : Prop :=
  ∃ d e, r.device = .rehearsed d ∧ r'.device = .rehearsed e ∧ d.Alike names e

namespace Rehearsal.Alike

variable {names : List String} {r r' : Rehearsal} (halike : r.Alike names r')
include halike

theorem reply_interfaceNames :
    ∃ listed, (reply .interfaceNames r).1 = .ok listed ∧
      (reply .interfaceNames r').1 = .ok listed ∧
        (reply .interfaceNames r).2.Alike names (reply .interfaceNames r').2 := by
  obtain ⟨d, e, hd, he, halike⟩ := halike
  simp only [reply, onDevice, hd, he]
  exact ⟨_, rfl, congrArg Except.ok halike.listed.symm, d, e, rfl, rfl, halike⟩

/-- Both rehearsals tell the status of an interface.  They tell the same of a named
one. -/
theorem reply_interfaceStatus (name : String) :
    (∃ status status', (reply (.interfaceStatus name) r).1 = .ok status ∧
        (reply (.interfaceStatus name) r').1 = .ok status' ∧
          (name ∈ names → status = status')) ∧
      (reply (.interfaceStatus name) r).2.Alike names
        (reply (.interfaceStatus name) r').2 := by
  obtain ⟨d, e, hd, he, halike⟩ := halike
  simp only [reply, onDevice, hd, he]
  refine ⟨⟨_, _, rfl, rfl, ?_⟩, _, _, rfl, rfl, halike.interfaceStatus name⟩
  intro hname
  exact Except.ok.inj (halike.answer_eq hname)

end Rehearsal.Alike

namespace Snapshot

/-- Both snapshots say the same of the named interfaces. -/
def AgreeOn (names : List String) (s s' : Snapshot) : Prop :=
  ∀ name ∈ names, name ∈ s.up ↔ name ∈ s'.up

theorem AgreeOn.ofReading
    {names : List String} {s s' : Snapshot} (hagree : s.AgreeOn names s') (name : String)
    {status status' : InterfaceStatus} (hsame : name ∈ names → status = status') :
    (if status = .up then s.insert name else s).AgreeOn names
      (if status' = .up then s'.insert name else s') := by
  intro other hother
  rw [mem_up_of_reading, mem_up_of_reading, hagree other hother]
  by_cases hread : other = name
  · rw [hsame (hread ▸ hother)]
  · simp [hread]

theorem AgreeOn.missingFrom_eq {pre s s' : Snapshot} (hagree : s.AgreeOn pre.up s') :
    pre.missingFrom s = pre.missingFrom s' := by
  apply List.filter_congr
  intro name hname
  simp [hagree name hname]

end Snapshot

namespace Rehearsal

/-- Two passes that ask the same.  The snapshots agree on the named interfaces, and so do
the rehearsals afterwards. -/
structure PassAlike (names : List String) (pass pass' : Dialogue bench (Answered Snapshot))
    (r r' : Rehearsal) : Prop where
  found : ∃ post post', (pass.run responder r).1 = .ok post ∧
    (pass'.run responder r').1 = .ok post' ∧ post.AgreeOn names post'
  left : (pass.run responder r).2.Alike names (pass'.run responder r').2
  asked : Transcript.questions (pass.transcript responder r) =
    Transcript.questions (pass'.transcript responder r')

variable {names : List String} {r r' : Rehearsal}

theorem PassAlike.ofQuestion
    {question : BenchRequest} {next next' : question.Answer → Dialogue bench (Answered Snapshot)}
    {answer answer' : question.Answer} (hanswer : (reply question r).1 = answer)
    (hanswer' : (reply question r').1 = answer')
    (hrest : PassAlike names (next answer) (next' answer') (reply question r).2
      (reply question r').2) :
    PassAlike names ((Dialogue.question (I := bench) question).bind next)
      ((Dialogue.question (I := bench) question).bind next') r r' := by
  obtain ⟨hrun, hasked⟩ :=
    Dialogue.exchange_question_bind responder (I := bench) (f := next) question hanswer
  obtain ⟨hrun', hasked'⟩ :=
    Dialogue.exchange_question_bind responder (I := bench) (f := next') question hanswer'
  refine ⟨?_, ?_, ?_⟩
  · rw [hrun, hrun']
    exact hrest.found
  · rw [hrun, hrun']
    exact hrest.left
  · rw [hasked, hasked']
    exact congrArg (question :: ·) hrest.asked

theorem Alike.readAll
    (halike : r.Alike names r') (listed : List String) {first first' : Snapshot}
    (hagree : first.AgreeOn names first') :
    PassAlike names (Snapshot.readAll listed first) (Snapshot.readAll listed first') r r' := by
  induction listed generalizing r r' first first' with
  | nil => exact ⟨⟨first, first', rfl, rfl, hagree⟩, halike, rfl⟩
  | cons name rest ih =>
      obtain ⟨⟨status, status', hstatus, hstatus', hsame⟩, hleft⟩ :=
        halike.reply_interfaceStatus name
      exact .ofQuestion hstatus hstatus' (ih hleft (hagree.ofReading name hsame))

theorem Alike.capture (halike : r.Alike names r') (scope : InterfaceScope) :
    PassAlike names (Snapshot.capture scope) (Snapshot.capture scope) r r' := by
  have hempty : Snapshot.empty.AgreeOn names .empty := fun _ _ => Iff.rfl
  cases scope with
  | only listed => exact halike.readAll listed hempty
  | all =>
      obtain ⟨listed, hlisted, hlisted', hleft⟩ := halike.reply_interfaceNames
      exact .ofQuestion hlisted hlisted' (hleft.readAll listed hempty)

end Rehearsal

/-! ## Recoveries that run alike -/

namespace Recovery

theorem showsUp_ok_iff {pre post : Snapshot} : ShowsUp pre (.ok post) ↔ pre.up ⊆ post.up :=
  ⟨fun ⟨_, heq, hup⟩ => Except.ok.inj heq ▸ hup, fun hup => ⟨post, rfl, hup⟩⟩

theorem observed_compared_ok (pre post : Snapshot) :
    Wait.observed Observation.text (compared pre (.ok post)) =
      "interfaces not up: [" ++ ", ".intercalate (pre.missingFrom post) ++ "]" := rfl

/-- Of more interfaces a pass shows fewer sets up. -/
theorem ShowsUp.of_subset
    {pre smaller : Snapshot} {pass : Answered Snapshot} (hshows : ShowsUp pre pass)
    (hsubset : smaller.up ⊆ pre.up) : ShowsUp smaller pass := by
  obtain ⟨post, hpost, hup⟩ := hshows
  exact ⟨post, hpost, List.Subset.trans hsubset hup⟩

end Recovery

namespace Rehearsal

open Recovery

/-- A rehearsal whose interfaces are watched. -/
def watch (r : Rehearsal) (scope : InterfaceScope) (interval limit : Duration)
    (start : Instant) : Watch Rehearsal :=
  ⟨responder, r, scope, interval, limit, start⟩

/-- Two recoveries with the same verdict at the same instant, which are asked the same in
the same number of passes. -/
structure RecoverAlike (v v' : Watch Rehearsal) (patience : Nat) (pre : Snapshot) : Prop where
  verdict : (v.result patience pre).1.map (Except.map fun _ => ()) =
    (v'.result patience pre).1.map (Except.map fun _ => ())
  stop : (v.result patience pre).2 = (v'.result patience pre).2
  questions : Transcript.questions (v.asked patience pre) =
    Transcript.questions (v'.asked patience pre)
  passes : (v.result patience pre).1 ≠ none → ∃ last,
    v.asked patience pre = v.exchangesBefore last ++ v.passExchanges last ∧
      v'.asked patience pre = v'.exchangesBefore last ++ v'.passExchanges last

theorem RecoverAlike.of_ended
    {v v' : Watch Rehearsal} {patience last : Nat} {pre : Snapshot}
    {outcome outcome' : Outcome Snapshot} {stop : Instant}
    (hended : v.result patience pre = (some outcome, stop))
    (hended' : v'.result patience pre = (some outcome', stop))
    (hverdict : outcome.map (fun _ => ()) = outcome'.map fun _ => ())
    (hasked : v.asked patience pre = v.exchangesBefore last ++ v.passExchanges last)
    (hasked' : v'.asked patience pre = v'.exchangesBefore last ++ v'.passExchanges last)
    (hquestions : Transcript.questions (v.exchangesBefore last ++ v.passExchanges last) =
      Transcript.questions (v'.exchangesBefore last ++ v'.passExchanges last)) :
    RecoverAlike v v' patience pre where
  verdict := by
    rw [hended, hended']
    exact congrArg some hverdict
  stop := by rw [hended, hended']
  questions := by rw [hasked, hasked', hquestions]
  passes _ := ⟨last, hasked, hasked'⟩

namespace Alike

section Passes

variable {names : List String} {r r' : Rehearsal} (halike : r.Alike names r')
  (scope : InterfaceScope) (interval limit : Duration) (start : Instant) (number : Nat)
include halike

/-- The devices are still alike before each pass: a pass moves the same scripts on. -/
theorem settled :
    let wait := (r.watch scope interval limit start).wait
    let deadline := (r.watch scope interval limit start).deadline
    (wait.settled responder (Snapshot.capture scope) deadline r number).Alike names
      (wait.settled responder (Snapshot.capture scope) deadline r' number) := by
  intro wait deadline
  induction number with
  | zero => exact halike
  | succ number ih => exact (ih.capture scope).left

theorem pass_agrees :
    ∃ post post', (r.watch scope interval limit start).pass number = .ok post ∧
      (r'.watch scope interval limit start).pass number = .ok post' ∧
        post.AgreeOn names post' :=
  ((halike.settled scope interval limit start number).capture scope).found

theorem questions_passExchanges :
    Transcript.questions ((r.watch scope interval limit start).passExchanges number) =
      Transcript.questions ((r'.watch scope interval limit start).passExchanges number) :=
  ((halike.settled scope interval limit start number).capture scope).asked

theorem questions_exchangesBefore :
    Transcript.questions ((r.watch scope interval limit start).exchangesBefore number) =
      Transcript.questions ((r'.watch scope interval limit start).exchangesBefore number) := by
  induction number with
  | zero => rfl
  | succ number ih =>
      have hbefore : ∀ r : Rehearsal,
          Transcript.questions ((r.watch scope interval limit start).exchangesBefore (number + 1)) =
            Transcript.questions ((r.watch scope interval limit start).exchangesBefore number) ++
              Transcript.questions ((r.watch scope interval limit start).passExchanges number) ++
                [.pause ((r.watch scope interval limit start).wait.gap
                  (r.watch scope interval limit start).deadline number)] := by
        intro r
        simp only [Watch.exchangesBefore, Wait.exchangesBefore, Transcript.questions_append]
        rfl
      rw [hbefore, hbefore, ih, halike.questions_passExchanges]
      rfl

end Passes

variable {pre : Snapshot} {r r' : Rehearsal} (halike : r.Alike pre.up r')
  (scope : InterfaceScope) (interval limit : Duration) (start : Instant)
include halike

theorem showsUp_iff (number : Nat) :
    ShowsUp pre ((r.watch scope interval limit start).pass number) ↔
      ShowsUp pre ((r'.watch scope interval limit start).pass number) := by
  obtain ⟨post, post', hpost, hpost', hagree⟩ :=
    halike.pass_agrees scope interval limit start number
  rw [hpost, hpost', showsUp_ok_iff, showsUp_ok_iff, ← Snapshot.missingFrom_eq_nil_iff,
    ← Snapshot.missingFrom_eq_nil_iff, hagree.missingFrom_eq]

theorem observed_eq (number : Nat) :
    Wait.observed Observation.text
        (compared pre ((r.watch scope interval limit start).pass number)) =
      Wait.observed Observation.text
        (compared pre ((r'.watch scope interval limit start).pass number)) := by
  obtain ⟨post, post', hpost, hpost', hagree⟩ :=
    halike.pass_agrees scope interval limit start number
  rw [hpost, hpost', observed_compared_ok, observed_compared_ok, hagree.missingFrom_eq]

theorem recoverAlike (hinterval : 0 < interval.nanos) (hpre : pre.up ≠ []) (patience : Nat) :
    RecoverAlike (r.watch scope interval limit start) (r'.watch scope interval limit start)
      patience pre := by
  set v := r.watch scope interval limit start
  set v' := r'.watch scope interval limit start
  have hshows : ∀ number, ShowsUp pre (v.pass number) ↔ ShowsUp pre (v'.pass number) :=
    halike.showsUp_iff scope interval limit start
  have hbefore : ∀ number, Transcript.questions (v.exchangesBefore number) =
      Transcript.questions (v'.exchangesBefore number) :=
    halike.questions_exchangesBefore scope interval limit start
  have hquestions : ∀ last,
      Transcript.questions (v.exchangesBefore last ++ v.passExchanges last) =
        Transcript.questions (v'.exchangesBefore last ++ v'.passExchanges last) := by
    intro last
    rw [Transcript.questions_append, Transcript.questions_append, hbefore,
      halike.questions_passExchanges]
  rcases v.exists_first_or_none pre patience with ⟨first, hfirst, hpasses⟩ | hmiss
  · obtain ⟨post, post', hpost, hpost', -⟩ :=
      halike.pass_agrees scope interval limit start first
    have hfirst' : IsLeast {number | ShowsUp pre (v'.pass number)} first := by
      simpa only [hshows] using hfirst
    obtain ⟨hended, hasked⟩ := Watch.of_shown hinterval hpre hfirst hpasses hpost
    obtain ⟨hended', hasked'⟩ := Watch.of_shown hinterval hpre hfirst' hpasses hpost'
    exact .of_ended hended hended' rfl hasked hasked' (hquestions first)
  · have hmiss' : ∀ number < v'.passes patience, ¬ ShowsUp pre (v'.pass number) :=
      fun number hless => (hshows number).not.mp (hmiss number hless)
    by_cases hclock : v.deadline = none
    · obtain ⟨hended, hasked⟩ := Watch.of_unending hpre hclock hmiss
      obtain ⟨hended', hasked'⟩ := Watch.of_unending (v := v') hpre hclock hmiss'
      refine ⟨?_, ?_, ?_, ?_⟩
      · rw [hended, hended']
      · rw [hended, hended']
        rfl
      · rw [hasked, hasked', hbefore]
      · intro hsome
        exact absurd (congrArg Prod.fst hended) hsome
    · obtain ⟨hended, hasked⟩ := Watch.of_late hinterval hpre hclock hmiss
      obtain ⟨hended', hasked'⟩ := Watch.of_late (v := v') hinterval hpre hclock hmiss'
      have htext := halike.observed_eq scope interval limit start v.wait.lastRead
      rw [htext] at hended
      exact .of_ended hended hended' rfl hasked hasked' (hquestions v.wait.lastRead)

end Alike

end Rehearsal

/-! ## Fewer interfaces to wait for -/

namespace Recovery.Watch

variable {σ : Type} {v : Watch σ} {pre smaller : Snapshot} {patience : Nat}

theorem passAt_le_passAt (v : Watch σ) {earlier later : Nat} (hle : earlier ≤ later) :
    (v.passAt earlier).nanos ≤ (v.passAt later).nanos :=
  Nat.add_le_add_left (v.wait.offset_le_offset v.deadline hle) _

/-- A recovery that ends well ends with one of its passes. -/
theorem exists_pass_of_result_eq_ok
    (hinterval : 0 < v.interval.nanos) (hpre : pre.up ≠ []) {post : Snapshot} {stop : Instant}
    (hresult : v.result patience pre = (some (.ok post), stop)) :
    ∃ number < v.passes patience, ShowsUp pre (v.pass number) ∧ stop = v.passAt number := by
  obtain ⟨first, hfirst, hpasses, hpost⟩ :=
    exists_first_of_result_eq_ok hinterval hpre (congrArg Prod.fst hresult)
  obtain ⟨hended, -⟩ := of_shown hinterval hpre hfirst hpasses hpost
  exact ⟨first, hpasses, hfirst.1, congrArg Prod.snd (hresult.symm.trans hended)⟩

theorem start_le_of_result_eq_ok
    (hinterval : 0 < v.interval.nanos) {post : Snapshot} {stop : Instant}
    (hresult : v.result patience pre = (some (.ok post), stop)) : v.start.nanos ≤ stop.nanos := by
  by_cases hpre : pre.up = []
  · obtain ⟨hended, -⟩ := v.of_empty patience hpre
    exact (congrArg (Instant.nanos ∘ Prod.snd) (hended.symm.trans hresult)).le
  · obtain ⟨number, -, -, rfl⟩ := exists_pass_of_result_eq_ok hinterval hpre hresult
    exact Nat.le_add_right _ _

/-- A recovery that ends well does so too, and no later, with fewer interfaces to wait
for. -/
theorem exists_result_of_subset
    (hinterval : 0 < v.interval.nanos) (hsubset : smaller.up ⊆ pre.up) {post : Snapshot}
    {stop : Instant} (hresult : v.result patience pre = (some (.ok post), stop)) :
    ∃ post' stop', v.result patience smaller = (some (.ok post'), stop') ∧
      stop'.nanos ≤ stop.nanos := by
  by_cases hsmaller : smaller.up = []
  · obtain ⟨hended, -⟩ := v.of_empty patience hsmaller
    exact ⟨_, _, hended, start_le_of_result_eq_ok hinterval hresult⟩
  · have hpre : pre.up ≠ [] := fun hnone => hsmaller (List.subset_nil.mp (hnone ▸ hsubset))
    obtain ⟨number, hpasses, hshows, rfl⟩ :=
      exists_pass_of_result_eq_ok hinterval hpre hresult
    rcases v.exists_first_or_none smaller patience with ⟨first, hfirst, hless⟩ | hmiss
    · obtain ⟨post', hpost', -⟩ := hfirst.1
      obtain ⟨hended, -⟩ := of_shown hinterval hsmaller hfirst hless hpost'
      exact ⟨post', _, hended, v.passAt_le_passAt (hfirst.2 (hshows.of_subset hsubset))⟩
    · exact absurd (hshows.of_subset hsubset) (hmiss number hpasses)

end Recovery.Watch

/-! ## Containment -/

namespace Recovery

/-- A recovery looks at no interface but those of `pre`: devices on which these read alike
have the same recovery.  With fewer of them a recovery that ends well still does, and no
later. -/
theorem recovery_containment
    (scope : InterfaceScope) (interval limit : Duration) (hinterval : 0 < interval.nanos)
    (start : Instant) (patience : Nat) (pre : Snapshot) :
    (pre.up ≠ [] → ∀ r r' : Rehearsal, r.Alike pre.up r' →
      Rehearsal.RecoverAlike (r.watch scope interval limit start)
        (r'.watch scope interval limit start) patience pre) ∧
    (∀ (σ : Type) (device : Responder bench σ) (state : σ) (smaller post : Snapshot)
        (stop : Instant), smaller.up ⊆ pre.up →
      let v : Watch σ := ⟨device, state, scope, interval, limit, start⟩
      v.result patience pre = (some (.ok post), stop) →
        ∃ post' stop', v.result patience smaller = (some (.ok post'), stop') ∧
          stop'.nanos ≤ stop.nanos) := by
  refine ⟨?_, ?_⟩
  · intro hpre r r' halike
    exact halike.recoverAlike scope interval limit start hinterval hpre patience
  · intro σ device state smaller post stop hsubset v hresult
    exact Watch.exists_result_of_subset hinterval hsubset hresult

/-- Two interfaces that come up one after the other, and a third one. -/
def threePorts (third : AnswerScript InterfaceStatus) : Rehearsal where
  device := .rehearsed
    { interfaces := [("et-0/0/0", ⟨[.down, .up]⟩), ("et-1/0/0", ⟨[.down, .down, .up]⟩),
        ("et-2/0/0", third)] }

/-- Both recoveries end in the third pass, when the third interface is up on one device
alone. -/
theorem threePorts_recovery :
    let steady := threePorts (.constant .up)
    let failing := threePorts ⟨[.up, .down]⟩
    let pre := Snapshot.ofList ["et-1/0/0", "et-0/0/0"]
    let smaller := Snapshot.ofList ["et-0/0/0"]
    let watch := fun r : Rehearsal => r.watch .all (.ofSeconds 2) (.ofSeconds 5) ⟨0⟩
    0 < (Duration.ofSeconds 2).nanos ∧ pre.up ≠ [] ∧ steady.Alike pre.up failing ∧
      smaller.up ⊆ pre.up ∧
        (watch failing).result 0 pre = (some (.ok pre), ⟨4000000000⟩) ∧
          Rehearsal.RecoverAlike (watch steady) (watch failing) 0 pre ∧
            ∃ post' stop', (watch failing).result 0 smaller = (some (.ok post'), stop') ∧
              stop'.nanos ≤ 4000000000 := by
  intro steady failing pre smaller watch
  have hinterval : 0 < (Duration.ofSeconds 2).nanos := by decide
  have hpre : pre.up ≠ [] := by decide
  have halike : steady.Alike pre.up failing := by
    refine ⟨_, _, rfl, rfl, rfl, ?_⟩
    intro name hname
    have hlisted : name ∈ ["et-1/0/0", "et-0/0/0"] := mem_distinctNames.mp hname
    simp only [List.mem_cons, List.not_mem_nil, or_false] at hlisted
    rcases hlisted with rfl | rfl <;> rfl
  have hsubset : smaller.up ⊆ pre.up := by decide
  have hfirst : IsLeast {number | ShowsUp pre ((watch failing).pass number)} 2 := by
    refine ⟨⟨pre, rfl, List.Subset.refl _⟩, ?_⟩
    rintro number ⟨post, hpost, hup⟩
    match number, hpost with
    | 0, hpost =>
        obtain rfl : .ofList ["et-2/0/0"] = post := Except.ok.inj hpost
        exact absurd hup (by decide)
    | 1, hpost =>
        obtain rfl : .ofList ["et-0/0/0"] = post := Except.ok.inj hpost
        exact absurd hup (by decide)
    | number + 2, _ => exact Nat.le_add_left 2 number
  have hpasses : 2 < (watch failing).passes 0 := by decide
  have hpost : (watch failing).pass 2 = .ok pre := rfl
  have hstop : (watch failing).passAt 2 = ⟨4000000000⟩ := by decide
  have hresult : (watch failing).result 0 pre = (some (.ok pre), ⟨4000000000⟩) := by
    rw [← hstop]
    exact (Watch.of_shown hinterval hpre hfirst hpasses hpost).1
  obtain ⟨hcontained, hfewer⟩ :=
    recovery_containment .all (.ofSeconds 2) (.ofSeconds 5) hinterval ⟨0⟩ 0 pre
  exact ⟨hinterval, hpre, halike, hsubset, hresult, hcontained hpre steady failing halike,
    hfewer _ _ _ smaller pre _ hsubset hresult⟩

end Recovery

end CardReboot
