import CardReboot.Proofs.StepRun

/-!
# What a procedure guarantees

A procedure guarantees something about its requests and its end when that holds
in every one of its runs, whatever is answered.  The rules follow the program:
a guarantee of two parts is one of the first, and one of the second from every
result that the first can have.  The requests of an abandoned run count as well.
-/

namespace CardReboot

def Transcript.AsksOnly {I : Interface} (asks : I.Question → Prop) (transcript : Transcript I) :
    Prop :=
  ∀ exchange ∈ transcript, asks exchange.question

namespace Transcript

variable {I : Interface} {asks : I.Question → Prop}

theorem asksOnly_nil : AsksOnly asks ([] : Transcript I) := by
  intro exchange hmem
  cases hmem

theorem asksOnly_append {before after : Transcript I} :
    AsksOnly asks (before ++ after) ↔ AsksOnly asks before ∧ AsksOnly asks after := by
  simp [AsksOnly, or_imp, forall_and]

theorem asksOnly_cons {exchange : Exchange I} {rest : Transcript I} :
    AsksOnly asks (exchange :: rest) ↔
      asks exchange.question ∧ AsksOnly asks rest := by
  simp [AsksOnly]

theorem AsksOnly.mono
    {weaker : I.Question → Prop} {transcript : Transcript I}
    (hasks : AsksOnly asks transcript)
    (himplies : ∀ question, asks question → weaker question) :
    AsksOnly weaker transcript :=
  fun exchange hmem => himplies _ (hasks exchange hmem)

end Transcript

namespace Dialogue

variable {I : Interface} {α β : Type} {asks : I.Question → Prop}

def Guarantees
    (asks : I.Question → Prop) (ends : α → Prop) (d : Dialogue I α) : Prop :=
  ∀ transcript a, d.Produces transcript a → Transcript.AsksOnly asks transcript ∧ ends a

theorem guarantees_done {ends : α → Prop} {a : α} (ha : ends a) :
    (done a : Dialogue I α).Guarantees asks ends := by
  intro transcript found hrun
  obtain ⟨rfl, rfl⟩ := produces_done_iff.mp hrun
  exact ⟨Transcript.asksOnly_nil, ha⟩

theorem guarantees_question {q : I.Question} (hq : asks q) :
    (question q).Guarantees asks fun _ => True := by
  intro transcript a hrun
  obtain rfl := produces_question_iff.mp hrun
  exact ⟨Transcript.asksOnly_cons.mpr ⟨hq, Transcript.asksOnly_nil⟩, trivial⟩

theorem guarantees_question_bind
    {q : I.Question} {f : I.Answer q → Dialogue I β} {ends : β → Prop}
    (hq : asks q) (hf : ∀ answer, (f answer).Guarantees asks ends) :
    ((question q).bind f).Guarantees asks ends := by
  intro transcript b hrun
  obtain ⟨answer, rest, rfl, hrest⟩ := produces_question_bind_iff.mp hrun
  obtain ⟨hasks, hb⟩ := hf answer rest b hrest
  exact ⟨Transcript.asksOnly_cons.mpr ⟨hq, hasks⟩, hb⟩

theorem guarantees_bind
    {d : Dialogue I α} {f : α → Dialogue I β} {middle : α → Prop} {ends : β → Prop}
    (hd : d.Guarantees asks middle) (hf : ∀ a, middle a → (f a).Guarantees asks ends) :
    (d >>= f).Guarantees asks ends := by
  intro transcript b hrun
  obtain ⟨before, after, a, rfl, hbefore, hafter⟩ := produces_bind_iff.mp hrun
  obtain ⟨hasks, ha⟩ := hd before a hbefore
  obtain ⟨hrest, hb⟩ := hf a ha after b hafter
  exact ⟨Transcript.asksOnly_append.mpr ⟨hasks, hrest⟩, hb⟩

end Dialogue

namespace Timed

variable {α β : Type} {asks : BenchRequest → Prop}

def Guarantees
    (asks : BenchRequest → Prop) (ends : α → Prop) (t : Timed bench α) : Prop :=
  ∀ start transcript result stop, t.Runs start transcript result stop →
    Transcript.AsksOnly (I := bench) asks transcript ∧ ∀ a, result = some a → ends a

theorem guarantees_pure {ends : α → Prop} {a : α} (ha : ends a) :
    (pure a : Timed bench α).Guarantees asks ends := by
  intro start transcript result stop hrun
  obtain ⟨rfl, rfl, -⟩ := runs_pure_iff.mp hrun
  refine ⟨Transcript.asksOnly_nil, ?_⟩
  rintro _ ⟨⟩
  exact ha

theorem guarantees_abandoned {ends : α → Prop} :
    (abandoned : Timed bench α).Guarantees asks ends := by
  intro start transcript result stop hrun
  obtain ⟨rfl, rfl, -⟩ := runs_abandoned_iff.mp hrun
  exact ⟨Transcript.asksOnly_nil, by simp⟩

theorem guarantees_now :
    (now : Timed bench Instant).Guarantees asks fun _ => True := by
  intro start transcript result stop hrun
  obtain ⟨rfl, -, -⟩ := runs_now_iff.mp hrun
  exact ⟨Transcript.asksOnly_nil, fun _ _ => trivial⟩

theorem guarantees_pause {d : Duration} (hd : asks (.pause d)) :
    (pause d : Timed bench Unit).Guarantees asks fun _ => True := by
  intro start transcript result stop hrun
  obtain ⟨rfl, -, -⟩ := runs_pause_iff.mp hrun
  exact ⟨Transcript.asksOnly_cons.mpr ⟨hd, Transcript.asksOnly_nil⟩, fun _ _ => trivial⟩

theorem guarantees_ask
    {d : Dialogue bench α} {ends : α → Prop} (hd : d.Guarantees (I := bench) asks ends) :
    (ask d).Guarantees asks ends := by
  intro start transcript result stop hrun
  obtain ⟨a, ha, rfl, -⟩ := runs_ask_iff.mp hrun
  obtain ⟨hasks, hends⟩ := hd transcript a ha
  refine ⟨hasks, ?_⟩
  rintro _ ⟨⟩
  exact hends

theorem guarantees_bind
    {t : Timed bench α} {f : α → Timed bench β} {middle : α → Prop} {ends : β → Prop}
    (ht : t.Guarantees asks middle) (hf : ∀ a, middle a → (f a).Guarantees asks ends) :
    (t >>= f).Guarantees asks ends := by
  intro start transcript result stop hrun
  rcases runs_bind_iff.mp hrun with
    ⟨before, after, a, between, rfl, hbefore, hafter⟩ | ⟨hnone, rfl⟩
  · obtain ⟨hasks, ha⟩ := ht _ _ _ _ hbefore
    obtain ⟨hrest, hb⟩ := hf a (ha a rfl) _ _ _ _ hafter
    exact ⟨Transcript.asksOnly_append.mpr ⟨hasks, hrest⟩, hb⟩
  · exact ⟨(ht _ _ _ _ hnone).1, by simp⟩

end Timed

namespace Step

variable {α β : Type} {asks : BenchRequest → Prop} {exits : Exit → Prop}

/-- Only such requests are made, the step goes on only with such a value, and it
leaves the case only by such an exit. -/
def Guarantees
    (asks : BenchRequest → Prop) (exits : Exit → Prop) (goesOn : α → Prop)
    (p : Step α) : Prop :=
  ∀ start transcript result stop, p.Runs start transcript result stop →
    Transcript.AsksOnly (I := bench) asks transcript ∧
      (∀ exit, result = some (.error exit) → exits exit) ∧
        ∀ a, result = some (.ok a) → goesOn a

theorem guarantees_bind
    {p : Step α} {f : α → Step β} {middle : α → Prop} {goesOn : β → Prop}
    (hp : p.Guarantees asks exits middle)
    (hf : ∀ a, middle a → (f a).Guarantees asks exits goesOn) :
    (p >>= f).Guarantees asks exits goesOn := by
  intro start transcript result stop hrun
  rcases runs_bind_iff.mp hrun with
    ⟨before, after, a, between, rfl, hbefore, hafter⟩ | ⟨exit, hexit, rfl⟩ | ⟨hnone, rfl⟩
  · obtain ⟨hasks, -, ha⟩ := hp _ _ _ _ hbefore
    obtain ⟨hrest, hends⟩ := hf a (ha a rfl) _ _ _ _ hafter
    exact ⟨Transcript.asksOnly_append.mpr ⟨hasks, hrest⟩, hends⟩
  · obtain ⟨hasks, hexits, -⟩ := hp _ _ _ _ hexit
    refine ⟨hasks, ?_, by simp⟩
    rintro _ ⟨⟩
    exact hexits exit rfl
  · exact ⟨(hp _ _ _ _ hnone).1, by simp, by simp⟩

theorem guarantees_pure {goesOn : α → Prop} {a : α} (ha : goesOn a) :
    (pure a : Step α).Guarantees asks exits goesOn := by
  intro start transcript result stop hrun
  obtain ⟨rfl, rfl, -⟩ := runs_pure_iff.mp hrun
  refine ⟨Transcript.asksOnly_nil, by simp, ?_⟩
  rintro _ ⟨⟩
  exact ha

theorem guarantees_skip {goesOn : α → Prop} {reason : String} (hreason : exits (.skip reason)) :
    (skip reason : Step α).Guarantees asks exits goesOn := by
  intro start transcript result stop hrun
  obtain ⟨rfl, rfl, -⟩ := runs_skip_iff.mp hrun
  refine ⟨Transcript.asksOnly_nil, ?_, by simp⟩
  rintro _ ⟨⟩
  exact hreason

theorem guarantees_pause {d : Duration} (hd : asks (.pause d)) :
    (pause d).Guarantees asks exits fun _ => True := by
  intro start transcript result stop hrun
  obtain ⟨rfl, rfl, -⟩ := runs_pause_iff.mp hrun
  refine ⟨Transcript.asksOnly_cons.mpr ⟨hd, Transcript.asksOnly_nil⟩, by simp,
    fun _ _ => trivial⟩

/-- The outcome of a procedure is such a value, or a failure by which the case may
be left. -/
def Settles (exits : Exit → Prop) (goesOn : α → Prop) : Outcome α → Prop
  | .ok a => goesOn a
  | .error failure => exits (.fail failure)

theorem guarantees_timed
    {t : Timed bench (Outcome α)} {goesOn : α → Prop}
    (ht : t.Guarantees asks (Settles exits goesOn)) :
    (timed t).Guarantees asks exits goesOn := by
  intro start transcript result stop hrun
  obtain ⟨found, hfound, rfl⟩ := runs_timed_iff.mp hrun
  obtain ⟨hasks, hends⟩ := ht _ _ _ _ hfound
  refine ⟨hasks, ?_, ?_⟩
  · rcases found with _ | failure | a <;> rintro _ ⟨⟩
    exact hends _ rfl
  · rcases found with _ | failure | a <;> rintro _ ⟨⟩
    exact hends _ rfl

theorem guarantees_ofOutcome
    {outcome : Outcome α} {goesOn : α → Prop} (houtcome : Settles exits goesOn outcome) :
    (ofOutcome outcome).Guarantees asks exits goesOn := by
  intro start transcript result stop hrun
  obtain ⟨rfl, rfl, -⟩ := runs_ofOutcome_iff.mp hrun
  refine ⟨Transcript.asksOnly_nil, ?_, ?_⟩
  · cases outcome <;> rintro _ ⟨⟩
    exact houtcome
  · cases outcome <;> rintro _ ⟨⟩
    exact houtcome

end Step

end CardReboot
