import CardReboot.Time

/-!
# Dialogues

A procedure that deals with a device is a dialogue: it asks one question after
the other, and what it asks next may depend on the answers so far.  Nothing is
assumed about the answers, but every dialogue ends.  A transcript lists the
questions of a dialogue with the answers they got, and a responder is one
particular source of answers with a state of its own.

A timed procedure is a dialogue that knows what the clock shows.  Questions take
no time, and a pause takes exactly its length.  A procedure that would go on for
ever is abandoned when the patience granted to it is used up, and then it has no
result.
-/

namespace CardReboot

/-- What can be asked, and which answers each question can have. -/
structure Interface where
  Question : Type
  Answer : Question → Type

inductive Dialogue (I : Interface) (α : Type) : Type
  | done (value : α)
  | ask (question : I.Question) (next : I.Answer question → Dialogue I α)

/-- A question and the answer it got. -/
structure Exchange (I : Interface) where
  question : I.Question
  answer : I.Answer question

abbrev Transcript (I : Interface) := List (Exchange I)

/-- The questions of a transcript, without the answers. -/
def Transcript.questions {I : Interface} (transcript : Transcript I) : List I.Question :=
  transcript.map Exchange.question

@[simp] theorem Transcript.questions_append {I : Interface} (before after : Transcript I) :
    questions (before ++ after) = questions before ++ questions after :=
  List.map_append

/-- A source of answers that moves from state to state. -/
structure Responder (I : Interface) (σ : Type) where
  reply : (question : I.Question) → σ → I.Answer question × σ

namespace Dialogue

variable {I J : Interface} {α β γ : Type}

def bind : Dialogue I α → (α → Dialogue I β) → Dialogue I β
  | done value, f => f value
  | ask question next, f => ask question fun answer => (next answer).bind f

instance : Monad (Dialogue I) where
  pure := done
  bind := bind

/-- The dialogue that asks one question and ends with its answer. -/
def question (q : I.Question) : Dialogue I (I.Answer q) := ask q done

/-- The dialogue ends with `value` when the questions in the transcript get the
answers in it. -/
inductive Produces : Dialogue I α → Transcript I → α → Prop
  | done (value : α) : Produces (.done value) [] value
  | ask {question : I.Question} {next : I.Answer question → Dialogue I α}
      {answer : I.Answer question} {transcript : Transcript I} {value : α}
      (rest : Produces (next answer) transcript value) :
      Produces (.ask question next) (⟨question, answer⟩ :: transcript) value

/-- Lets a responder answer. -/
def run {σ : Type} (r : Responder I σ) : Dialogue I α → σ → α × σ
  | done value, state => (value, state)
  | ask question next, state =>
      run r (next (r.reply question state).1) (r.reply question state).2

/-- What is asked while a responder answers. -/
def transcript {σ : Type} (r : Responder I σ) : Dialogue I α → σ → Transcript I
  | done _, _ => []
  | ask question next, state =>
      ⟨question, (r.reply question state).1⟩ ::
        transcript r (next (r.reply question state).1) (r.reply question state).2

/-- Carries every question out as a dialogue of another kind. -/
def carryOut (carry : (q : I.Question) → Dialogue J (I.Answer q)) :
    Dialogue I α → Dialogue J α
  | done value => done value
  | ask question next =>
      (carry question).bind fun answer => carryOut carry (next answer)

@[simp] theorem pure_eq_done (value : α) : (pure value : Dialogue I α) = done value := rfl

@[simp] theorem bind_eq (d : Dialogue I α) (f : α → Dialogue I β) : d >>= f = d.bind f := rfl

@[simp] theorem done_bind (value : α) (f : α → Dialogue I β) :
    (done value).bind f = f value := rfl

@[simp] theorem bind_done (d : Dialogue I α) : d.bind done = d := by
  induction d with
  | done value => rfl
  | ask question next ih => simp [bind, ih]

theorem bind_assoc (d : Dialogue I α) (f : α → Dialogue I β) (g : β → Dialogue I γ) :
    (d.bind f).bind g = d.bind fun a => (f a).bind g := by
  induction d with
  | done value => rfl
  | ask question next ih => simp [bind, ih]

instance : LawfulMonad (Dialogue I) :=
  LawfulMonad.mk' (Dialogue I) (fun d => bind_done d) (fun _ _ => rfl) bind_assoc

/-- What a responder is asked is a transcript of what comes out. -/
theorem produces_transcript {σ : Type} (r : Responder I σ) (d : Dialogue I α) (state : σ) :
    d.Produces (d.transcript r state) (d.run r state).1 := by
  induction d generalizing state with
  | done value => exact .done value
  | ask question next ih => exact .ask (ih _ _)

@[simp] theorem run_done {σ : Type} (r : Responder I σ) (value : α) (state : σ) :
    (done value).run r state = (value, state) := rfl

@[simp] theorem run_ask {σ : Type} (r : Responder I σ) (question : I.Question)
    (next : I.Answer question → Dialogue I α) (state : σ) :
    (ask question next).run r state =
      (next (r.reply question state).1).run r (r.reply question state).2 := rfl

/-- A dialogue that goes on is answered from the state that the first part left. -/
theorem run_bind {σ : Type} (r : Responder I σ) (d : Dialogue I α) (f : α → Dialogue I β)
    (state : σ) :
    (d.bind f).run r state = (f (d.run r state).1).run r (d.run r state).2 := by
  induction d generalizing state with
  | done value => rfl
  | ask question next ih => exact ih _ _

/-- What is asked by a dialogue that goes on is what both parts ask. -/
theorem transcript_bind {σ : Type} (r : Responder I σ) (d : Dialogue I α)
    (f : α → Dialogue I β) (state : σ) :
    (d.bind f).transcript r state =
      d.transcript r state ++ (f (d.run r state).1).transcript r (d.run r state).2 := by
  induction d generalizing state with
  | done value => rfl
  | ask question next ih =>
      have hrest := ih (r.reply question state).1 (r.reply question state).2
      simp [bind, transcript, run, hrest]

/-- Transcripts of the two parts make one of the whole. -/
theorem Produces.bind {d : Dialogue I α} {f : α → Dialogue I β} {before after : Transcript I}
    {a : α} {b : β} (hd : d.Produces before a) (hf : (f a).Produces after b) :
    (d.bind f).Produces (before ++ after) b := by
  induction hd with
  | done value => exact hf
  | ask rest ih => exact .ask (ih hf)

/-- A transcript of the whole is split where the first part ends. -/
theorem exists_of_produces_bind {d : Dialogue I α} {f : α → Dialogue I β}
    {transcript : Transcript I} {b : β} (h : (d.bind f).Produces transcript b) :
    ∃ before after a, transcript = before ++ after ∧ d.Produces before a ∧
      (f a).Produces after b := by
  induction d generalizing transcript with
  | done value => exact ⟨[], transcript, value, rfl, .done value, h⟩
  | ask question next ih =>
      rw [Dialogue.bind] at h
      cases h with
      | ask rest =>
          obtain ⟨before, after, a, rfl, hbefore, hafter⟩ := ih _ rest
          exact ⟨_ :: before, after, a, rfl, .ask hbefore, hafter⟩

end Dialogue

/-- Interfaces with a question that lets time pass. -/
class Pausing (I : Interface) where
  pause : Duration → Dialogue I Unit

/-- A dialogue that knows the time and may be abandoned. -/
abbrev Timed (I : Interface) := OptionT (StateT Instant (Dialogue I))

namespace Timed

variable {I : Interface} {α : Type}

/-- Lets `d` pass. -/
def pause [Pausing I] (d : Duration) : Timed I Unit :=
  OptionT.lift fun now => (Pausing.pause d).bind fun _ => .done ((), now.after d)

def now : Timed I Instant := OptionT.lift get

/-- Asks without letting time pass. -/
def ask (d : Dialogue I α) : Timed I α := OptionT.lift (StateT.lift d)

def abandoned : Timed I α := OptionT.fail

/-- The dialogue of a procedure that starts at `start`: its result, unless it is
abandoned, and the time at its end. -/
def startingAt (t : Timed I α) (start : Instant) : Dialogue I (Option α × Instant) :=
  t.run start

end Timed

end CardReboot
