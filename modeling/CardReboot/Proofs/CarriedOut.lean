import CardReboot.Proofs.TimedRun

/-!
# Dialogues carried out below

A dialogue that is carried out asks nothing itself: each of its questions becomes a
dialogue below, whose result is the answer.  What is asked below is one segment after
the other, one for each question above.  So a law about every run of the dialogue is a
law about what is asked below, as soon as the segments of its questions are known.
-/

namespace CardReboot

/-- What a responder below makes of the questions above. -/
def Responder.through
    {I J : Interface} {σ : Type} (r : Responder J σ)
    (carry : (q : I.Question) → Dialogue J (I.Answer q)) : Responder I σ where
  reply question state := (carry question).run r state

namespace Dialogue

variable {I J : Interface} {α : Type} {carry : (q : I.Question) → Dialogue J (I.Answer q)}

/-- The second transcript is made of one segment for each exchange of the first. -/
inductive CarriedOut (carry : (q : I.Question) → Dialogue J (I.Answer q)) :
    Transcript I → Transcript J → Prop
  | nil : CarriedOut carry [] []
  | cons {e : Exchange I} {segment : Transcript J} {asked : Transcript I} {rest : Transcript J}
      (hsegment : (carry e.question).Produces segment e.answer)
      (hrest : CarriedOut carry asked rest) :
      CarriedOut carry (e :: asked) (segment ++ rest)

theorem exists_of_produces_carryOut
    {d : Dialogue I α} {transcript : Transcript J} {a : α}
    (hproduces : (d.carryOut carry).Produces transcript a) :
    ∃ asked, d.Produces asked a ∧ CarriedOut carry asked transcript := by
  induction d generalizing transcript with
  | done value =>
      obtain ⟨rfl, rfl⟩ := produces_done_iff.mp hproduces
      exact ⟨[], .done _, .nil⟩
  | ask question next ih =>
      rw [carryOut] at hproduces
      obtain ⟨segment, rest, answer, rfl, hsegment, hrest⟩ :=
        produces_bind_iff.mp hproduces
      obtain ⟨asked, hasked, hcarried⟩ := ih answer hrest
      exact ⟨⟨question, answer⟩ :: asked, .ask hasked, .cons hsegment hcarried⟩

theorem Produces.carryOut
    {d : Dialogue I α} {asked : Transcript I} {transcript : Transcript J} {a : α}
    (hasked : d.Produces asked a) (hcarried : CarriedOut carry asked transcript) :
    (d.carryOut carry).Produces transcript a := by
  induction hasked generalizing transcript with
  | done value =>
      cases hcarried
      exact .done value
  | ask _ ih =>
      cases hcarried with
      | cons hsegment hrest => exact hsegment.bind (ih hrest)

namespace CarriedOut

theorem exists_of_cons
    {e : Exchange I} {asked : Transcript I} {transcript : Transcript J}
    (hcarried : CarriedOut carry (e :: asked) transcript) :
    ∃ segment rest, transcript = segment ++ rest ∧
      (carry e.question).Produces segment e.answer ∧ CarriedOut carry asked rest := by
  cases hcarried with
  | cons hsegment hrest => exact ⟨_, _, rfl, hsegment, hrest⟩

theorem exists_of_append
    {first second : Transcript I} {transcript : Transcript J}
    (hcarried : CarriedOut carry (first ++ second) transcript) :
    ∃ before after, transcript = before ++ after ∧ CarriedOut carry first before ∧
      CarriedOut carry second after := by
  induction first generalizing transcript with
  | nil => exact ⟨[], transcript, rfl, .nil, hcarried⟩
  | cons e first ih =>
      obtain ⟨segment, rest, rfl, hsegment, hrest⟩ := exists_of_cons hcarried
      obtain ⟨before, after, rfl, hbefore, hafter⟩ := ih hrest
      exact ⟨segment ++ before, after, (List.append_assoc _ _ _).symm,
        .cons hsegment hbefore, hafter⟩

theorem exists_of_pair
    {e f : Exchange I} {transcript : Transcript J}
    (hcarried : CarriedOut carry [e, f] transcript) :
    ∃ first second, transcript = first ++ second ∧
      (carry e.question).Produces first e.answer ∧
        (carry f.question).Produces second f.answer := by
  obtain ⟨first, rest, rfl, hfirst, hrest⟩ := hcarried.exists_of_cons
  obtain ⟨second, nothing, rfl, hsecond, hnothing⟩ := hrest.exists_of_cons
  cases hnothing
  rw [List.append_nil]
  exact ⟨first, second, rfl, hfirst, hsecond⟩

end CarriedOut

theorem run_carryOut
    {σ : Type} (r : Responder J σ) (d : Dialogue I α) (state : σ) :
    (d.carryOut carry).run r state = d.run (r.through carry) state := by
  induction d generalizing state with
  | done value => rfl
  | ask question next ih =>
      rw [carryOut, run_bind, run_ask]
      exact ih _ _

end Dialogue

end CardReboot
