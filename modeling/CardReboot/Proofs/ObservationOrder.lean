import CardReboot.Proofs.StepRun

/-!
# The order of observations

A sign is a stretch of a transcript that tells something about the device.  Signs
are shown in order when the transcript has disjoint stretches for them, one behind
the other, with anything between.  The parts of a procedure show their signs one
after the other, so what a whole case has to show is put together from its parts.
-/

namespace CardReboot

namespace Transcript

variable {I : Interface}

def Shows (sign : Transcript I → Prop) (transcript : Transcript I) : Prop :=
  ∃ before stretch after, transcript = before ++ (stretch ++ after) ∧ sign stretch

/-- The transcript has a stretch for each sign, in the order of the signs. -/
def ShowsInOrder : List (Transcript I → Prop) → Transcript I → Prop
  | [], _ => True
  | sign :: later, transcript =>
      ∃ before after, transcript = before ++ after ∧
        Shows sign before ∧ ShowsInOrder later after

theorem Shows.append_left
    {sign : Transcript I → Prop} {transcript : Transcript I}
    (hshows : Shows sign transcript) (earlier : Transcript I) :
    Shows sign (earlier ++ transcript) := by
  obtain ⟨before, stretch, after, rfl, hsign⟩ := hshows
  exact ⟨earlier ++ before, stretch, after, by rw [List.append_assoc], hsign⟩

theorem ShowsInOrder.append_left
    {signs : List (Transcript I → Prop)} {transcript : Transcript I}
    (hshows : ShowsInOrder signs transcript) (earlier : Transcript I) :
    ShowsInOrder signs (earlier ++ transcript) := by
  cases signs with
  | nil => exact trivial
  | cons sign later =>
      obtain ⟨before, after, rfl, hsign, hlater⟩ := hshows
      exact ⟨earlier ++ before, after, by rw [List.append_assoc],
        hsign.append_left earlier, hlater⟩

theorem ShowsInOrder.append
    {first later : List (Transcript I → Prop)} {before after : Transcript I}
    (hfirst : ShowsInOrder first before) (hlater : ShowsInOrder later after) :
    ShowsInOrder (first ++ later) (before ++ after) := by
  induction first generalizing before with
  | nil => exact hlater.append_left before
  | cons sign signs ih =>
      obtain ⟨stretch, rest, rfl, hsign, hsigns⟩ := hfirst
      exact ⟨stretch, rest ++ after, by rw [List.append_assoc], hsign, ih hsigns⟩

theorem showsInOrder_singleton
    {sign : Transcript I → Prop} (before : Transcript I) {stretch : Transcript I}
    (hsign : sign stretch) :
    ShowsInOrder [sign] (before ++ stretch) :=
  ⟨before ++ stretch, [], by simp, ⟨before, stretch, [], by simp, hsign⟩, trivial⟩

end Transcript

namespace Step

variable {α β : Type} {signs : List (Transcript bench → Prop)}

/-- The step goes on only when the transcript shows these signs in order. -/
def Shows (signs : List (Transcript bench → Prop)) (p : Step α) : Prop :=
  ∀ start transcript a stop, p.Runs start transcript (some (.ok a)) stop →
    Transcript.ShowsInOrder (I := bench) signs transcript

theorem shows_nothing (p : Step α) : p.Shows [] :=
  fun _ _ _ _ _ => trivial

theorem shows_bind
    {p : Step α} {f : α → Step β} {later : List (Transcript bench → Prop)}
    (hp : p.Shows signs) (hf : ∀ a, (f a).Shows later) :
    (p >>= f).Shows (signs ++ later) := by
  intro start transcript b stop hrun
  obtain ⟨before, after, a, middle, rfl, hbefore, hafter⟩ := runs_bind_ok_iff.mp hrun
  have hfirst := hp _ _ _ _ hbefore
  have hlater := hf a _ _ _ _ hafter
  exact hfirst.append hlater

theorem shows_timed
    {t : Timed bench (Outcome α)}
    (ht : ∀ start transcript a stop, t.Runs start transcript (some (.ok a)) stop →
      Transcript.ShowsInOrder (I := bench) signs transcript) :
    (timed t).Shows signs :=
  fun start transcript a stop hrun =>
    ht start transcript a stop (runs_timed_ok_iff.mp hrun)

theorem shows_skip (reason : String) : (skip reason : Step α).Shows signs := by
  intro start transcript a stop hrun
  obtain ⟨-, hend, -⟩ := runs_skip_iff.mp hrun
  cases hend

end Step

end CardReboot
