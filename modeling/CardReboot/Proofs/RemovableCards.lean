import CardReboot.Proofs.ControllerRoles

/-!
# The removable card that is picked

Line cards and fabric cards are picked by one rule from a list of candidates.  Their
number is held against the declared one first.  Then the first of them counts that is
reported removable and, when a name is pinned, bears it.  Without such a card a chassis
that is declared modular fails the case and any other is a reason to skip it.

Every fabric card is a candidate.  A line card whose slot is reported empty is one only
while there are no more line cards than declared.
-/

namespace CardReboot

namespace ExpectedCount

/-- Another number is declared. -/
def RulesOut (expected : ExpectedCount) (count : Nat) : Prop :=
  0 ≤ expected.value ∧ expected.value ≠ count

theorem isExceededBy_iff (expected : ExpectedCount) (count : Nat) :
    expected.isExceededBy count = true ↔ expected.value < 0 ∨ expected.value < count := by
  unfold isExceededBy declared?
  by_cases hdeclared : 0 ≤ expected.value
  · simp only [if_pos hdeclared, decide_eq_true_eq]
    omega
  · simp only [if_neg hdeclared, true_iff]
    omega

end ExpectedCount

/-- Reported removable, and of the pinned name if there is one. -/
def ComponentDescriptor.IsPickable (pinned : Option String) (card : ComponentDescriptor) : Prop :=
  card.removable = some true ∧ (pinned = none ∨ pinned = some card.name)

instance (pinned : Option String) (card : ComponentDescriptor) :
    Decidable (card.IsPickable pinned) :=
  inferInstanceAs (Decidable (_ ∧ _))

namespace Inventory

/-- What becomes of a list of candidates.  A shortage is the reason to skip when there is
none at all, for cards that have such a reason. -/
inductive PickRuling (type : ComponentType) (candidates : Inventory) (expected : ExpectedCount)
    (pinned shortage : Option String) : Outcome (Selection ComponentDescriptor) → Prop
  | contradicted (hother : expected.RulesOut candidates.length) :
      PickRuling type candidates expected pinned shortage
        (.error (.topologyMismatch type expected.value candidates.length))
  | absent (reason : String) (hagrees : ¬ expected.RulesOut candidates.length)
      (hnone : candidates = []) (hshortage : shortage = some reason) :
      PickRuling type candidates expected pinned shortage (.ok (.skip reason))
  | selected (before after : Inventory) (card : ComponentDescriptor)
      (hagrees : ¬ expected.RulesOut candidates.length)
      (hcandidates : candidates = before ++ card :: after)
      (hbefore : ∀ c ∈ before, ¬ c.IsPickable pinned) (hcard : card.IsPickable pinned) :
      PickRuling type candidates expected pinned shortage (.ok (.selected card))
  | unavailable (hagrees : ¬ expected.RulesOut candidates.length)
      (hnone : ∀ c ∈ candidates, ¬ c.IsPickable pinned) (hmodular : 0 < expected.value) :
      PickRuling type candidates expected pinned shortage (.error (.noRemovableComponent type))
  | skipped (hagrees : ¬ expected.RulesOut candidates.length)
      (hsome : candidates = [] → shortage = none)
      (hnone : ∀ c ∈ candidates, ¬ c.IsPickable pinned) (hfixed : expected.value ≤ 0) :
      PickRuling type candidates expected pinned shortage
        (.ok (.skip ("No removable " ++ type.name ++ " component found for the testing")))

/-- The rule as a procedure. -/
def pickFrom (candidates : Inventory) (type : ComponentType) (expected : ExpectedCount)
    (pinned shortage : Option String) : Outcome (Selection ComponentDescriptor) := do
  checkCount type expected candidates.length
  match candidates, shortage with
  | [], some reason => return .skip reason
  | _, _ => candidates.pickRemovable type expected pinned

/-! ## The first card that qualifies -/

section Pick

variable {candidates before after : Inventory} {card : ComponentDescriptor}
  {type : ComponentType} {expected : ExpectedCount} {pinned shortage : Option String}

theorem removable_eq_filter (candidates : Inventory) (pinned : Option String) :
    candidates.removable pinned = candidates.filter fun c => c.IsPickable pinned := by
  unfold removable
  apply List.filter_congr
  intro c _
  rw [Bool.eq_iff_iff]
  cases pinned with
  | none => simp [ComponentDescriptor.IsPickable, ComponentDescriptor.isRemovable]
  | some name =>
      simp [ComponentDescriptor.IsPickable, ComponentDescriptor.isRemovable, and_comm,
        @eq_comm _ name]

theorem removable_eq_nil (hnone : ∀ c ∈ candidates, ¬ c.IsPickable pinned) :
    candidates.removable pinned = [] := by
  rw [removable_eq_filter, List.filter_eq_nil_iff]
  simpa using hnone

theorem exists_split_or_none (candidates : Inventory) (pinned : Option String) :
    (∃ before card after, candidates = before ++ card :: after ∧
      (∀ c ∈ before, ¬ c.IsPickable pinned) ∧ card.IsPickable pinned) ∨
      ∀ c ∈ candidates, ¬ c.IsPickable pinned := by
  cases hpickable : candidates.filter fun c => c.IsPickable pinned with
  | nil =>
      right
      simpa [List.filter_eq_nil_iff] using hpickable
  | cons card rest =>
      left
      obtain ⟨before, after, hcandidates, hbefore, hcard, -⟩ :=
        List.filter_eq_cons_iff.mp hpickable
      exact ⟨before, card, after, hcandidates, by simpa using hbefore, by simpa using hcard⟩

theorem pickRemovable_of_first
    (hbefore : ∀ c ∈ before, ¬ c.IsPickable pinned) (hcard : card.IsPickable pinned) :
    pickRemovable (before ++ card :: after) type expected pinned = .ok (.selected card) := by
  have hremovable : removable (before ++ card :: after) pinned =
      card :: after.filter fun c => c.IsPickable pinned := by
    rw [removable_eq_filter, List.filter_eq_cons_iff]
    exact ⟨before, after, rfl, by simpa using hbefore, by simpa using hcard, rfl⟩
  simp only [pickRemovable, hremovable]

theorem pickRemovable_of_modular
    (hnone : ∀ c ∈ candidates, ¬ c.IsPickable pinned) (hmodular : 0 < expected.value) :
    candidates.pickRemovable type expected pinned = .error (.noRemovableComponent type) := by
  have hpositive : expected.isPositive = true := by simp [ExpectedCount.isPositive, hmodular]
  simp only [pickRemovable, removable_eq_nil hnone, hpositive, if_true]

theorem pickRemovable_of_fixed
    (hnone : ∀ c ∈ candidates, ¬ c.IsPickable pinned) (hfixed : expected.value ≤ 0) :
    candidates.pickRemovable type expected pinned =
      .ok (.skip ("No removable " ++ type.name ++ " component found for the testing")) := by
  have hpositive : expected.isPositive = false := by
    simpa [ExpectedCount.isPositive] using hfixed
  simp [pickRemovable, removable_eq_nil hnone, hpositive]

/-! ## The ruling -/

theorem pickFrom_of_rulesOut (hother : expected.RulesOut candidates.length) :
    candidates.pickFrom type expected pinned shortage =
      .error (.topologyMismatch type expected.value candidates.length) := by
  have hcount := (checkCount_eq expected type candidates.length).trans (if_pos hother)
  simp only [pickFrom, hcount]
  rfl

theorem pickFrom_of_shortage
    {reason : String} (hagrees : ¬ expected.RulesOut 0) :
    pickFrom [] type expected pinned (some reason) = .ok (.skip reason) := by
  have hcount := (checkCount_eq expected type 0).trans (if_neg hagrees)
  simp only [pickFrom, List.length_nil, hcount]
  rfl

theorem pickFrom_of_agrees
    (hagrees : ¬ expected.RulesOut candidates.length)
    (hsome : candidates = [] → shortage = none) :
    candidates.pickFrom type expected pinned shortage =
      candidates.pickRemovable type expected pinned := by
  have hcount := (checkCount_eq expected type candidates.length).trans (if_neg hagrees)
  cases candidates with
  | nil =>
      rw [hsome rfl]
      simp only [pickFrom, hcount]
      rfl
  | cons first rest =>
      simp only [pickFrom, hcount]
      rfl

theorem PickRuling.pickFrom_eq
    {outcome : Outcome (Selection ComponentDescriptor)}
    (hruling : PickRuling type candidates expected pinned shortage outcome) :
    candidates.pickFrom type expected pinned shortage = outcome := by
  cases hruling with
  | contradicted hother => exact pickFrom_of_rulesOut hother
  | absent reason hagrees hnone hshortage =>
      subst hnone hshortage
      exact pickFrom_of_shortage hagrees
  | selected before after card hagrees hcandidates hbefore hcard =>
      have hsome : candidates = [] → shortage = none := by simp [hcandidates]
      rw [pickFrom_of_agrees hagrees hsome, hcandidates]
      exact pickRemovable_of_first hbefore hcard
  | unavailable hagrees hnone hmodular =>
      -- Nothing at all would be another number than the declared one.
      have hsome : candidates = [] → shortage = none := by
        intro hnil
        subst hnil
        refine absurd ⟨by omega, ?_⟩ hagrees
        simp only [List.length_nil]
        omega
      rw [pickFrom_of_agrees hagrees hsome]
      exact pickRemovable_of_modular hnone hmodular
  | skipped hagrees hsome hnone hfixed =>
      rw [pickFrom_of_agrees hagrees hsome]
      exact pickRemovable_of_fixed hnone hfixed

variable (candidates type expected pinned shortage) in
theorem exists_pickRuling :
    ∃ outcome, PickRuling type candidates expected pinned shortage outcome := by
  by_cases hother : expected.RulesOut candidates.length
  · exact ⟨_, .contradicted hother⟩
  by_cases hshort : candidates = [] ∧ shortage ≠ none
  · obtain ⟨reason, hreason⟩ := Option.ne_none_iff_exists'.mp hshort.2
    exact ⟨_, .absent reason hother hshort.1 hreason⟩
  have hsome : candidates = [] → shortage = none := by simpa using hshort
  rcases exists_split_or_none candidates pinned with
    ⟨before, card, after, hcandidates, hbefore, hcard⟩ | hnone
  · exact ⟨_, .selected before after card hother hcandidates hbefore hcard⟩
  · by_cases hmodular : 0 < expected.value
    · exact ⟨_, .unavailable hother hnone hmodular⟩
    · exact ⟨_, .skipped hother hsome hnone (by omega)⟩

theorem pickFrom_eq_iff {outcome : Outcome (Selection ComponentDescriptor)} :
    candidates.pickFrom type expected pinned shortage = outcome ↔
      PickRuling type candidates expected pinned shortage outcome := by
  refine ⟨?_, PickRuling.pickFrom_eq⟩
  intro hpick
  obtain ⟨found, hruling⟩ := exists_pickRuling candidates type expected pinned shortage
  have hfound : found = outcome := hruling.pickFrom_eq.symm.trans hpick
  exact hfound ▸ hruling

theorem PickRuling.mem_and_isPickable
    (hruling : PickRuling type candidates expected pinned shortage (.ok (.selected card))) :
    card ∈ candidates ∧ card.IsPickable pinned := by
  cases hruling with
  | selected before after _ _ hcandidates _ hcard => exact ⟨by simp [hcandidates], hcard⟩

end Pick

/-! ## Line cards and fabric cards -/

section Cards

variable (inventory : Inventory) (expected : ExpectedCount)

/-- The line cards that can be picked. -/
def linecardCandidates : Inventory :=
  if expected.value < 0 ∨ expected.value < (inventory.ofType .linecard).length then
    (inventory.ofType .linecard).filter fun c => c.empty ≠ some true
  else inventory.ofType .linecard

theorem presentLinecards_eq :
    inventory.presentLinecards expected = inventory.linecardCandidates expected := by
  have hslot : (fun c : ComponentDescriptor => !c.isEmptySlot) =
      fun c => decide (c.empty ≠ some true) := by
    funext c
    rw [Bool.eq_iff_iff]
    simp [ComponentDescriptor.isEmptySlot]
  simp only [presentLinecards, linecardCandidates, ExpectedCount.isExceededBy_iff, hslot]

/-- An empty slot is a candidate only while no more line cards are there than declared. -/
theorem length_le_of_mem_linecardCandidates
    {card : ComponentDescriptor} (hmem : card ∈ inventory.linecardCandidates expected)
    (hempty : card.empty = some true) :
    (inventory.ofType .linecard).length ≤ expected.value := by
  by_cases hexceeded : expected.value < 0 ∨
      expected.value < (inventory.ofType .linecard).length
  · rw [linecardCandidates, if_pos hexceeded, List.mem_filter] at hmem
    simp [hempty] at hmem
  · omega

theorem selectLinecard_eq_pickFrom (pinned : Option String) :
    inventory.selectLinecard expected pinned =
      (inventory.linecardCandidates expected).pickFrom .linecard expected pinned
        (some "Not enough linecards for the test: got 0, want > 0") := by
  unfold selectLinecard pickFrom
  rw [presentLinecards_eq]
  cases inventory.linecardCandidates expected <;> rfl

theorem selectFabric_eq_pickFrom :
    inventory.selectFabric expected =
      (inventory.ofType .fabric).pickFrom .fabric expected none none := by
  unfold selectFabric pickFrom
  cases inventory.ofType .fabric <;> rfl

/-- Both kinds of cards are picked by the one rule, and what is picked is reported
removable.  A picked line card is in a slot reported empty only while there are no more
line cards than declared. -/
theorem removableCard_ruling (pinned : Option String) :
    (∀ outcome, inventory.selectLinecard expected pinned = outcome ↔
      PickRuling .linecard (inventory.linecardCandidates expected) expected pinned
        (some "Not enough linecards for the test: got 0, want > 0") outcome) ∧
    (∀ card, inventory.selectLinecard expected pinned = .ok (.selected card) →
      card.removable = some true ∧
        (card.empty = some true → (inventory.ofType .linecard).length ≤ expected.value)) ∧
    (∀ outcome, inventory.selectFabric expected = outcome ↔
      PickRuling .fabric (inventory.ofType .fabric) expected none none outcome) ∧
    ∀ card, inventory.selectFabric expected = .ok (.selected card) →
      card.removable = some true := by
  refine ⟨?_, ?_, ?_, ?_⟩
  · intro outcome
    rw [selectLinecard_eq_pickFrom, pickFrom_eq_iff]
  · intro card hselect
    rw [selectLinecard_eq_pickFrom, pickFrom_eq_iff] at hselect
    obtain ⟨hmem, hpickable⟩ := hselect.mem_and_isPickable
    exact ⟨hpickable.1, inventory.length_le_of_mem_linecardCandidates expected hmem⟩
  · intro outcome
    rw [selectFabric_eq_pickFrom, pickFrom_eq_iff]
  · intro card hselect
    rw [selectFabric_eq_pickFrom, pickFrom_eq_iff] at hselect
    exact hselect.mem_and_isPickable.2.1

end Cards

end Inventory

end CardReboot
