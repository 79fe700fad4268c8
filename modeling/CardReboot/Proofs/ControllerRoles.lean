import CardReboot.Proofs.CardChoice

/-!
# The roles of controller cards

A pair of controller cards is chosen by counting: the controller cards themselves, then
those of them that report the secondary role, then those that report the primary one.
The first count that is not as it has to be decides, and nothing else in the inventory
has a part in it, nor has its order.
-/

namespace CardReboot

namespace Inventory

variable (inventory : Inventory) (expected : ExpectedCount)

/-- How many controller cards there are. -/
def controllers : Nat := inventory.countP fun c => c.type = .controllerCard

/-- The controller cards that report a role. -/
def reporting (role : RedundantRole) : Inventory :=
  inventory.filter fun c => c.type = .controllerCard ∧ c.role = some role

/-- Another number of controller cards is declared. -/
def Contradicts : Prop := 0 ≤ expected.value ∧ expected.value ≠ inventory.controllers

/-- There are controller cards enough for a pair, and as many as are declared. -/
def OffersPair : Prop := ¬ inventory.Contradicts expected ∧ 2 ≤ inventory.controllers

/-- A card of the role is looked for: one that is primary only when there is one that is
secondary. -/
def LooksFor : RedundantRole → Prop
  | .secondary => inventory.OffersPair expected
  | .primary => inventory.OffersPair expected ∧ (inventory.reporting .secondary).length = 1
  | .unknown => False

/-- What the counts say about the pair. -/
inductive Ruling : Outcome (Selection ControllerPair) → Prop
  | contradicted (hcontra : inventory.Contradicts expected) :
      Ruling (.error (.topologyMismatch .controllerCard expected.value inventory.controllers))
  | few (hagrees : ¬ inventory.Contradicts expected) (hfew : inventory.controllers < 2) :
      Ruling (.ok (.skip ("Not enough controller cards for the test: got " ++
        inventory.controllers.repr ++ ", want at least 2")))
  | notFound (role : RedundantRole) (hlooks : inventory.LooksFor expected role)
      (hnone : (inventory.reporting role).length = 0) :
      Ruling (.error (.redundancyRoleNotFound role))
  | ambiguous (role : RedundantRole) (hlooks : inventory.LooksFor expected role)
      (hmany : 2 ≤ (inventory.reporting role).length) :
      Ruling (.error (.redundancyRoleAmbiguous role (inventory.reporting role).length))
  | selected (pair : ControllerPair) (hoffers : inventory.OffersPair expected)
      (hstandby : inventory.reporting .secondary = [pair.standby])
      (hactive : inventory.reporting .primary = [pair.active]) :
      Ruling (.ok (.selected pair))

theorem length_ofType_controllerCard :
    (inventory.ofType .controllerCard).length = inventory.controllers :=
  List.countP_eq_length_filter.symm

theorem withRole_ofType_controllerCard (role : RedundantRole) :
    (inventory.ofType .controllerCard).withRole role = inventory.reporting role := by
  simp only [withRole, ofType, reporting, List.filter_filter, Bool.decide_and, Bool.and_comm]

theorem checkCount_eq (type : ComponentType) (actual : Nat) :
    checkCount type expected actual =
      if 0 ≤ expected.value ∧ expected.value ≠ actual then
        .error (.topologyMismatch type expected.value actual)
      else .ok () := by
  unfold checkCount ExpectedCount.declared?
  by_cases hdeclared : 0 ≤ expected.value
  · have hdiffers : (0 ≤ expected.value ∧ expected.value ≠ actual) ↔
        ¬ expected.value.toNat = actual := by omega
    rw [if_pos hdeclared]
    simp only [hdiffers, ite_not]
  · rw [if_neg hdeclared, if_neg fun h => hdeclared h.1]

section Choice

variable {inventory : Inventory} {expected : ExpectedCount}

theorem checkCount_of_contradicts (hcontra : inventory.Contradicts expected) :
    checkCount .controllerCard expected inventory.controllers =
      .error (.topologyMismatch .controllerCard expected.value inventory.controllers) :=
  (checkCount_eq _ _ _).trans (if_pos hcontra)

theorem checkCount_of_agrees (hagrees : ¬ inventory.Contradicts expected) :
    checkCount .controllerCard expected inventory.controllers = .ok () :=
  (checkCount_eq _ _ _).trans (if_neg hagrees)

theorem selectControllers_of_contradicts (hcontra : inventory.Contradicts expected) :
    inventory.selectControllers expected =
      .error (.topologyMismatch .controllerCard expected.value inventory.controllers) := by
  simp only [selectControllers, length_ofType_controllerCard, checkCount_of_contradicts hcontra]
  rfl

theorem selectControllers_of_few
    (hagrees : ¬ inventory.Contradicts expected) (hfew : inventory.controllers < 2) :
    inventory.selectControllers expected =
      .ok (.skip ("Not enough controller cards for the test: got " ++
        inventory.controllers.repr ++ ", want at least 2")) := by
  simp only [selectControllers, length_ofType_controllerCard, checkCount_of_agrees hagrees,
    if_pos hfew]
  rfl

theorem selectControllers_of_offersPair (hoffers : inventory.OffersPair expected) :
    inventory.selectControllers expected = do
      let standby ← theOnly (inventory.ofType .controllerCard) .secondary
      let active ← theOnly (inventory.ofType .controllerCard) .primary
      return .selected ⟨standby, active⟩ := by
  simp only [selectControllers, length_ofType_controllerCard, checkCount_of_agrees hoffers.1,
    if_neg (Nat.not_lt.mpr hoffers.2)]
  rfl

/-- The only controller card of a role is the one that reports it. -/
theorem theOnly_eq_ok
    {role : RedundantRole} {card : ComponentDescriptor}
    (hcard : inventory.reporting role = [card]) :
    theOnly (inventory.ofType .controllerCard) role = .ok card := by
  rw [theOnly, withRole_ofType_controllerCard, hcard]

theorem theOnly_eq_notFound
    {role : RedundantRole} (hnone : (inventory.reporting role).length = 0) :
    theOnly (inventory.ofType .controllerCard) role = .error (.redundancyRoleNotFound role) := by
  rw [theOnly, withRole_ofType_controllerCard, List.length_eq_zero_iff.mp hnone]

theorem theOnly_eq_ambiguous
    {role : RedundantRole} (hmany : 2 ≤ (inventory.reporting role).length) :
    theOnly (inventory.ofType .controllerCard) role =
      .error (.redundancyRoleAmbiguous role (inventory.reporting role).length) := by
  rw [theOnly, withRole_ofType_controllerCard]
  match hcards : inventory.reporting role, hmany with
  | _ :: _ :: _, _ => rfl

/-- A role that is looked for decides when it is not there once. -/
theorem selectControllers_of_looksFor
    {role : RedundantRole} {failure : Failure} (hlooks : inventory.LooksFor expected role)
    (hfails : theOnly (inventory.ofType .controllerCard) role = .error failure) :
    inventory.selectControllers expected = .error failure := by
  cases role with
  | secondary =>
      rw [selectControllers_of_offersPair hlooks, hfails]
      rfl
  | primary =>
      obtain ⟨hoffers, hone⟩ := hlooks
      obtain ⟨standby, hstandby⟩ := List.length_eq_one_iff.mp hone
      rw [selectControllers_of_offersPair hoffers, theOnly_eq_ok hstandby, hfails]
      rfl
  | unknown => exact hlooks.elim

/-- The selection keeps to the ruling. -/
theorem Ruling.selectControllers_eq
    {outcome : Outcome (Selection ControllerPair)} (hruling : inventory.Ruling expected outcome) :
    inventory.selectControllers expected = outcome := by
  cases hruling with
  | contradicted hcontra => exact selectControllers_of_contradicts hcontra
  | few hagrees hfew => exact selectControllers_of_few hagrees hfew
  | notFound role hlooks hnone =>
      exact selectControllers_of_looksFor hlooks (theOnly_eq_notFound hnone)
  | ambiguous role hlooks hmany =>
      exact selectControllers_of_looksFor hlooks (theOnly_eq_ambiguous hmany)
  | selected pair hoffers hstandby hactive =>
      rw [selectControllers_of_offersPair hoffers, theOnly_eq_ok hstandby, theOnly_eq_ok hactive]
      rfl

theorem Ruling.of_looksFor
    (role : RedundantRole) (hlooks : inventory.LooksFor expected role)
    (hnot : (inventory.reporting role).length ≠ 1) :
    ∃ outcome, inventory.Ruling expected outcome := by
  by_cases hnone : (inventory.reporting role).length = 0
  · exact ⟨_, .notFound role hlooks hnone⟩
  · exact ⟨_, .ambiguous role hlooks (by omega)⟩

variable (inventory expected) in
/-- The counts always decide. -/
theorem exists_ruling : ∃ outcome, inventory.Ruling expected outcome := by
  by_cases hcontra : inventory.Contradicts expected
  · exact ⟨_, .contradicted hcontra⟩
  by_cases hfew : inventory.controllers < 2
  · exact ⟨_, .few hcontra hfew⟩
  have hoffers : inventory.OffersPair expected := ⟨hcontra, Nat.not_lt.mp hfew⟩
  by_cases hsecondary : (inventory.reporting .secondary).length = 1
  · by_cases hprimary : (inventory.reporting .primary).length = 1
    · obtain ⟨standby, hstandby⟩ := List.length_eq_one_iff.mp hsecondary
      obtain ⟨active, hactive⟩ := List.length_eq_one_iff.mp hprimary
      exact ⟨_, .selected ⟨standby, active⟩ hoffers hstandby hactive⟩
    · exact Ruling.of_looksFor .primary ⟨hoffers, hsecondary⟩ hprimary
  · exact Ruling.of_looksFor .secondary hoffers hsecondary

theorem selectControllers_eq_iff
    {outcome : Outcome (Selection ControllerPair)} :
    inventory.selectControllers expected = outcome ↔ inventory.Ruling expected outcome := by
  refine ⟨?_, Ruling.selectControllers_eq⟩
  rintro rfl
  obtain ⟨outcome, hruling⟩ := exists_ruling inventory expected
  rw [hruling.selectControllers_eq]
  exact hruling

variable {pair : ControllerPair}

theorem selectControllers_eq_topologyMismatch_iff
    {type : ComponentType} {declared : Int} {actual : Nat} :
    inventory.selectControllers expected = .error (.topologyMismatch type declared actual) ↔
      inventory.Contradicts expected ∧ type = .controllerCard ∧ declared = expected.value ∧
        actual = inventory.controllers := by
  rw [selectControllers_eq_iff]
  constructor
  · intro hruling
    cases hruling with
    | contradicted hcontra => exact ⟨hcontra, rfl, rfl, rfl⟩
  · rintro ⟨hcontra, rfl, rfl, rfl⟩
    exact .contradicted hcontra

theorem selectControllers_eq_skip_iff {reason : String} :
    inventory.selectControllers expected = .ok (.skip reason) ↔
      ¬ inventory.Contradicts expected ∧ inventory.controllers < 2 ∧
        reason = "Not enough controller cards for the test: got " ++
          inventory.controllers.repr ++ ", want at least 2" := by
  rw [selectControllers_eq_iff]
  constructor
  · intro hruling
    cases hruling with
    | few hagrees hfew => exact ⟨hagrees, hfew, rfl⟩
  · rintro ⟨hagrees, hfew, rfl⟩
    exact .few hagrees hfew

theorem selectControllers_eq_notFound_iff {role : RedundantRole} :
    inventory.selectControllers expected = .error (.redundancyRoleNotFound role) ↔
      inventory.LooksFor expected role ∧ (inventory.reporting role).length = 0 := by
  rw [selectControllers_eq_iff]
  constructor
  · intro hruling
    cases hruling with
    | notFound _ hlooks hnone => exact ⟨hlooks, hnone⟩
  · rintro ⟨hlooks, hnone⟩
    exact .notFound role hlooks hnone

theorem selectControllers_eq_ambiguous_iff {role : RedundantRole} {count : Nat} :
    inventory.selectControllers expected = .error (.redundancyRoleAmbiguous role count) ↔
      inventory.LooksFor expected role ∧ 2 ≤ count ∧
        count = (inventory.reporting role).length := by
  rw [selectControllers_eq_iff]
  constructor
  · intro hruling
    cases hruling with
    | ambiguous _ hlooks hmany => exact ⟨hlooks, hmany, rfl⟩
  · rintro ⟨hlooks, hmany, rfl⟩
    exact .ambiguous role hlooks hmany

theorem selectControllers_eq_selected_iff :
    inventory.selectControllers expected = .ok (.selected pair) ↔
      ¬ inventory.Contradicts expected ∧ 2 ≤ inventory.controllers ∧
        inventory.reporting .secondary = [pair.standby] ∧
          inventory.reporting .primary = [pair.active] := by
  rw [selectControllers_eq_iff]
  constructor
  · intro hruling
    cases hruling with
    | selected _ hoffers hstandby hactive => exact ⟨hoffers.1, hoffers.2, hstandby, hactive⟩
  · rintro ⟨hagrees, henough, hstandby, hactive⟩
    exact .selected pair ⟨hagrees, henough⟩ hstandby hactive

theorem role_of_reporting_eq
    {role : RedundantRole} {card : ComponentDescriptor}
    (hcard : inventory.reporting role = [card]) : card.role = some role := by
  have hmem : card ∈ inventory.reporting role := hcard ▸ List.mem_singleton_self card
  exact (of_decide_eq_true (List.mem_filter.mp hmem).2).2

/-- One card cannot report both roles. -/
theorem standby_ne_active
    (hselected : inventory.selectControllers expected = .ok (.selected pair)) :
    pair.standby ≠ pair.active := by
  obtain ⟨-, -, hstandby, hactive⟩ := selectControllers_eq_selected_iff.mp hselected
  intro hsame
  have hroles : some RedundantRole.secondary = some .primary :=
    (role_of_reporting_eq hstandby).symm.trans (hsame ▸ role_of_reporting_eq hactive)
  cases hroles

end Choice

/-! ## What has no part in the choice -/

section Order

variable {inventory other : Inventory} {expected : ExpectedCount} {role : RedundantRole}

theorem controllers_perm (hperm : inventory.Perm other) :
    inventory.controllers = other.controllers :=
  hperm.countP_eq _

theorem reporting_perm (hperm : inventory.Perm other) :
    (inventory.reporting role).Perm (other.reporting role) :=
  hperm.filter _

theorem Contradicts.perm
    (hcontra : inventory.Contradicts expected) (hperm : inventory.Perm other) :
    other.Contradicts expected := by
  rw [Contradicts, ← controllers_perm hperm]
  exact hcontra

theorem OffersPair.perm (hoffers : inventory.OffersPair expected) (hperm : inventory.Perm other) :
    other.OffersPair expected :=
  ⟨fun hcontra => hoffers.1 (hcontra.perm hperm.symm), controllers_perm hperm ▸ hoffers.2⟩

theorem LooksFor.perm (hlooks : inventory.LooksFor expected role) (hperm : inventory.Perm other) :
    other.LooksFor expected role := by
  cases role with
  | secondary => exact OffersPair.perm hlooks hperm
  | primary =>
      exact ⟨OffersPair.perm hlooks.1 hperm, (reporting_perm hperm).length_eq ▸ hlooks.2⟩
  | unknown => exact hlooks

/-- The order of the cards has no part in the ruling. -/
theorem Ruling.perm
    {outcome : Outcome (Selection ControllerPair)} (hruling : inventory.Ruling expected outcome)
    (hperm : inventory.Perm other) : other.Ruling expected outcome := by
  have hlength : ∀ role, (inventory.reporting role).length = (other.reporting role).length :=
    fun role => (reporting_perm hperm).length_eq
  have honly : ∀ {role card}, inventory.reporting role = [card] → other.reporting role = [card] :=
    fun hcard => List.perm_singleton.mp (hcard ▸ (reporting_perm hperm).symm)
  cases hruling with
  | contradicted hcontra =>
      rw [controllers_perm hperm]
      exact .contradicted (hcontra.perm hperm)
  | few hagrees hfew =>
      rw [controllers_perm hperm] at hfew ⊢
      exact .few (fun hcontra => hagrees (hcontra.perm hperm.symm)) hfew
  | notFound role hlooks hnone =>
      exact .notFound role (hlooks.perm hperm) (hlength role ▸ hnone)
  | ambiguous role hlooks hmany =>
      rw [hlength] at hmany ⊢
      exact .ambiguous role (hlooks.perm hperm) hmany
  | selected pair hoffers hstandby hactive =>
      exact .selected pair (hoffers.perm hperm) (honly hstandby) (honly hactive)

theorem ofType_append_cons
    {type : ComponentType} {before after : Inventory} {card : ComponentDescriptor}
    (hother : card.type ≠ type) :
    ofType (before ++ card :: after) type = ofType (before ++ after) type := by
  simp [ofType, hother]

theorem reporting_append_cons
    {before after : Inventory} {card : ComponentDescriptor} (hother : card.role ≠ some role) :
    reporting (before ++ card :: after) role = reporting (before ++ after) role := by
  simp [reporting, hother]

/-- A card of another type has no part in the choice. -/
theorem selectControllers_append_cons
    {before after : Inventory} {card : ComponentDescriptor}
    (hother : card.type ≠ .controllerCard) :
    selectControllers (before ++ card :: after) expected =
      selectControllers (before ++ after) expected := by
  unfold selectControllers
  rw [ofType_append_cons hother]

theorem ne_some_of_unknown
    {card : ComponentDescriptor} (hunknown : card.role = none ∨ card.role = some .unknown)
    (hknown : role ≠ .unknown) : card.role ≠ some role := by
  rcases hunknown with hnone | hunknown
  · rw [hnone]
    exact nofun
  · rw [hunknown]
    exact fun hsame => hknown (Option.some.inj hsame).symm

theorem selectControllers_perm (hperm : inventory.Perm other) :
    inventory.selectControllers expected = other.selectControllers expected :=
  ((selectControllers_eq_iff.mp rfl).perm hperm).selectControllers_eq.symm

end Order

/-! ## The choice -/

/-- The first count that is not as it has to be decides: the number of controller cards
against the declared one, then against two, then the number of those that report the
secondary role, then of those that report the primary one. -/
theorem selectControllers_ruling (inventory : Inventory) (expected : ExpectedCount) :
    let chosen := inventory.selectControllers expected
    let n := inventory.controllers
    let contradicts := 0 ≤ expected.value ∧ expected.value ≠ n
    (∀ type declared actual, chosen = .error (.topologyMismatch type declared actual) ↔
      contradicts ∧ type = .controllerCard ∧ declared = expected.value ∧ actual = n) ∧
    (∀ reason, chosen = .ok (.skip reason) ↔
      ¬ contradicts ∧ n < 2 ∧ reason = "Not enough controller cards for the test: got " ++
        n.repr ++ ", want at least 2") ∧
    (∀ role, chosen = .error (.redundancyRoleNotFound role) ↔
      inventory.LooksFor expected role ∧ (inventory.reporting role).length = 0) ∧
    (∀ role count, chosen = .error (.redundancyRoleAmbiguous role count) ↔
      inventory.LooksFor expected role ∧ 2 ≤ count ∧
        count = (inventory.reporting role).length) ∧
    (∀ pair, chosen = .ok (.selected pair) ↔
      ¬ contradicts ∧ 2 ≤ n ∧ inventory.reporting .secondary = [pair.standby] ∧
        inventory.reporting .primary = [pair.active]) ∧
    (∀ pair, chosen = .ok (.selected pair) → pair.standby ≠ pair.active) ∧
    (∀ before card after, inventory = before ++ card :: after →
      (card.type ≠ .controllerCard →
        chosen = selectControllers (before ++ after) expected) ∧
      (card.role = none ∨ card.role = some .unknown → ∀ role, role ≠ .unknown →
        inventory.reporting role = reporting (before ++ after) role)) ∧
    ∀ other : Inventory, inventory.Perm other → chosen = other.selectControllers expected := by
  intro chosen n contradicts
  refine ⟨fun _ _ _ => selectControllers_eq_topologyMismatch_iff,
    fun _ => selectControllers_eq_skip_iff, fun _ => selectControllers_eq_notFound_iff,
    fun _ _ => selectControllers_eq_ambiguous_iff, fun _ => selectControllers_eq_selected_iff,
    fun _ => standby_ne_active, ?_, fun _ => selectControllers_perm⟩
  rintro before card after rfl
  exact ⟨selectControllers_append_cons,
    fun hunknown role hknown => reporting_append_cons (ne_some_of_unknown hunknown hknown)⟩

end Inventory

end CardReboot
