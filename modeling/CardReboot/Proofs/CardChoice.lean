import CardReboot.Port
import CardReboot.Proofs.ReadingRun

/-!
# The card that is picked

What a selection has picked shows in the inventory alone.  The standby is the only
card that reports itself secondary, and a line card that is pinned by a port bears
the name that the port tells.
-/

namespace CardReboot

namespace Inventory

/-- Every card of an inventory that was read has the type it was read for. -/
theorem IsReadIn.ofType_eq
    {inventory : Inventory} {type : ComponentType} {transcript : Transcript bench}
    (hread : inventory.IsReadIn type transcript) : inventory.ofType type = inventory := by
  obtain ⟨readings, -, rfl⟩ := hread
  unfold ofType
  apply List.filter_eq_self.mpr
  intro card hmem
  obtain ⟨reading, -, rfl⟩ := List.mem_map.mp hmem
  simp [ComponentDescriptor.ofState]

theorem withRole_eq_of_theOnly
    {inventory : Inventory} {role : RedundantRole} {card : ComponentDescriptor}
    (honly : inventory.theOnly role = .ok card) : inventory.withRole role = [card] := by
  unfold theOnly at honly
  split at honly
  · next found hfound =>
      cases honly
      exact hfound
  · cases honly
  · cases honly

/-- The standby of a pair is the only card of the inventory that is secondary. -/
theorem withRole_eq_of_selectControllers
    {inventory : Inventory} {expected : ExpectedCount} {pair : ControllerPair}
    (hselect : inventory.selectControllers expected = .ok (.selected pair)) :
    (inventory.ofType .controllerCard).withRole .secondary = [pair.standby] := by
  unfold selectControllers at hselect
  obtain ⟨_, -, hcounted⟩ := exists_of_bind_eq_ok hselect
  by_cases hfew : (inventory.ofType .controllerCard).length < 2
  · rw [if_pos hfew] at hcounted
    cases hcounted
  · rw [if_neg hfew] at hcounted
    obtain ⟨standby, hstandby, hactive⟩ := exists_of_bind_eq_ok hcounted
    obtain ⟨active, -, hpair⟩ := exists_of_bind_eq_ok hactive
    cases hpair
    exact withRole_eq_of_theOnly hstandby

theorem mem_removable_of_pickRemovable
    {candidates : Inventory} {type : ComponentType} {expected : ExpectedCount}
    {pinned : Option String} {card : ComponentDescriptor}
    (hpick : candidates.pickRemovable type expected pinned = .ok (.selected card)) :
    card ∈ candidates.removable pinned := by
  unfold pickRemovable at hpick
  cases hfound : candidates.removable pinned with
  | nil =>
      simp only [hfound] at hpick
      by_cases hexpected : expected.isPositive = true
      · rw [if_pos hexpected] at hpick
        cases hpick
      · rw [if_neg hexpected] at hpick
        cases hpick
  | cons first rest =>
      simp only [hfound] at hpick
      cases hpick
      exact List.mem_cons_self

theorem mem_removable_of_selectLinecard
    {inventory : Inventory} {expected : ExpectedCount} {pinned : Option String}
    {card : ComponentDescriptor}
    (hselect : inventory.selectLinecard expected pinned = .ok (.selected card)) :
    card ∈ (inventory.presentLinecards expected).removable pinned := by
  unfold selectLinecard at hselect
  obtain ⟨_, -, hcounted⟩ := exists_of_bind_eq_ok hselect
  by_cases hempty : (inventory.presentLinecards expected).isEmpty = true
  · rw [if_pos hempty] at hcounted
    cases hcounted
  · rw [if_neg hempty] at hcounted
    exact mem_removable_of_pickRemovable hcounted

theorem name_eq_of_selectLinecard
    {inventory : Inventory} {expected : ExpectedCount} {name : String}
    {card : ComponentDescriptor}
    (hselect : inventory.selectLinecard expected (some name) = .ok (.selected card)) :
    card.name = name := by
  have hmem := mem_removable_of_selectLinecard hselect
  have hpicked := (List.mem_filter.mp hmem).2
  simp only [Bool.and_eq_true, beq_iff_eq] at hpicked
  exact hpicked.1

end Inventory

end CardReboot
