import TournamentDesk.Proofs.Swiss.Seating

/-!
# What a search spends

A search spends one unit of its budget on each opponent it tries, and without a budget it finds nobody to
seat. Its outcome is decided when it found tables or has budget left; otherwise there may be tables that it
had no budget to look for. How much it can spend depends on the size of the field alone.

* `pairUp_left_le`, `pairWithBye_left_le`: no search leaves more than it was given.
* `pairUp_spent`, `pairWithBye_spent`: without a budget nothing is found.
* `pairUp_spends`, `pairWithBye_spends`: the most that a search spends.
-/

namespace TournamentDesk
namespace Swiss

/-! ## Budgets only shrink -/

theorem tryOpponents_left_le
    (mayMeet : Rule)
    {pair : List PlayerId → Nat → Outcome}
    (hpair : ∀ field budget, (pair field budget).left ≤ budget)
    (first : PlayerId)
    (passed opponents : List PlayerId)
    (budget : Nat) :
    (tryOpponents mayMeet pair first passed opponents budget).left ≤ budget := by
  induction opponents generalizing passed budget with
  | nil => exact Nat.le_refl _
  | cons b rest ih =>
      have htrial := tryOpponents_trial mayMeet pair first passed b rest budget
      generalize tryOpponents mayMeet pair first passed (b :: rest) budget = out at htrial ⊢
      cases htrial with
      | barred => exact ih (b :: passed) budget
      | spent => exact Nat.le_refl _
      | @seated given left others _ htried =>
          have hleft := hpair (passed.reverse ++ rest) given
          rw [htried] at hleft
          exact Nat.le_succ_of_le hleft
      | @failed given left _ htried =>
          have hleft := hpair (passed.reverse ++ rest) given
          rw [htried] at hleft
          exact Nat.le_trans (ih (b :: passed) left) (Nat.le_succ_of_le hleft)

theorem pairWithin_left_le
    (mayMeet : Rule)
    (prune : Bool)
    (size : Nat)
    (field : List PlayerId)
    (budget : Nat) :
    (pairWithin mayMeet prune size field budget).left ≤ budget := by
  induction size generalizing field budget with
  | zero => cases field <;> exact Nat.le_refl _
  | succ size ih =>
      cases field with
      | nil => exact Nat.le_refl _
      | cons first rest =>
          rw [pairWithin]
          split
          · exact Nat.le_refl _
          · exact tryOpponents_left_le mayMeet ih first [] rest budget

theorem pairUp_left_le
    (haveMet : Rule)
    (allowRematch : Bool)
    (field : List PlayerId)
    (budget : Nat) :
    (pairUp haveMet allowRematch field budget).left ≤ budget :=
  pairWithin_left_le _ _ _ _ _

theorem pairWithBye_left_le
    (haveMet : Rule)
    (allowRematch : Bool)
    (field byes : List PlayerId)
    (budget : Nat) :
    (pairWithBye haveMet allowRematch field byes budget).left ≤ budget := by
  induction byes generalizing budget with
  | nil => exact Nat.le_refl _
  | cons bye others ih =>
      have htried := pairUp_left_le haveMet allowRematch (field.filter fun id => id ≠ bye) budget
      unfold pairWithBye
      split
      · next tables left hfound =>
        rw [hfound] at htried
        exact htried
      · next left hnone =>
        rw [hnone] at htried
        exact Nat.le_trans (ih left) htried

/-! ## Without a budget -/

/-- Without a budget nobody is tried. -/
theorem tryOpponents_spent
    (mayMeet : Rule)
    (pair : List PlayerId → Nat → Outcome)
    (first : PlayerId)
    (passed opponents : List PlayerId) :
    tryOpponents mayMeet pair first passed opponents 0 = ⟨none, 0⟩ := by
  induction opponents generalizing passed with
  | nil => rfl
  | cons b rest ih =>
      cases hb : mayMeet first b with
      | false => rw [(Trial.barred hb).eq, ih (b :: passed)]
      | true => exact (Trial.spent hb).eq

theorem pairWithin_spent
    (mayMeet : Rule)
    (prune : Bool)
    (size : Nat)
    {field : List PlayerId}
    (hfield : field ≠ []) :
    pairWithin mayMeet prune size field 0 = ⟨none, 0⟩ := by
  cases field with
  | nil => exact absurd rfl hfield
  | cons first rest =>
      cases size with
      | zero => rfl
      | succ size =>
          rw [pairWithin]
          split
          · rfl
          · exact tryOpponents_spent _ _ _ _ _

theorem pairUp_spent
    (haveMet : Rule)
    (allowRematch : Bool)
    {field : List PlayerId}
    (hfield : field ≠ []) :
    pairUp haveMet allowRematch field 0 = ⟨none, 0⟩ :=
  pairWithin_spent _ _ _ hfield

/-- Without a budget nobody has the bye, unless nobody else is left. -/
theorem pairWithBye_spent
    (haveMet : Rule)
    (allowRematch : Bool)
    {field byes : List PlayerId}
    (hothers : ∀ bye ∈ byes, field.filter (fun id => id ≠ bye) ≠ []) :
    pairWithBye haveMet allowRematch field byes 0 = ⟨none, 0⟩ := by
  induction byes with
  | nil => rfl
  | cons bye others ih =>
      unfold pairWithBye
      rw [pairUp_spent haveMet allowRematch (hothers bye List.mem_cons_self)]
      exact ih fun other hother => hothers other (List.mem_cons_of_mem _ hother)

/-! ## Decided outcomes -/

/-- An outcome that says something: there are tables, or budget is left. -/
def Outcome.Decided (out : Outcome) : Prop :=
  out.tables ≠ none ∨ 0 < out.left

theorem Outcome.not_decided_spent : ¬ (⟨none, 0⟩ : Outcome).Decided := by
  simp [Outcome.Decided]

/-- Only a budget leads to a decided outcome. -/
theorem tryOpponents_decided_pos
    {mayMeet : Rule}
    {pair : List PlayerId → Nat → Outcome}
    {first : PlayerId}
    {passed opponents : List PlayerId}
    {budget : Nat}
    (h : (tryOpponents mayMeet pair first passed opponents budget).Decided) :
    0 < budget := by
  rw [Nat.pos_iff_ne_zero]
  rintro rfl
  rw [tryOpponents_spent] at h
  exact Outcome.not_decided_spent h

/-! ## What a search can spend -/

/-- The most opponents that are tried for a field of some size: each opponent of the first player, and
for each of them what is tried for two players less. -/
def mostTries : Nat → Nat
  | 0 => 0
  | 1 => 0
  | n + 2 => (n + 1) * (mostTries n + 1)

theorem tryOpponents_spends
    (mayMeet : Rule)
    {pair : List PlayerId → Nat → Outcome}
    {n cost : Nat}
    (hpair : ∀ field budget, field.length ≤ n → budget ≤ (pair field budget).left + cost)
    (first : PlayerId)
    {passed opponents : List PlayerId}
    (hlength : passed.length + opponents.length ≤ n + 1)
    (budget : Nat) :
    budget ≤ (tryOpponents mayMeet pair first passed opponents budget).left +
      opponents.length * (cost + 1) := by
  induction opponents generalizing passed budget with
  | nil => exact Nat.le_add_right _ _
  | cons b rest ih =>
      have hothers : (passed.reverse ++ rest).length ≤ n := by
        simp only [List.length_append, List.length_reverse, List.length_cons] at hlength ⊢
        omega
      have hnext : (b :: passed).length + rest.length ≤ n + 1 := by
        simp only [List.length_cons] at hlength ⊢
        omega
      have htrial := tryOpponents_trial mayMeet pair first passed b rest budget
      generalize tryOpponents mayMeet pair first passed (b :: rest) budget = out at htrial ⊢
      rw [List.length_cons, Nat.succ_mul]
      cases htrial with
      | barred =>
          have hlater := ih hnext budget
          omega
      | spent => exact Nat.zero_le _
      | @seated given left others _ htried =>
          have hleft := hpair (passed.reverse ++ rest) given hothers
          simp only [htried] at hleft ⊢
          omega
      | @failed given left _ htried =>
          have hleft := hpair (passed.reverse ++ rest) given hothers
          have hlater := ih hnext left
          simp only [htried] at hleft
          omega

theorem pairWithin_spends
    (mayMeet : Rule)
    (prune : Bool)
    (size : Nat)
    {n : Nat}
    {field : List PlayerId}
    (hlength : field.length ≤ n)
    (budget : Nat) :
    budget ≤ (pairWithin mayMeet prune size field budget).left + mostTries n := by
  induction size generalizing n field budget with
  | zero => cases field <;> exact Nat.le_add_right _ _
  | succ size ih =>
      cases field with
      | nil => exact Nat.le_add_right _ _
      | cons first rest =>
          rw [pairWithin]
          split
          · exact Nat.le_add_right _ _
          · rcases n with _ | _ | n
            · simp at hlength
            · obtain rfl : rest = [] := by simpa using hlength
              exact Nat.le_add_right _ _
            · have hrest : rest.length ≤ n + 1 := by simpa using hlength
              have hnobody : ([] : List PlayerId).length + rest.length ≤ n + 1 := by
                simpa using hrest
              have hspent := tryOpponents_spends mayMeet (fun _ budget hfield => ih hfield budget)
                first hnobody budget
              exact Nat.le_trans hspent (Nat.add_le_add_left (Nat.mul_le_mul_right _ hrest) _)

theorem pairUp_spends
    (haveMet : Rule)
    (allowRematch : Bool)
    {n : Nat}
    {field : List PlayerId}
    (hlength : field.length ≤ n)
    (budget : Nat) :
    budget ≤ (pairUp haveMet allowRematch field budget).left + mostTries n :=
  pairWithin_spends _ _ _ hlength budget

theorem pairWithBye_spends
    (haveMet : Rule)
    (allowRematch : Bool)
    {n : Nat}
    {field byes : List PlayerId}
    (hlength : ∀ bye ∈ byes, (field.filter fun id => id ≠ bye).length ≤ n)
    (budget : Nat) :
    budget ≤ (pairWithBye haveMet allowRematch field byes budget).left +
      byes.length * mostTries n := by
  induction byes generalizing budget with
  | nil => exact Nat.le_add_right _ _
  | cons bye others ih =>
      have htried := pairUp_spends haveMet allowRematch (hlength bye List.mem_cons_self) budget
      rw [List.length_cons, Nat.succ_mul]
      unfold pairWithBye
      split
      · next tables left hfound =>
        rw [hfound] at htried
        simp only at htried ⊢
        omega
      · next left hnone =>
        rw [hnone] at htried
        have hlater := ih (fun bye hbye => hlength bye (List.mem_cons_of_mem _ hbye)) left
        simp only at htried
        omega

end Swiss
end TournamentDesk
