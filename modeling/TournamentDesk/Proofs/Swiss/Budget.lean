import TournamentDesk.Proofs.Swiss.Backtracking
import TournamentDesk.Proofs.Swiss.Progress

/-!
# A budget only limits

A search that is decided with some budget goes the same way with more of it: it tries the same opponents,
ends with the same tables or without any, and leaves as much more as it was given more. Only a search that
stopped for want of budget may come to something else. A search in which rematches are allowed tries one
opponent for each table, whatever the field.

* `OnlyLimits`: more budget changes nothing about what is decided.
* `tryOpponents_onlyLimits`, `pairWithin_onlyLimits`: the searches for one player and for a field do so.
* `budget_only_limits`: what the budget of a search can and cannot change.
-/

namespace TournamentDesk
namespace Swiss

/-- More budget changes nothing about a decided outcome, and is left over. -/
def OnlyLimits (search : Nat → Outcome) : Prop :=
  ∀ budget extra, (search budget).Decided →
    search (budget + extra) = ⟨(search budget).tables, (search budget).left + extra⟩

theorem tryOpponents_onlyLimits
    (mayMeet : Rule)
    {pair : List PlayerId → Nat → Outcome}
    (hpair : ∀ field, OnlyLimits (pair field))
    (first : PlayerId)
    (passed opponents : List PlayerId) :
    OnlyLimits (tryOpponents mayMeet pair first passed opponents) := by
  induction opponents generalizing passed with
  | nil => exact fun _ _ _ => rfl
  | cons b rest ih =>
      intro budget extra hdecided
      have htrial := tryOpponents_trial mayMeet pair first passed b rest budget
      generalize tryOpponents mayMeet pair first passed (b :: rest) budget = out
        at hdecided htrial ⊢
      cases htrial with
      | barred hb =>
          rw [(Trial.barred hb).eq]
          exact ih (b :: passed) budget extra hdecided
      | spent => exact absurd hdecided Outcome.not_decided_spent
      | @seated given left others hb htried =>
          have hothers := hpair (passed.reverse ++ rest) given extra
          rw [htried] at hothers
          have hmore := hothers (.inl (Option.some_ne_none others))
          rw [Nat.add_right_comm]
          exact (Trial.seated hb hmore).eq
      | @failed given left hb htried =>
          -- the others were given up with budget left, since the search went on to something decided
          have hothers := hpair (passed.reverse ++ rest) given extra
          rw [htried] at hothers
          have hmore := hothers (.inr (tryOpponents_decided_pos hdecided))
          rw [Nat.add_right_comm, (Trial.failed hb hmore).eq]
          exact ih (b :: passed) left extra hdecided

theorem pairWithin_onlyLimits
    (mayMeet : Rule)
    (prune : Bool)
    (size : Nat)
    (field : List PlayerId) :
    OnlyLimits (pairWithin mayMeet prune size field) := by
  induction size generalizing field with
  | zero => cases field <;> exact fun _ _ _ => rfl
  | succ size ih =>
      cases field with
      | nil => exact fun _ _ _ => rfl
      | cons first rest =>
          intro budget extra
          rw [pairWithin, pairWithin]
          split
          · exact fun _ => rfl
          · exact tryOpponents_onlyLimits mayMeet ih first [] rest budget extra

/-- What the budget of a search can change, for any field and whoever has met. A search never leaves more than
it was given. If it found tables, or found none and has budget left, then with more budget it finds the same
and spends the same. With rematches neighbours meet if the budget has one unit for each table, and all of these
are spent; with less there are no tables. -/
theorem budget_only_limits
    (met : Std.HashSet (PlayerId × PlayerId))
    (allowRematch : Bool)
    (field : List PlayerId)
    {budget more : Nat}
    (hmore : budget ≤ more) :
    let search := pairUp (metIn met) allowRematch field
    (search budget).left ≤ budget ∧
      ((search budget).tables ≠ none ∨ 0 < (search budget).left →
        (search more).tables = (search budget).tables ∧
          more - (search more).left = budget - (search budget).left) ∧
      (allowRematch = true → ∀ m, field.length = 2 * m →
        (m ≤ budget → (search budget).tables = some (adjacent field) ∧
          budget - (search budget).left = m) ∧
          (budget < m → (search budget).tables = none)) := by
  intro search
  have hleft : (search budget).left ≤ budget := pairUp_left_le _ _ _ _
  refine ⟨hleft, ?_, ?_⟩
  · intro hdecided
    obtain ⟨extra, rfl⟩ := Nat.exists_eq_add_of_le hmore
    have hsame : search (budget + extra) = ⟨(search budget).tables, (search budget).left + extra⟩ :=
      pairWithin_onlyLimits _ _ _ field budget extra hdecided
    rw [hsame]
    exact ⟨rfl, Nat.add_sub_add_right _ _ _⟩
  · rintro rfl m hlength
    have heven : field.length % 2 = 0 := by omega
    have hcount : field.length / 2 = m := by omega
    have hpaired : search budget =
        if field.length ≤ 2 * budget then ⟨some (adjacent field), budget - field.length / 2⟩
        else ⟨none, 0⟩ := by
      refine pairUp_all (fun _ _ => rfl) ?_ heven budget
      intro hrematch
      cases hrematch
    rw [hpaired, hcount]
    constructor
    · intro henough
      rw [if_pos (by omega)]
      exact ⟨rfl, Nat.sub_sub_self henough⟩
    · intro hshort
      rw [if_neg (by omega)]

/-- Without rematches the four players need three tries, one of them in vain, also with a budget of ten. With
rematches they need two. -/
theorem budget_only_limits_threeAndFour :
    let four : List PlayerId := [1, 2, 3, 4]
    let search := pairUp (metIn threeAndFour) false four
    let again := pairUp (metIn threeAndFour) true four
    search 2 = ⟨none, 0⟩ ∧
      3 ≤ 10 ∧
      search 3 = ⟨some [.fresh 1 3, .fresh 2 4], 0⟩ ∧
      (search 10).tables = some [.fresh 1 3, .fresh 2 4] ∧
      10 - (search 10).left = 3 ∧
      four.length = 2 * 2 ∧
      (again 3).tables = some [.fresh 1 2, .fresh 3 4] ∧
      3 - (again 3).left = 2 ∧
      (again 1).tables = none := by
  intro four search again
  have hspent : search 2 = ⟨none, 0⟩ := by
    simp only [search, threeAndFour, metIn_ofList]
    rfl
  have hfound : search 3 = ⟨some [.fresh 1 3, .fresh 2 4], 0⟩ := by
    simp only [search, threeAndFour, metIn_ofList]
    rfl
  have hseated : (search 3).tables ≠ none := by
    rw [hfound]
    exact Option.some_ne_none _
  have hmore : 3 ≤ 10 := by decide
  obtain ⟨-, hsame, -⟩ := budget_only_limits threeAndFour false four hmore
  obtain ⟨htables, hcost⟩ := hsame (.inl hseated)
  obtain ⟨-, -, hpaired⟩ := budget_only_limits threeAndFour true four hmore
  obtain ⟨hneighbours, hunits⟩ := (hpaired rfl 2 rfl).1 (by decide)
  have hfew : 1 ≤ 10 := by decide
  obtain ⟨-, -, hunpaired⟩ := budget_only_limits threeAndFour true four hfew
  refine ⟨hspent, hmore, hfound, htables.trans ?_, hcost.trans ?_, rfl, hneighbours, hunits,
    (hunpaired rfl 2 rfl).2 (by decide)⟩
  · exact congrArg Outcome.tables hfound
  · exact congrArg (3 - ·.left) hfound

end Swiss
end TournamentDesk
