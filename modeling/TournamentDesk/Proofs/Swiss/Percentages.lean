import TournamentDesk.Proofs.Decimal.Fractions
import TournamentDesk.Swiss.Standings

/-!
# Percentages

Counts are small enough for doubles to add and multiply them exactly, and nobody has more points than
the matches give. So every percentage of the standings is a double between zero and one, also the mean
of any number of percentages.

* `Tally.of_sound`: counts of a tally fit a record, and the points fit the matches.
* `Tally.matchPct_fraction`, `Tally.gamePct_fraction`, `mean_fraction`: the three percentages.
-/

namespace TournamentDesk
namespace Swiss

open Decimal (Fraction HasValue OnGrid)

/-! ## Tallies -/

/-- Counts that fit a record, and points that fit the matches. -/
structure Tally.Sound (t : Tally) : Prop where
  /-- A match gives three points at most. -/
  points : t.points ≤ 3 * t.played
  /-- No count is greater than a record holds. -/
  counts : ∀ n ∈ [t.points, t.wins, t.losses, t.draws, t.gameWins, t.gameLosses, t.gameDraws, t.played],
    n ≤ maxCount

theorem addCount_le (a b : Nat) : addCount a b ≤ maxCount :=
  Nat.min_le_right _ _

theorem Tally.zero_sound : Tally.zero.Sound :=
  ⟨by decide, by decide⟩

theorem Tally.addScore_sound
    {t : Tally}
    (h : t.Sound)
    (s : Score) :
    (t.addScore s).Sound := by
  have hscore : s.points ≤ 3 := by
    unfold Score.points
    split
    · exact Nat.le_refl 3
    · split <;> decide
  constructor
  · have hpoints := h.points
    change addCount t.points s.points ≤ 3 * addCount t.played 1
    unfold addCount
    omega
  · simp only [Tally.addScore, List.mem_cons, List.not_mem_nil, or_false]
    rintro n (rfl | rfl | rfl | rfl | rfl | rfl | rfl | rfl) <;> exact addCount_le _ _

theorem Tally.addTable_sound
    {t : Tally}
    (h : t.Sound)
    (id : PlayerId)
    (table : Table) :
    (t.addTable id table).Sound := by
  unfold Tally.addTable
  refine List.foldlRecOn table.seats _ h ?_
  intro t ht seat _
  split
  · split
    · next score _ _ _ =>
      have hadded := Tally.addScore_sound ht score
      simp only
      split
      · exact hadded
      · exact ⟨hadded.points, hadded.counts⟩
    · exact ht
  · exact ht

theorem Tally.of_sound
    (tables : List Table)
    (id : PlayerId) :
    (Tally.of tables id).Sound := by
  unfold Tally.of
  refine List.foldlRecOn tables _ Tally.zero_sound ?_
  intro t ht table _
  exact Tally.addTable_sound ht id table

/-! ## The percentages of a tally -/

theorem minPct_fraction : Fraction minPct :=
  Decimal.hasValue_one.div_nat Decimal.hasValue_three (by decide) (by decide)

theorem larger_fraction
    {x y : Float}
    (hx : Fraction x)
    (hy : Fraction y) :
    Fraction (larger x y) := by
  unfold larger
  split
  · exact hy
  · exact hx

theorem Tally.matchPct_fraction
    {t : Tally}
    (h : t.Sound) :
    Fraction t.matchPct := by
  have hplayed : t.played ≤ maxCount := h.counts _ (by simp)
  have hpoints := h.points
  unfold maxCount at hplayed
  unfold Tally.matchPct
  split
  · exact Decimal.fraction_zero
  · next hne =>
    refine larger_fraction ?_ minPct_fraction
    have hpointsValue := Decimal.hasValue_ofNat (n := t.points) (by omega)
    have hplayedValue := Decimal.hasValue_ofNat (n := t.played) (by omega)
    exact hpointsValue.div_nat (Decimal.hasValue_three.mul_nat hplayedValue (by omega)) (by omega) hpoints

theorem Tally.gamePct_fraction
    {t : Tally}
    (h : t.Sound) :
    Fraction t.gamePct := by
  have hwins : t.gameWins ≤ maxCount := h.counts _ (by simp)
  have hlosses : t.gameLosses ≤ maxCount := h.counts _ (by simp)
  have hdraws : t.gameDraws ≤ maxCount := h.counts _ (by simp)
  unfold maxCount at hwins hlosses hdraws
  have hwinsValue := Decimal.hasValue_ofNat (n := t.gameWins) (by omega)
  have hlossesValue := Decimal.hasValue_ofNat (n := t.gameLosses) (by omega)
  have hdrawsValue := Decimal.hasValue_ofNat (n := t.gameDraws) (by omega)
  have hgames := (hwinsValue.add_nat hlossesValue (by omega)).add_nat hdrawsValue (by omega)
  have hgained := (Decimal.hasValue_three.mul_nat hwinsValue (by omega)).add_nat
    (Decimal.hasValue_one.mul_nat hdrawsValue (by omega)) (by omega)
  unfold Tally.gamePct
  simp only
  split
  · exact Decimal.fraction_zero
  · next hne =>
    have hne : t.gameWins + t.gameLosses + t.gameDraws ≠ 0 := by
      intro hzero
      exact hne (hgames.beq_zero.2 (by rw [hzero, Nat.cast_zero]))
    refine larger_fraction ?_ minPct_fraction
    exact hgained.div_nat (Decimal.hasValue_three.mul_nat hgames (by omega)) (by omega) (by omega)

/-! ## Means -/

/-- A partial sum of fractions: at most their number, and at most the number from which on nothing is
added any more. -/
def SumBound (n : Nat) (s : Float) : Prop :=
  ∃ a, HasValue s a ∧ a ≤ n ∧ a ≤ 2 ^ 53

theorem SumBound.add
    {n : Nat}
    {s x : Float}
    (hs : SumBound n s)
    (hx : Fraction x) :
    SumBound (n + 1) (s + x) := by
  obtain ⟨a, ha, han, ha53⟩ := hs
  obtain ⟨c, hc, hone⟩ := hx
  have hlimit : a + c ≤ 2 ^ 53 + 1 := add_le_add ha53 hone
  have hgreatest : a + c ≤ Decimal.greatest :=
    Decimal.le_greatest_of_le (hlimit.trans (by norm_num))
  obtain ⟨w, hw, hrounds⟩ := (Decimal.computes_add ha hc).value hgreatest
  have hw53 := hrounds.saturates hlimit
  refine ⟨w, hw, ?_, hw53⟩
  by_cases hsmall : n + 1 ≤ 2 ^ 53
  · refine hrounds.le _ (Decimal.onGrid_nat hsmall) ?_
    push_cast
    exact add_le_add han hone
  · have hlarge : 2 ^ 53 ≤ n + 1 := by omega
    have hlarge : (2 : ℚ) ^ 53 ≤ (n + 1 : Nat) := by exact_mod_cast hlarge
    exact hw53.trans hlarge

theorem foldl_sumBound
    {xs : List Float}
    (hxs : ∀ x ∈ xs, Fraction x)
    {n : Nat}
    {s : Float}
    (hs : SumBound n s) :
    SumBound (n + xs.length) (xs.foldl (· + ·) s) := by
  induction xs generalizing n s with
  | nil => exact hs
  | cons x xs ih =>
      have ih := ih (fun y hy => hxs y (List.mem_cons_of_mem _ hy)) (hs.add (hxs x List.mem_cons_self))
      rw [List.foldl_cons, List.length_cons]
      rwa [Nat.add_assoc, Nat.add_comm 1] at ih

/-- A sum of fractions divided by their number, also when that is too large for a double. -/
theorem SumBound.div
    {n : Nat}
    (hn : n ≠ 0)
    {s : Float}
    (hs : SumBound n s) :
    Fraction (s / Float.ofNat n) := by
  obtain ⟨a, ha, han, ha53⟩ := hs
  rcases Decimal.computes_ofNat n with ⟨b, hb, hrounds⟩ | ⟨hinfinite, -⟩
  · have hgrid : OnGrid (min n (2 ^ 53) : Nat) := Decimal.onGrid_nat (Nat.min_le_right _ _)
    have hle : ((min n (2 ^ 53) : Nat) : ℚ) ≤ n := by exact_mod_cast Nat.min_le_left n (2 ^ 53)
    have hb_low := hrounds.ge _ hgrid hle
    have hpos : (1 : ℚ) ≤ (min n (2 ^ 53) : Nat) := by
      have hmin : 1 ≤ min n (2 ^ 53) := by omega
      exact_mod_cast hmin
    refine ha.div_fraction hb (by linarith) (le_trans ?_ hb_low)
    push_cast
    exact le_min han ha53
  · exact ha.div_infinity hinfinite

theorem mean_fraction
    {xs : List Float}
    (hxs : ∀ x ∈ xs, Fraction x) :
    Fraction (mean xs) := by
  unfold mean
  split
  · exact Decimal.fraction_zero
  · next hne =>
    have hempty : SumBound 0 0.0 := ⟨0, Decimal.hasValue_zero, by simp, by norm_num⟩
    have hsum := foldl_sumBound hxs hempty
    rw [Nat.zero_add] at hsum
    refine hsum.div ?_
    intro hlength
    exact hne (by rw [List.length_eq_zero_iff.1 hlength]; rfl)

end Swiss
end TournamentDesk
