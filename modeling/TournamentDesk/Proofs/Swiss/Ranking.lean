import Mathlib.Data.String.Basic
import TournamentDesk.Proofs.Swiss.NewRound
import TournamentDesk.Proofs.Swiss.Tallies

/-!
# The ranking

Rows are compared by five keys, one after the other, and by the next one only if all before it are the same.
The last key is the name, and no two players have the same one; so in a tournament that verbs can make two
rows never agree in all keys, and there is only one order in which the rows can stand.

* `TotalBefore`, `orderKey_lt_iff`: the total order on doubles.
* `Standing.Ahead`, `Standing.Level`, `Standing.order_eq_lt_iff`: what it means for a row to come before another one.
* `exists_stable_places`: what a stable sort does.
* `rows_ranked`: how the rows of the standings stand.
-/

namespace TournamentDesk
namespace Swiss

/-! ## The total order on doubles -/

/-- Whether a double carries a minus sign. -/
def IsNegative (x : Float) : Prop :=
  signBit ≤ x.toBits.toNat

/-- The bits of a double without its sign. They grow with the absolute value. -/
def magnitude (x : Float) : Nat :=
  x.toBits.toNat % signBit

/-- The total order on doubles: those with a minus sign first, the largest of them foremost, and then the
others, the smallest of them foremost. -/
inductive TotalBefore (x y : Float) : Prop
  | opposite :
      IsNegative x →
      ¬ IsNegative y →
      TotalBefore x y
  | negative :
      IsNegative x →
      IsNegative y →
      magnitude y < magnitude x →
      TotalBefore x y
  | positive :
      ¬ IsNegative x →
      ¬ IsNegative y →
      magnitude x < magnitude y →
      TotalBefore x y

/-- What a key is made of. -/
theorem orderKey_eq (x : Float) :
    IsNegative x ∧ orderKey x = -1 - magnitude x ∨ ¬ IsNegative x ∧ orderKey x = magnitude x := by
  have hlt := x.toBits.toNat_lt
  unfold IsNegative orderKey magnitude signBit
  simp only
  split
  · right
    omega
  · left
    omega

theorem orderKey_lt_iff (x y : Float) : orderKey x < orderKey y ↔ TotalBefore x y := by
  rcases orderKey_eq x with ⟨hx, hkeyx⟩ | ⟨hx, hkeyx⟩ <;>
    rcases orderKey_eq y with ⟨hy, hkeyy⟩ | ⟨hy, hkeyy⟩ <;> rw [hkeyx, hkeyy]
  · constructor
    · intro h
      exact .negative hx hy (by omega)
    · rintro (⟨-, hy'⟩ | ⟨-, -, h⟩ | ⟨hx', -, -⟩)
      · exact absurd hy hy'
      · omega
      · exact absurd hx hx'
  · exact iff_of_true (by omega) (.opposite hx hy)
  · refine iff_of_false (by omega) ?_
    rintro (⟨hx', -⟩ | ⟨hx', -, -⟩ | ⟨-, hy', -⟩)
    · exact hx hx'
    · exact hx hx'
    · exact hy' hy
  · constructor
    · intro h
      exact .positive hx hy (by omega)
    · rintro (⟨hx', -⟩ | ⟨hx', -, -⟩ | ⟨-, -, h⟩)
      · exact absurd hx' hx
      · exact absurd hx' hx
      · omega

/-- Only the same bits have the same key. -/
theorem orderKey_eq_iff (x y : Float) : orderKey x = orderKey y ↔ x.toBits = y.toBits := by
  have hx := x.toBits.toNat_lt
  have hy := y.toBits.toNat_lt
  rw [← UInt64.toNat_inj]
  unfold orderKey signBit
  simp only
  split <;> split <;> omega

/-! ## Rows -/

/-- A row comes before another one: by points, most first, then by the percentage of the opponents' matches, of
the own games and of the opponents' games, highest first, and last by name. -/
inductive Standing.Ahead (a b : Standing) : Prop
  | points :
      b.points < a.points →
      Ahead a b
  | opponentMatchPct :
      a.points = b.points →
      TotalBefore b.opponentMatchPct a.opponentMatchPct →
      Ahead a b
  | gamePct :
      a.points = b.points →
      a.opponentMatchPct.toBits = b.opponentMatchPct.toBits →
      TotalBefore b.gamePct a.gamePct →
      Ahead a b
  | opponentGamePct :
      a.points = b.points →
      a.opponentMatchPct.toBits = b.opponentMatchPct.toBits →
      a.gamePct.toBits = b.gamePct.toBits →
      TotalBefore b.opponentGamePct a.opponentGamePct →
      Ahead a b
  | name :
      a.points = b.points →
      a.opponentMatchPct.toBits = b.opponentMatchPct.toBits →
      a.gamePct.toBits = b.gamePct.toBits →
      a.opponentGamePct.toBits = b.opponentGamePct.toBits →
      a.name < b.name →
      Ahead a b

/-- Two rows agree in all five keys. -/
structure Standing.Level (a b : Standing) : Prop where
  points : a.points = b.points
  opponentMatchPct : a.opponentMatchPct.toBits = b.opponentMatchPct.toBits
  gamePct : a.gamePct.toBits = b.gamePct.toBits
  opponentGamePct : a.opponentGamePct.toBits = b.opponentGamePct.toBits
  name : a.name = b.name

theorem Standing.Level.symm
    {a b : Standing}
    (h : a.Level b) :
    b.Level a :=
  ⟨h.points.symm, h.opponentMatchPct.symm, h.gamePct.symm, h.opponentGamePct.symm, h.name.symm⟩

theorem Standing.order_eq_lt_iff (a b : Standing) : a.order b = .lt ↔ a.Ahead b := by
  simp only [Standing.order, Ordering.then_eq_lt, compare_lt_iff_lt, compare_eq_iff_eq, orderKey_lt_iff,
    orderKey_eq_iff, eq_comm (a := b.points), eq_comm (a := b.opponentMatchPct.toBits),
    eq_comm (a := b.gamePct.toBits), eq_comm (a := b.opponentGamePct.toBits)]
  constructor
  · rintro (h | ⟨hpoints, h | ⟨hmatch, h | ⟨hgame, h | ⟨hopponents, h⟩⟩⟩⟩)
    · exact .points h
    · exact .opponentMatchPct hpoints h
    · exact .gamePct hpoints hmatch h
    · exact .opponentGamePct hpoints hmatch hgame h
    · exact .name hpoints hmatch hgame hopponents h
  · rintro (h | ⟨hpoints, h⟩ | ⟨hpoints, hmatch, h⟩ | ⟨hpoints, hmatch, hgame, h⟩ |
      ⟨hpoints, hmatch, hgame, hopponents, h⟩)
    · exact .inl h
    · exact .inr ⟨hpoints, .inl h⟩
    · exact .inr ⟨hpoints, .inr ⟨hmatch, .inl h⟩⟩
    · exact .inr ⟨hpoints, .inr ⟨hmatch, .inr ⟨hgame, .inl h⟩⟩⟩
    · exact .inr ⟨hpoints, .inr ⟨hmatch, .inr ⟨hgame, .inr ⟨hopponents, h⟩⟩⟩⟩

theorem Standing.order_eq_eq_iff (a b : Standing) : a.order b = .eq ↔ a.Level b := by
  simp only [Standing.order, Ordering.then_eq_eq, compare_eq_iff_eq, orderKey_eq_iff,
    eq_comm (a := b.points), eq_comm (a := b.opponentMatchPct.toBits), eq_comm (a := b.gamePct.toBits),
    eq_comm (a := b.opponentGamePct.toBits)]
  constructor
  · rintro ⟨hpoints, hmatch, hgame, hopponents, hname⟩
    exact ⟨hpoints, hmatch, hgame, hopponents, hname⟩
  · rintro ⟨hpoints, hmatch, hgame, hopponents, hname⟩
    exact ⟨hpoints, hmatch, hgame, hopponents, hname⟩

/-- The order of rows is five orders, one after the other. -/
theorem Standing.order_eq_compareLex :
    Standing.order =
      compareLex (fun a b => compareOn Standing.points b a)
        (compareLex (fun a b => compareOn (fun s => orderKey s.opponentMatchPct) b a)
          (compareLex (fun a b => compareOn (fun s => orderKey s.gamePct) b a)
            (compareLex (fun a b => compareOn (fun s => orderKey s.opponentGamePct) b a)
              (compareOn Standing.name)))) := by
  funext a b
  rfl

instance : Std.TransCmp Standing.order := by
  rw [Standing.order_eq_compareLex]
  infer_instance

theorem Standing.order_ne_gt_iff (a b : Standing) :
    (a.order b != .gt) = true ↔ a.Ahead b ∨ a.Level b := by
  rw [← order_eq_lt_iff, ← order_eq_eq_iff]
  cases a.order b <;> simp

theorem Standing.order_ne_gt_trans
    (a b c : Standing)
    (hab : (a.order b != .gt) = true)
    (hbc : (b.order c != .gt) = true) :
    (a.order c != .gt) = true := by
  have hisLE (o : Ordering) : (o != .gt) = true ↔ o.isLE = true :=
    bne_iff_ne.trans Ordering.ne_gt_iff_isLE
  exact (hisLE _).2 (Std.TransCmp.isLE_trans ((hisLE _).1 hab) ((hisLE _).1 hbc))

theorem Standing.order_ne_gt_total (a b : Standing) :
    ((a.order b != .gt) || (b.order a != .gt)) = true := by
  have hswap : b.order a = (a.order b).swap := Std.OrientedCmp.eq_swap
  rw [hswap]
  cases a.order b <;> rfl

/-! ## Stable sorting -/

/-- A stable sort arranges the elements with their positions. Of two elements that agree, the one that stood
first stands first still. -/
theorem exists_stable_places
    {α : Type}
    (le : α → α → Bool)
    (htrans : ∀ a b c, le a b = true → le b c = true → le a c = true)
    (htotal : ∀ a b, (le a b || le b a) = true)
    (l : List α) :
    ∃ places : List (α × Nat),
      places.Perm l.zipIdx ∧
        places.map Prod.fst = l.mergeSort le ∧
        places.Pairwise fun a b => le a.1 b.1 = true ∧ (le b.1 a.1 = true → a.2 < b.2) := by
  have hperm := List.mergeSort_perm l.zipIdx (List.zipIdxLE le)
  refine ⟨_, hperm, List.mergeSort_zipIdx, ?_⟩
  have hsorted := List.pairwise_mergeSort (List.zipIdxLE_trans htrans) (List.zipIdxLE_total htotal) l.zipIdx
  have hdistinct : ((l.zipIdx.mergeSort (List.zipIdxLE le)).map Prod.snd).Nodup := by
    rw [(hperm.map Prod.snd).nodup_iff, List.zipIdx_map_snd]
    exact List.nodup_range'
  refine (hsorted.and (List.pairwise_map.1 hdistinct)).imp ?_
  rintro a b ⟨hle, hne⟩
  unfold List.zipIdxLE at hle
  split at hle
  · next hab =>
    refine ⟨hab, fun hba => ?_⟩
    rw [if_pos hba, decide_eq_true_eq] at hle
    exact Nat.lt_of_le_of_ne hle hne
  · cases hle

/-! ## The standings -/

/-- Roster entries, each with its position in the roster, stand in the order of the standings. The rows are
theirs and have the places from the first one on. Each row comes before all later ones, or agrees with them and
is that of an earlier entry. -/
structure Ranked (t : Tournament) (entries : List (Player × Nat)) : Prop where
  all : entries.Perm t.players.zipIdx
  rows : t.updateStandings.standings =
    entries.mapIdx fun k e => { Tournament.row t.tallies e.1 with rank := k + 1 }
  ordered : entries.Pairwise fun a b =>
    (Tournament.row t.tallies a.1).Ahead (Tournament.row t.tallies b.1) ∨
      (Tournament.row t.tallies a.1).Level (Tournament.row t.tallies b.1) ∧ a.2 < b.2

theorem exists_ranked (t : Tournament) : ∃ entries, Ranked t entries := by
  obtain ⟨entries, hperm, hsorted, hordered⟩ := exists_stable_places
    (fun p q => (Tournament.row t.tallies p).order (Tournament.row t.tallies q) != .gt)
    (fun _ _ _ => Standing.order_ne_gt_trans _ _ _) (fun _ _ => Standing.order_ne_gt_total _ _) t.players
  refine ⟨entries, hperm, ?_, hordered.imp ?_⟩
  · have hrows : (t.players.map (Tournament.row t.tallies)).mergeSort (fun a b => a.order b != .gt) =
        entries.map fun e => Tournament.row t.tallies e.1 :=
      calc (t.players.map (Tournament.row t.tallies)).mergeSort (fun a b => a.order b != .gt)
          = (entries.map Prod.fst).map (Tournament.row t.tallies) := by
            rw [hsorted]
            symm
            apply List.map_mergeSort
            intro p _ q _
            rfl
        _ = entries.map fun e => Tournament.row t.tallies e.1 := List.map_map
    rw [Tournament.updateStandings, Tournament.computeStandings, hrows, withRanks]
    exact List.ext_getElem (by simp) (by simp)
  · rintro a b ⟨hle, hstable⟩
    rcases (Standing.order_ne_gt_iff _ _).1 hle with hahead | hlevel
    · exact .inl hahead
    · refine .inr ⟨hlevel, hstable ?_⟩
      exact (Standing.order_ne_gt_iff _ _).2 (.inr hlevel.symm)

section Distinct

variable
  {t : Tournament}
  (hnames : t.names.Nodup)

include hnames

/-- Rows of different players never agree in all keys, since the last key is the name. -/
theorem eq_of_level
    {a b : Standing}
    (ha : a ∈ t.players.map (Tournament.row t.tallies))
    (hb : b ∈ t.players.map (Tournament.row t.tallies))
    (h : a.Level b) :
    a = b := by
  obtain ⟨p, hp, rfl⟩ := List.mem_map.1 ha
  obtain ⟨q, hq, rfl⟩ := List.mem_map.1 hb
  rw [List.inj_on_of_nodup_map hnames hp hq h.name]

/-- Rows in order are the rows of the standings. -/
theorem eq_standings_of_ordered
    {rows : List Standing}
    (hperm : rows.Perm (t.players.map (Tournament.row t.tallies)))
    (hordered : rows.Pairwise fun a b => a.Ahead b ∨ a.Level b) :
    withRanks rows = t.updateStandings.standings := by
  have hsorted := List.pairwise_mergeSort Standing.order_ne_gt_trans Standing.order_ne_gt_total
    (t.players.map (Tournament.row t.tallies))
  have hsame := List.mergeSort_perm (t.players.map (Tournament.row t.tallies))
    fun a b => a.order b != .gt
  refine congrArg withRanks (List.Perm.eq_of_pairwise ?_ ?_ hsorted (hperm.trans hsame.symm))
  · intro a b ha hb hab hba
    refine eq_of_level hnames (hperm.subset ha) (hsame.subset hb) ?_
    have hswap : b.order a = (a.order b).swap := Std.OrientedCmp.eq_swap
    rw [hswap] at hba
    rw [← Standing.order_eq_eq_iff]
    cases hcompare : a.order b <;> simp_all
  · exact hordered.imp (Standing.order_ne_gt_iff _ _).2

/-- Each row of the standings comes before all later ones. -/
theorem standings_pairwise_ahead :
    t.updateStandings.standings.Pairwise Standing.Ahead := by
  obtain ⟨entries, hall, hrows, hordered⟩ := exists_ranked t
  have hdistinct : (entries.map fun e => e.1.name).Nodup := by
    rw [(hall.map fun e => e.1.name).nodup_iff]
    have hplayers : t.names = t.players.zipIdx.map fun e => e.1.name := by
      rw [Tournament.names]
      conv_lhs => rw [← List.zipIdx_map_fst 0 t.players]
      rw [List.map_map]
      rfl
    rw [← hplayers]
    exact hnames
  have hahead := (hordered.and (List.pairwise_map.1 hdistinct)).imp
    (S := fun a b => (Tournament.row t.tallies a.1).order (Tournament.row t.tallies b.1) = .lt) ?_
  · rw [hrows, List.pairwise_iff_getElem]
    intro i j hi hj hij
    simp only [List.length_mapIdx] at hi hj
    rw [← Standing.order_eq_lt_iff, List.getElem_mapIdx, List.getElem_mapIdx]
    exact List.pairwise_iff_getElem.1 hahead i j hi hj hij
  · rintro a b ⟨hahead | ⟨hlevel, -⟩, hne⟩
    · exact (Standing.order_eq_lt_iff _ _).2 hahead
    · exact absurd hlevel.name hne

end Distinct

/-- The rows of the standings are those of the roster entries, with the places from the first one on, in the order
of the five keys; where all of them agree, roster entries keep their order. In a tournament that verbs can make
they never agree, and there is no other order in which the rows could stand. -/
theorem rows_ranked :
    (∀ t, ∃ entries, Ranked t entries) ∧
      ∀ t, Reachable t →
        t.updateStandings.standings.Pairwise Standing.Ahead ∧
          ∀ rows : List Standing,
            rows.Perm (t.players.map (Tournament.row t.tallies)) →
            (rows.Pairwise fun a b => a.Ahead b ∨ a.Level b) →
            withRanks rows = t.updateStandings.standings := by
  refine ⟨exists_ranked, ?_⟩
  intro t h
  have hnames := h.coherent.roster.distinct
  refine ⟨standings_pairwise_ahead hnames, ?_⟩
  intro rows hperm hordered
  exact eq_standings_of_ordered hnames hperm hordered

/-- After two drawn matches nothing but the names tells the players apart. -/
theorem rows_ranked_fourDrawn :
    Reachable fourDrawn ∧
      fourDrawn.updateStandings.standings.map (fun row => (row.rank, row.name)) =
        [(1, "Ann"), (2, "Bob"), (3, "Cid"), (4, "Dee")] := by
  obtain ⟨-, honly⟩ := rows_ranked.2 fourDrawn fourDrawn_reachable
  have hrow : ∀ p ∈ fourDrawn.players,
      Tournament.row fourDrawn.tallies p =
        { Tournament.row fourDrawn.tallies ⟨1, "Ann", false⟩ with id := p.id, name := p.name } := by
    simp only [fourDrawn, List.mem_cons, List.not_mem_nil, or_false]
    rintro p (rfl | rfl | rfl | rfl) <;> rfl
  have hnames : fourDrawn.players.Pairwise fun p q => p.name < q.name := by decide
  have hordered : (fourDrawn.players.map (Tournament.row fourDrawn.tallies)).Pairwise
      fun a b => a.Ahead b ∨ a.Level b := by
    refine List.pairwise_map.2 (hnames.imp_of_mem ?_)
    intro p q hp hq hname
    rw [hrow p hp, hrow q hq]
    exact .inl (.name rfl rfl rfl rfl hname)
  rw [← honly _ (.refl _) hordered]
  exact ⟨fourDrawn_reachable, rfl⟩

end Swiss
end TournamentDesk
