import TournamentDesk.Proofs.Swiss.Matching
import TournamentDesk.Proofs.Swiss.Progress

/-!
# Which pairing is chosen

After finished rounds the players are paired from the top of their order down. Without rematches the bye
goes to the first candidate without whom the others can be paired, and then each player in turn meets the
highest one for whom the rest can be paired, as in plain backtracking. Candidates for the bye who were passed
over were given up with budget left, since there was budget for the one who has it; so it was not for want of
budget that they were passed over. With rematches the first candidate has the bye and neighbours meet.

* `Seeding.unique`: there is one order of the players.
* `Preferred.unique`: there is one round to choose without rematches.
* `Neighbours.unique`: there is one round to choose with rematches.
* `plainPairing_choice`: plain backtracking takes the first opponent for whom the rest can be paired.
* `pairWithBye_choice`: the candidates for the bye that were passed over were given up with budget left.
* `pairing_chosen`: which round a pairing gives.
-/

namespace TournamentDesk
namespace Swiss

/-! ## The order of the players -/

/-- An order of players: by points from finished rounds, most first, and then by number, least first. -/
structure Seeding (history : List Played) (ids order : List PlayerId) : Prop where
  perm : order.Perm ids
  sorted : order.Pairwise fun a b =>
    pointsIn history b < pointsIn history a ∨ pointsIn history a = pointsIn history b ∧ a < b

theorem seededBefore_iff (a b : Nat × PlayerId) :
    seededBefore a b = true ↔ b.1 < a.1 ∨ a.1 = b.1 ∧ a.2 ≤ b.2 := by
  simp [seededBefore]

theorem seededBefore_trans
    (a b c : Nat × PlayerId)
    (hab : seededBefore a b = true)
    (hbc : seededBefore b c = true) :
    seededBefore a c = true := by
  rw [seededBefore_iff] at *
  lia

theorem seededBefore_total (a b : Nat × PlayerId) :
    (seededBefore a b || seededBefore b a) = true := by
  rw [Bool.or_eq_true, seededBefore_iff, seededBefore_iff]
  lia

/-- Whoever has more points comes first, and of two players with the same points the one with the lower number. -/
theorem seeded_pairwise
    (history : List Played)
    (ids : List PlayerId) :
    (seeded history ids).Pairwise fun a b =>
      pointsIn history b < pointsIn history a ∨ pointsIn history a = pointsIn history b ∧ a ≤ b := by
  have hkey : ∀ entry ∈ (ids.map fun id => (pointsIn history id, id)).mergeSort seededBefore,
      entry.1 = pointsIn history entry.2 := by
    intro entry hentry
    obtain ⟨id, -, rfl⟩ := List.mem_map.1 (List.mem_mergeSort.1 hentry)
    rfl
  have hsorted := List.pairwise_mergeSort seededBefore_trans seededBefore_total
    (ids.map fun id => (pointsIn history id, id))
  refine List.pairwise_map.2 (hsorted.imp_of_mem ?_)
  intro a b ha hb hab
  rw [← hkey a ha, ← hkey b hb]
  exact (seededBefore_iff a b).1 hab

theorem seeding_seeded
    (history : List Played)
    {ids : List PlayerId}
    (hnodup : ids.Nodup) :
    Seeding history ids (seeded history ids) := by
  have hperm := seeded_perm history ids
  have hdistinct : (seeded history ids).Nodup := hperm.nodup_iff.2 hnodup
  refine ⟨hperm, ((seeded_pairwise history ids).and hdistinct).imp ?_⟩
  rintro a b ⟨hpoints | ⟨hpoints, hle⟩, hne⟩
  · exact .inl hpoints
  · exact .inr ⟨hpoints, Int.lt_iff_le_and_ne.2 ⟨hle, hne⟩⟩

theorem Seeding.unique
    {history : List Played}
    {ids order order' : List PlayerId}
    (h : Seeding history ids order)
    (h' : Seeding history ids order') :
    order = order' := by
  refine List.Perm.eq_of_pairwise ?_ h.sorted h'.sorted (h.perm.trans h'.perm.symm)
  -- no two players come before one another
  intro a b _ _ hab hba
  lia

/-- A player has had the bye in a finished round. -/
def HadBye (history : List Played) (id : PlayerId) : Prop :=
  ∃ r ∈ history, r.table.isBye = true ∧ r.table.first = id

instance (history : List Played) : DecidablePred (HadBye history) :=
  fun id => inferInstanceAs (Decidable (∃ r ∈ history, r.table.isBye = true ∧ r.table.first = id))

/-- The candidates for the bye: from the last player up, those without a bye so far before the others. -/
def byeOrder (history : List Played) (order : List PlayerId) : List PlayerId :=
  order.reverse.filter (fun id => ¬ HadBye history id) ++ order.reverse.filter fun id => HadBye history id

theorem mem_pastByes_iff (history : List Played) (id : PlayerId) :
    id ∈ pastByes history ↔ HadBye history id := by
  simp [pastByes, HadBye, and_assoc]

theorem byeCandidates_eq
    (history : List Played)
    (order : List PlayerId) :
    byeCandidates history order = byeOrder history order := by
  simp [byeCandidates, byeOrder, mem_pastByes_iff, Function.comp_def]

/-! ## The chosen round -/

/-- Tables that are chosen from the top of a field down. Each player meets the first one not met before for
whom the rest can be paired without a rematch. -/
inductive FirstChoice (history : List Played) : List PlayerId → List Table → Prop
  | nil :
      FirstChoice history [] []
  | cons
      {first b : PlayerId}
      {before after : List PlayerId}
      {tables : List Table} :
      ¬ HaveMet history first b →
      (∀ c ∈ before, ¬ HaveMet history first c →
        ¬ Matchable history ((before ++ b :: after).erase c)) →
      FirstChoice history (before ++ after) tables →
      FirstChoice history (first :: (before ++ b :: after)) (Table.fresh first b :: tables)

/-- The round that is chosen without rematches. From an odd field the first candidate has the bye without
whom the others can be paired. -/
inductive Preferred (history : List Played) (order : List PlayerId) : List Table → Prop
  | even
      {tables : List Table} :
      order.length % 2 = 0 →
      FirstChoice history order tables →
      Preferred history order tables
  | odd
      {before after : List PlayerId}
      {bye : PlayerId}
      {tables : List Table} :
      order.length % 2 = 1 →
      byeOrder history order = before ++ bye :: after →
      (∀ c ∈ before, ¬ Matchable history (order.erase c)) →
      FirstChoice history (order.erase bye) tables →
      Preferred history order (tables ++ [Table.bye bye])

/-- The round that is chosen with rematches. From an odd field the first candidate has the bye. -/
inductive Neighbours (history : List Played) (order : List PlayerId) : List Table → Prop
  | even :
      order.length % 2 = 0 →
      Neighbours history order (adjacent order)
  | odd
      {bye : PlayerId}
      {others : List PlayerId} :
      order.length % 2 = 1 →
      byeOrder history order = bye :: others →
      Neighbours history order (adjacent (order.erase bye) ++ [Table.bye bye])

/-! ### There is only one -/

/-- A player and somebody not met before, in front of a field that can be paired. -/
theorem Matchable.cons
    {history : List Played}
    {first b : PlayerId}
    {before after : List PlayerId}
    (h : Matchable history (before ++ after))
    (hnew : ¬ HaveMet history first b) :
    Matchable history (first :: (before ++ b :: after)) := by
  obtain ⟨tables, hpairs⟩ := (matchable_iff_pairs history _).1 h
  exact (matchable_iff_pairs history _).2 ⟨_, hpairs.cons ((unmet_iff history _ _).2 hnew)⟩

theorem FirstChoice.matchable
    {history : List Played}
    {field : List PlayerId}
    {tables : List Table}
    (h : FirstChoice history field tables) :
    Matchable history field := by
  induction h with
  | nil => exact ⟨[], .nil, by simp⟩
  | cons hnew _ _ ih => exact ih.cons hnew

/-- Two splits of a list are one if neither of them passes over the element of the other. -/
theorem split_unique
    {before before' after after' : List PlayerId}
    {b b' : PlayerId}
    (h : before ++ b :: after = before' ++ b' :: after')
    (hb : b ∉ before')
    (hb' : b' ∉ before) :
    before = before' ∧ b = b' ∧ after = after' := by
  rcases List.append_eq_append_iff.1 h with ⟨between, rfl, htail⟩ | ⟨between, rfl, htail⟩
  · cases between with
    | nil => simpa using htail
    | cons c between =>
        obtain ⟨rfl, -⟩ := List.cons.inj htail
        simp at hb
  · cases between with
    | nil =>
        obtain ⟨rfl, rfl⟩ := List.cons.inj htail
        simp
    | cons c between =>
        obtain ⟨rfl, -⟩ := List.cons.inj htail
        simp at hb'

/-- An opponent for whom the rest can be paired is not passed over. -/
theorem FirstChoice.not_passed
    {history : List Played}
    {first b : PlayerId}
    {before after passed opponents : List PlayerId}
    {tables : List Table}
    (hrest : FirstChoice history (before ++ after) tables)
    (hnew : ¬ HaveMet history first b)
    (hopponents : before ++ b :: after = opponents)
    (hpast : ∀ c ∈ passed, ¬ HaveMet history first c → ¬ Matchable history (opponents.erase c)) :
    b ∉ passed := by
  intro hb
  have hperm : (before ++ after).Perm (opponents.erase b) := by
    rw [← hopponents]
    exact (List.cons_perm_iff_perm_erase.1 List.perm_middle.symm).2
  exact hpast b hb hnew (hrest.matchable.perm hperm)

/-- Choosing from the top of a field down leaves no freedom. -/
theorem FirstChoice.unique
    {history : List Played}
    {field : List PlayerId}
    {tables tables' : List Table}
    (h : FirstChoice history field tables)
    (h' : FirstChoice history field tables') :
    tables = tables' := by
  induction h generalizing tables' with
  | nil =>
      cases h'
      rfl
  | @cons first b before after tables hnew hpast hrest ih =>
      generalize hfield : first :: (before ++ b :: after) = field at h'
      cases h' with
      | nil => cases hfield
      | @cons first' b' before' after' tables' hnew' hpast' hrest' =>
          obtain ⟨rfl, hopponents⟩ := List.cons.inj hfield
          have hb := hrest.not_passed hnew hopponents hpast'
          have hb' := hrest'.not_passed hnew' hopponents.symm hpast
          obtain ⟨rfl, rfl, rfl⟩ := split_unique hopponents hb hb'
          rw [ih hrest']

theorem Preferred.unique
    {history : List Played}
    {order : List PlayerId}
    {tables tables' : List Table}
    (h : Preferred history order tables)
    (h' : Preferred history order tables') :
    tables = tables' := by
  cases h with
  | even heven hchosen =>
      cases h' with
      | even _ hchosen' => exact hchosen.unique hchosen'
      | odd hodd => omega
  | @odd before after bye tables hodd hbyes hpast hchosen =>
      cases h' with
      | even heven => omega
      | @odd before' after' bye' tables' _ hbyes' hpast' hchosen' =>
          have hbye : bye ∉ before' := fun hmem => hpast' bye hmem hchosen.matchable
          have hbye' : bye' ∉ before := fun hmem => hpast bye' hmem hchosen'.matchable
          obtain ⟨-, rfl, -⟩ := split_unique (hbyes.symm.trans hbyes') hbye hbye'
          rw [hchosen.unique hchosen']

theorem Neighbours.unique
    {history : List Played}
    {order : List PlayerId}
    {tables tables' : List Table}
    (h : Neighbours history order tables)
    (h' : Neighbours history order tables') :
    tables = tables' := by
  cases h with
  | even heven =>
      cases h' with
      | even => rfl
      | odd hodd => omega
  | odd hodd hbyes =>
      cases h' with
      | even heven => omega
      | odd _ hbyes' =>
          obtain ⟨rfl, -⟩ := List.cons.inj (hbyes.symm.trans hbyes')
          rfl

/-! ## What was passed over -/

/-- A field was given up with budget left. -/
def GivenUp (pair : List PlayerId → Nat → Outcome) (field : List PlayerId) : Prop :=
  ∃ budget, (pair field budget).tables = none ∧ 0 < (pair field budget).left

/-- When tables with a bye are found, the candidates before the one who has it were given up with budget
left. -/
theorem pairWithBye_choice
    {haveMet : Rule}
    {allowRematch : Bool}
    {field byes : List PlayerId}
    (hothers : ∀ bye ∈ byes, field.filter (fun id => id ≠ bye) ≠ [])
    {budget : Nat}
    {tables : List Table}
    (h : (pairWithBye haveMet allowRematch field byes budget).tables = some tables) :
    ∃ before bye after others given,
      byes = before ++ bye :: after ∧
        (pairUp haveMet allowRematch (field.filter fun id => id ≠ bye) given).tables = some others ∧
        tables = others ++ [Table.bye bye] ∧
        ∀ c ∈ before, GivenUp (pairUp haveMet allowRematch) (field.filter fun id => id ≠ c) := by
  induction byes generalizing budget with
  | nil => cases h
  | cons bye rest ih =>
      have hlater : ∀ other ∈ rest, field.filter (fun id => id ≠ other) ≠ [] :=
        fun other hother => hothers other (List.mem_cons_of_mem _ hother)
      cases htried : pairUp haveMet allowRematch (field.filter fun id => id ≠ bye) budget with
      | mk found left =>
          rw [pairWithBye, htried] at h
          cases found with
          | some others =>
              cases h
              exact ⟨[], bye, rest, others, budget, rfl, by rw [htried], rfl, by simp⟩
          | none =>
              have hleft : 0 < left := by
                rw [Nat.pos_iff_ne_zero]
                rintro rfl
                simp only [pairWithBye_spent haveMet allowRematch hlater] at h
                cases h
              obtain ⟨before, other, after, others, given, rfl, hfound, rfl, hpast⟩ := ih hlater h
              refine ⟨bye :: before, other, after, others, given, rfl, hfound, rfl, ?_⟩
              intro c hc
              rcases List.mem_cons.1 hc with rfl | hc
              · exact ⟨budget, by rw [htried], by rw [htried]; exact hleft⟩
              · exact hpast c hc

/-! ## What a search chooses -/

theorem unmet_symm (history : List Played) (a b : PlayerId) : unmet history a b = unmet history b a :=
  allowed_symm (metIn_symm (meetings history)) false a b

/-- A field that was given up with budget left cannot be paired without a rematch. -/
theorem GivenUp.not_matchable
    {history : List Played}
    {prune : Bool}
    {size : Nat}
    {field : List PlayerId}
    (h : GivenUp (pairWithin (unmet history) prune size) field)
    (hnodup : field.Nodup)
    (hsize : field.length ≤ size) :
    ¬ Matchable history field := by
  obtain ⟨budget, hnone, hpos⟩ := h
  rw [matchable_iff_pairs]
  exact pairWithin_conclusive (unmet_symm history) prune hnodup hsize budget hnone hpos

/-- Plain backtracking without rematches chooses from the top of its field down. -/
theorem plainPairing_choice
    {history : List Played}
    {field : List PlayerId}
    (hnodup : field.Nodup)
    {tables : List Table}
    (h : plainPairing (unmet history) field = some tables) :
    FirstChoice history field tables := by
  induction field using plainPairing.induct generalizing tables with
  | case1 =>
      rw [plainPairing] at h
      cases h
      exact .nil
  | case2 first rest ih =>
      obtain ⟨before, b, after, others, rfl, hb, hothers, rfl, hpast⟩ := plainPairing_cons_eq_some h
      have hrest := (List.nodup_cons.1 hnodup).2
      have hchosen := ih b (hrest.erase b) hothers
      rw [erase_middle hrest] at hchosen
      refine .cons ((unmet_iff history first b).1 hb) ?_ hchosen
      intro c hc hnew
      rw [matchable_iff_pairs, ← plainPairing_eq_none_iff (unmet_symm history)]
      exact hpast c hc ((unmet_iff history first c).2 hnew)

/-- A search without rematches does so too. -/
theorem pairWithin_choice
    {history : List Played}
    (prune : Bool)
    {size : Nat}
    {field : List PlayerId}
    (hnodup : field.Nodup)
    (hsize : field.length ≤ size)
    {budget : Nat}
    {tables : List Table}
    (h : (pairWithin (unmet history) prune size field budget).tables = some tables) :
    FirstChoice history field tables := by
  have hagrees := pairWithin_agrees (unmet_symm history) prune hnodup hsize budget
  rw [Outcome.Agrees, Outcome.Decided, h] at hagrees
  exact plainPairing_choice hnodup (hagrees (.inl (Option.some_ne_none _))).symm

theorem search_preferred
    {t : Tournament}
    {order : List PlayerId}
    (hnodup : order.Nodup)
    (hlong : minPlayers ≤ order.length)
    {tables : List Table}
    (h : (t.search order false).tables = some tables) :
    Preferred t.history order tables := by
  unfold Tournament.search at h
  simp only at h
  split at h
  · next heven => exact .even heven (pairWithin_choice _ hnodup (Nat.le_refl _) h)
  · next hodd =>
    have hodd : order.length % 2 = 1 := by omega
    have hmin : minPlayers = 2 := rfl
    have hothers : ∀ bye ∈ byeCandidates t.history order, order.filter (fun id => id ≠ bye) ≠ [] := by
      intro bye hbye hnobody
      have hlength := List.length_erase_of_mem ((byeCandidates_perm t.history order).subset hbye)
      rw [← filter_ne_eq_erase hnodup, hnobody, List.length_nil] at hlength
      omega
    obtain ⟨before, bye, after, others, given, hbyes, hfound, rfl, hpast⟩ :=
      pairWithBye_choice hothers h
    have hrest := pairWithin_choice _ (hnodup.filter _) (Nat.le_refl _) hfound
    rw [filter_ne_eq_erase hnodup] at hrest
    rw [byeCandidates_eq] at hbyes
    refine .odd hodd hbyes ?_ hrest
    intro c hc
    let field := order.filter fun id => id ≠ c
    have hgiven : GivenUp (pairWithin (unmet t.history) true field.length) field := hpast c hc
    rw [← filter_ne_eq_erase hnodup]
    exact hgiven.not_matchable (hnodup.filter _) (Nat.le_refl _)

/-- A search with rematches pairs neighbours. -/
theorem search_neighbours
    {t : Tournament}
    {order : List PlayerId}
    (hnodup : order.Nodup)
    {tables : List Table}
    (h : (t.search order true).tables = some tables) :
    Neighbours t.history order tables := by
  have hall : ∀ a b, (true || !(meetings t.history).contains (couple a b)) = true := fun _ _ => rfl
  unfold Tournament.search at h
  simp only at h
  split at h
  · next heven =>
    rw [pairUp_all hall (fun _ => hnodup) heven] at h
    split at h <;> cases h
    exact .even heven
  · next hodd =>
    have hodd : order.length % 2 = 1 := by omega
    have hperm := byeCandidates_perm t.history order
    cases hbyes : byeCandidates t.history order with
    | nil =>
        rw [hbyes] at h
        cases h
    | cons bye others =>
        rw [hbyes] at hperm h
        rw [pairWithBye_all hall hnodup hodd hperm] at h
        split at h <;> cases h
        exact .odd hodd (byeCandidates_eq t.history order ▸ hbyes)

/-! ## Pairing a round -/

/-- A round that is paired after finished rounds is chosen by the order of the players, of which there is one.
Either it is the one round that is preferred without rematches, or rematches are allowed, the search without
them has found nothing, for want of a round or of budget, and it is the one in which neighbours meet. -/
theorem pairing_chosen
    {t : Tournament}
    (h : Reachable t)
    (hplayed : t.history ≠ [])
    {draw : Draw}
    {allowRepair : Bool}
    {t' : Tournament}
    (hpair : t.pair draw allowRepair = .ok t') :
    let order := seeded t.history t.activeIds
    Seeding t.history t.activeIds order ∧
      (∀ other, Seeding t.history t.activeIds other → other = order) ∧
      t' = { t with tables := t'.tables } ∧
      (NoRematch t.history t'.tables ∧
          Preferred t.history order t'.tables ∧
          (∀ tables, Preferred t.history order tables → tables = t'.tables) ∨
        allowRepair = true ∧
          (t.search order false).tables = none ∧
          (¬ HasRound t.history order ∨ (t.search order false).left = 0) ∧
          Neighbours t.history order t'.tables ∧
          ∀ tables, Neighbours t.history order tables → tables = t'.tables) := by
  intro order
  have hids := h.coherent.activeIds_nodup
  have hseeding : Seeding t.history t.activeIds order := seeding_seeded t.history hids
  have hnodup : order.Nodup := hseeding.perm.nodup_iff.2 hids
  have hbye : byeId ∉ order := fun hmem => h.coherent.byeId_not_mem (hseeding.perm.subset hmem)
  obtain ⟨-, -, tables, hdrawn, rfl⟩ := pair_eq_ok hpair
  have hfield : t.field draw = order := by
    rw [Tournament.field, if_neg (by simpa using hplayed)]
  obtain ⟨henough, hsearch⟩ := drawTables_search hdrawn
  rw [hfield] at hsearch
  refine ⟨hseeding, fun _ hother => hother.unique hseeding, rfl, ?_⟩
  rcases hsearch with hfound | ⟨hrepair, hnone, hfound⟩
  · have hlong : minPlayers ≤ order.length := by
      rw [hseeding.perm.length_eq, Tournament.activeIds, List.length_map]
      exact henough
    have hpreferred := search_preferred hnodup hlong hfound
    exact .inl ⟨(search_seats hnodup hbye hfound).2 rfl, hpreferred,
      fun _ hother => hother.unique hpreferred⟩
  · have hneighbours := search_neighbours hnodup hfound
    refine .inr ⟨hrepair, hnone, ?_, hneighbours, fun _ hother => hother.unique hneighbours⟩
    rcases Nat.eq_zero_or_pos (t.search order false).left with hspent | hleft
    · exact .inr hspent
    · exact .inl (not_hasRound_of_search hnodup hnone hleft)

/-- With leave for rematches the two who have met meet again. -/
theorem twoLeft_pair : twoLeft.pair id true = .ok { twoLeft with tables := [.fresh 1 2] } := by
  simp only [Tournament.pair_eq, Tournament.drawTables, search_eq, twoLeft_field]
  rfl

/-- Four players meet anew, and two of them meet again after the others have left. -/
theorem pairing_chosen_fourDrawn :
    Reachable fourDrawn ∧
      fourDrawn.history ≠ [] ∧
      fourDrawn.pair id false = .ok { fourDrawn with tables := [.fresh 1 3, .fresh 2 4] } ∧
      Preferred fourDrawn.history (seeded fourDrawn.history fourDrawn.activeIds)
        [.fresh 1 3, .fresh 2 4] ∧
      Reachable twoLeft ∧
      twoLeft.history ≠ [] ∧
      twoLeft.pair id true = .ok { twoLeft with tables := [.fresh 1 2] } ∧
      Neighbours twoLeft.history (seeded twoLeft.history twoLeft.activeIds) [.fresh 1 2] := by
  have hplayed : fourDrawn.history ≠ [] := by decide
  have hpair : fourDrawn.pair id false = .ok { fourDrawn with tables := [.fresh 1 3, .fresh 2 4] } := by
    have hperform := fourDrawn_pair
    rw [Tournament.perform_eq] at hperform
    obtain ⟨t', hpair, hsilent⟩ := except_map_eq_ok hperform
    obtain rfl : t' = { fourDrawn with tables := [.fresh 1 3, .fresh 2 4] } :=
      congrArg Step.tournament hsilent
    exact hpair
  have hpreferred : Preferred fourDrawn.history (seeded fourDrawn.history fourDrawn.activeIds)
      [.fresh 1 3, .fresh 2 4] := by
    obtain ⟨-, -, -, ⟨-, hpreferred, -⟩ | ⟨hrepair, -⟩⟩ :=
      pairing_chosen fourDrawn_reachable hplayed hpair
    · exact hpreferred
    · cases hrepair
  have hneighbours : Neighbours twoLeft.history (seeded twoLeft.history twoLeft.activeIds)
      [.fresh 1 2] := by
    obtain ⟨-, -, -, ⟨hnew, -⟩ | ⟨-, -, -, hneighbours, -⟩⟩ :=
      pairing_chosen twoLeft_reachable hplayed twoLeft_pair
    · -- the two have met
      exact absurd ⟨_, List.mem_cons_self, rfl, .inl ⟨rfl, rfl⟩⟩ (hnew _ List.mem_cons_self rfl)
    · exact hneighbours
  exact ⟨fourDrawn_reachable, hplayed, hpair, hpreferred, twoLeft_reachable, hplayed, twoLeft_pair,
    hneighbours⟩

end Swiss
end TournamentDesk
