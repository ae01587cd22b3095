import Mathlib.Data.List.Perm.Basic
import Mathlib.Tactic.Common
import TournamentDesk.Swiss.Rounds

/-!
# Who sits where

The search for a pairing takes players out of a field two at a time, puts a bye aside, backtracks and
starts over with rematches. None of this loses or doubles a player: the occupied seats of the tables
it finds are a rearrangement of the field.

* `pairUp_pairs`: the tables of a search seat exactly the field, and only players who may meet.
* `search_eq`: the same search with lists in place of sets.
* `drawTables_seats`: the tables of a round seat exactly the active players, with one bye for an odd
  number of them and none for an even number.
-/

namespace TournamentDesk
namespace Swiss

/-! ## Occupied seats -/

/-- The players at a table. The second seat of a bye is empty. -/
def Table.occupants (t : Table) : List PlayerId :=
  if t.isBye then [t.first] else t.seats

/-- The players at tables. -/
def occupied (tables : List Table) : List PlayerId :=
  tables.flatMap Table.occupants

theorem Table.isBye_iff (t : Table) : t.isBye = true ↔ t.second = byeId := by
  simp [Table.isBye]

@[simp] theorem Table.isBye_bye (id : PlayerId) : (Table.bye id).isBye = true := by
  simp [Table.isBye, Table.bye]

@[simp] theorem Table.occupants_bye (id : PlayerId) : (Table.bye id).occupants = [id] := by
  simp [Table.occupants]
  rfl

theorem Table.occupants_of_not_isBye {t : Table} (h : t.isBye = false) : t.occupants = t.seats := by
  simp [Table.occupants, h]

@[simp] theorem occupied_nil : occupied [] = [] :=
  rfl

@[simp] theorem occupied_cons (t : Table) (tables : List Table) :
    occupied (t :: tables) = t.occupants ++ occupied tables :=
  rfl

@[simp] theorem occupied_append (ts us : List Table) :
    occupied (ts ++ us) = occupied ts ++ occupied us := by
  simp [occupied]

theorem mem_occupied {id : PlayerId} {tables : List Table} :
    id ∈ occupied tables ↔ ∃ t ∈ tables, id ∈ t.occupants := by
  simp [occupied]

/-! ## What a search finds -/

/-- Tables without a result that seat each player of a field once, and only players who may meet. -/
structure Pairs (mayMeet : Rule) (field : List PlayerId) (tables : List Table) : Prop where
  /-- The seats are a rearrangement of the field. -/
  seats : (tables.flatMap Table.seats).Perm field
  /-- No result is known. -/
  fresh : ∀ t ∈ tables, t.score = none
  /-- The players of each table may meet. -/
  allowed : ∀ t ∈ tables, mayMeet t.first t.second = true

theorem Pairs.nil (mayMeet : Rule) : Pairs mayMeet [] [] :=
  ⟨.refl _, by simp, by simp⟩

/-- One more table in front, for two players anywhere in the field. -/
theorem Pairs.cons
    {mayMeet : Rule}
    {first b : PlayerId}
    {before after : List PlayerId}
    {tables : List Table}
    (h : Pairs mayMeet (before ++ after) tables)
    (hb : mayMeet first b = true) :
    Pairs mayMeet (first :: (before ++ b :: after)) (Table.fresh first b :: tables) := by
  constructor
  · have hrest : (b :: tables.flatMap Table.seats).Perm (before ++ b :: after) :=
      (h.seats.cons b).trans List.perm_middle.symm
    exact hrest.cons first
  · intro t ht
    rcases List.mem_cons.1 ht with rfl | ht
    · rfl
    · exact h.fresh t ht
  · intro t ht
    rcases List.mem_cons.1 ht with rfl | ht
    · exact hb
    · exact h.allowed t ht

/-- What comes of the next opponent `b`, by the budget before it and the outcome in the end. -/
inductive Trial
    (mayMeet : Rule)
    (pair : List PlayerId → Nat → Outcome)
    (first : PlayerId)
    (passed : List PlayerId)
    (b : PlayerId)
    (rest : List PlayerId) :
    Nat → Outcome → Prop
  /-- The two may not meet, and the search goes on. -/
  | barred
      {budget : Nat} :
      mayMeet first b = false →
      Trial mayMeet pair first passed b rest budget
        (tryOpponents mayMeet pair first (b :: passed) rest budget)
  /-- No budget is left. -/
  | spent :
      mayMeet first b = true →
      Trial mayMeet pair first passed b rest 0 ⟨none, 0⟩
  /-- The others are paired. -/
  | seated
      {given left : Nat}
      {others : List Table} :
      mayMeet first b = true →
      pair (passed.reverse ++ rest) given = ⟨some others, left⟩ →
      Trial mayMeet pair first passed b rest (given + 1)
        ⟨some (Table.fresh first b :: others), left⟩
  /-- The others are not paired, and the search goes on with the budget they left. -/
  | failed
      {given left : Nat} :
      mayMeet first b = true →
      pair (passed.reverse ++ rest) given = ⟨none, left⟩ →
      Trial mayMeet pair first passed b rest (given + 1)
        (tryOpponents mayMeet pair first (b :: passed) rest left)

theorem tryOpponents_trial
    (mayMeet : Rule)
    (pair : List PlayerId → Nat → Outcome)
    (first : PlayerId)
    (passed : List PlayerId)
    (b : PlayerId)
    (rest : List PlayerId)
    (budget : Nat) :
    Trial mayMeet pair first passed b rest budget
      (tryOpponents mayMeet pair first passed (b :: rest) budget) := by
  unfold tryOpponents
  split
  · next hb =>
    split
    · exact .spent hb
    · next given =>
      split
      · next others left htried => exact .seated hb htried
      · next left htried => exact .failed hb htried
  · next hb => exact .barred (Bool.eq_false_iff.2 hb)

/-- The way in which a trial goes leaves only one outcome. -/
theorem Trial.eq
    {mayMeet : Rule}
    {pair : List PlayerId → Nat → Outcome}
    {first b : PlayerId}
    {passed rest : List PlayerId}
    {budget : Nat}
    {out : Outcome}
    (h : Trial mayMeet pair first passed b rest budget out) :
    tryOpponents mayMeet pair first passed (b :: rest) budget = out := by
  rw [tryOpponents.eq_def]
  cases h with
  | barred hb => simp only [hb, Bool.false_eq_true, if_false]
  | spent hb => simp only [hb, if_true]
  | seated hb htried => simp only [hb, htried, if_true]
  | failed hb htried => simp only [hb, htried, if_true]

/-- The players passed over stay in the field that is left to pair. -/
theorem tryOpponents_pairs
    {mayMeet : Rule}
    {pair : List PlayerId → Nat → Outcome}
    (hpair : ∀ field budget tables,
      (pair field budget).tables = some tables → Pairs mayMeet field tables)
    {first : PlayerId}
    {passed opponents : List PlayerId}
    {budget : Nat}
    {tables : List Table}
    (h : (tryOpponents mayMeet pair first passed opponents budget).tables = some tables) :
    Pairs mayMeet (first :: (passed.reverse ++ opponents)) tables := by
  induction opponents generalizing passed budget with
  | nil => cases h
  | cons b rest ih =>
      -- an opponent that is passed over moves to the end of `passed.reverse`
      have hpassed : (b :: passed).reverse ++ rest = passed.reverse ++ b :: rest := by
        simp
      have htrial := tryOpponents_trial mayMeet pair first passed b rest budget
      generalize tryOpponents mayMeet pair first passed (b :: rest) budget = out at h htrial
      cases htrial with
      | barred => exact hpassed ▸ ih h
      | spent => cases h
      | seated hb htried =>
          cases h
          exact (hpair _ _ _ (by rw [htried])).cons hb
      | failed => exact hpassed ▸ ih h

theorem pairWithin_pairs
    {mayMeet : Rule}
    {prune : Bool}
    {size : Nat}
    {field : List PlayerId}
    {budget : Nat}
    {tables : List Table}
    (h : (pairWithin mayMeet prune size field budget).tables = some tables) :
    Pairs mayMeet field tables := by
  induction size generalizing field budget tables with
  | zero =>
      cases field with
      | nil =>
          simp only [pairWithin, Option.some.injEq] at h
          subst h
          exact Pairs.nil mayMeet
      | cons first rest =>
          simp [pairWithin] at h
  | succ size ih =>
      cases field with
      | nil =>
          simp only [pairWithin, Option.some.injEq] at h
          subst h
          exact Pairs.nil mayMeet
      | cons first rest =>
          simp only [pairWithin] at h
          split at h
          · simp at h
          · exact tryOpponents_pairs (fun _ _ _ => ih) h

theorem pairUp_pairs
    {haveMet : Rule}
    {allowRematch : Bool}
    {field : List PlayerId}
    {budget : Nat}
    {tables : List Table}
    (h : (pairUp haveMet allowRematch field budget).tables = some tables) :
    Pairs (fun a b => allowRematch || !haveMet a b) field tables :=
  pairWithin_pairs h

/-- With a bye put aside, the search is for the rest of the field. -/
theorem pairWithBye_pairs
    {haveMet : Rule}
    {allowRematch : Bool}
    {field byes : List PlayerId}
    {budget : Nat}
    {tables : List Table}
    (h : (pairWithBye haveMet allowRematch field byes budget).tables = some tables) :
    ∃ bye ∈ byes, ∃ rest,
      tables = rest ++ [Table.bye bye] ∧
      Pairs (fun a b => allowRematch || !haveMet a b) (field.filter fun id => id ≠ bye) rest := by
  induction byes generalizing budget with
  | nil =>
      simp [pairWithBye] at h
  | cons bye others ih =>
      unfold pairWithBye at h
      split at h
      · next rest left hrest =>
        simp only [Option.some.injEq] at h
        subst h
        exact ⟨bye, by simp, rest, rfl, pairUp_pairs (by rw [hrest])⟩
      · obtain ⟨id, hid, rest, htables, hpairs⟩ := ih h
        exact ⟨id, List.mem_cons_of_mem _ hid, rest, htables, hpairs⟩

/-! ## The tables of a round -/

/-- How the tables of a new round seat a field. -/
structure Seats (field : List PlayerId) (tables : List Table) : Prop where
  /-- The occupied seats are a rearrangement of the field. -/
  occupants : (occupied tables).Perm field
  /-- One player is left over from an odd field and none from an even one. -/
  byes : tables.countP Table.isBye = field.length % 2
  /-- Only the bye is scored. -/
  scores : ∀ t ∈ tables, t.score = if t.isBye then some Score.bye else none

/-- Two players have sat at one table of a finished round. -/
def HaveMet (history : List Played) (a b : PlayerId) : Prop :=
  ∃ r ∈ history,
    r.table.isBye = false ∧
      (r.table.first = a ∧ r.table.second = b ∨ r.table.first = b ∧ r.table.second = a)

/-- No table seats two players who have met in finished rounds. -/
def NoRematch (history : List Played) (tables : List Table) : Prop :=
  ∀ t ∈ tables, t.isBye = false → ¬ HaveMet history t.first t.second

theorem couple_eq_couple_iff (a b c d : PlayerId) :
    couple a b = couple c d ↔ a = c ∧ b = d ∨ a = d ∧ b = c := by
  have hint : ∀ a b c d : Int,
      min a b = min c d ∧ max a b = max c d ↔ a = c ∧ b = d ∨ a = d ∧ b = c := by
    intro a b c d
    omega
  rw [couple, couple, Prod.mk.injEq]
  exact hint a b c d

/-- The couples of finished rounds, in order. -/
def couples (history : List Played) : List (PlayerId × PlayerId) :=
  ((history.map Played.table).filter fun t => !t.isBye).map fun t => couple t.first t.second

theorem meetings_contains (history : List Played) (c : PlayerId × PlayerId) :
    (meetings history).contains c = (couples history).contains c := by
  simp [meetings, couples]

/-- The couples tell who has met. -/
theorem mem_couples_iff (history : List Played) (a b : PlayerId) :
    couple a b ∈ couples history ↔ HaveMet history a b := by
  simp only [couples, List.mem_map, List.mem_filter]
  constructor
  · rintro ⟨t, ⟨⟨r, hr, rfl⟩, hbye⟩, hcouple⟩
    refine ⟨r, hr, by simpa using hbye, ?_⟩
    exact (couple_eq_couple_iff _ _ _ _).1 hcouple
  · rintro ⟨r, hr, hbye, hseats⟩
    refine ⟨r.table, ⟨⟨r, hr, rfl⟩, by simp [hbye]⟩, ?_⟩
    exact (couple_eq_couple_iff _ _ _ _).2 hseats

/-- Everybody in a field is tried for the bye. -/
theorem byeCandidates_perm
    (history : List Played)
    (field : List PlayerId) :
    (byeCandidates history field).Perm field := by
  simp only [byeCandidates, List.partition_eq_filter_filter]
  exact (List.filter_append_perm _ _).trans (List.reverse_perm field)

/-- The number of the bye is nobody's, so that paired players leave no seat empty. -/
theorem Pairs.not_isBye
    {mayMeet : Rule}
    {field : List PlayerId}
    {tables : List Table}
    (h : Pairs mayMeet field tables)
    (hfield : byeId ∉ field)
    {t : Table}
    (ht : t ∈ tables) :
    t.isBye = false := by
  have hsecond : t.second ∈ field :=
    h.seats.subset (List.mem_flatMap.2 ⟨t, ht, by simp [Table.seats]⟩)
  rw [Bool.eq_false_iff, ne_eq, Table.isBye_iff]
  intro hbye
  exact hfield (hbye ▸ hsecond)

theorem Pairs.seatsField
    {mayMeet : Rule}
    {field : List PlayerId}
    {tables : List Table}
    (h : Pairs mayMeet field tables)
    (hfield : byeId ∉ field) :
    (occupied tables).Perm field ∧ tables.countP Table.isBye = 0 ∧
      ∀ t ∈ tables, t.score = if t.isBye then some Score.bye else none := by
  have hbye : ∀ t ∈ tables, t.isBye = false := fun t ht => h.not_isBye hfield ht
  have hseats : occupied tables = tables.flatMap Table.seats :=
    List.flatMap_congr fun t ht => Table.occupants_of_not_isBye (hbye t ht)
  refine ⟨hseats ▸ h.seats, ?_, ?_⟩
  · rw [List.countP_eq_zero]
    intro t ht
    simp [hbye t ht]
  · intro t ht
    simp [hbye t ht, h.fresh t ht]

/-- Who may meet in a search without rematches. -/
def unmet (history : List Played) : Rule :=
  fun a b => false || !(meetings history).contains (couple a b)

theorem unmet_iff
    (history : List Played)
    (a b : PlayerId) :
    unmet history a b = true ↔ ¬ HaveMet history a b := by
  rw [unmet, Bool.false_or, Bool.not_eq_true', meetings_contains, ← mem_couples_iff]
  simp

/-- Without rematches nobody meets again. -/
theorem Pairs.noRematch
    {history : List Played}
    {field : List PlayerId}
    {tables : List Table}
    (h : Pairs (unmet history) field tables) :
    NoRematch history tables :=
  fun t ht _ => (unmet_iff history _ _).1 (h.allowed t ht)

theorem filter_ne_eq_erase
    {field : List PlayerId}
    (hnodup : field.Nodup)
    (id : PlayerId) :
    field.filter (fun other => other ≠ id) = field.erase id := by
  rw [hnodup.erase_eq_filter]
  refine List.filter_congr fun other _ => ?_
  by_cases h : other = id <;> simp [h]

theorem filter_ne_append_perm
    {field : List PlayerId}
    {id : PlayerId}
    (hnodup : field.Nodup)
    (hid : id ∈ field) :
    (field.filter (fun other => other ≠ id) ++ [id]).Perm field := by
  rw [filter_ne_eq_erase hnodup]
  exact (List.perm_append_singleton _ _).trans (List.perm_cons_erase hid).symm

/-- Whatever a search finds, with or without rematches, seats the field. -/
theorem search_seats
    {t : Tournament}
    {field : List PlayerId}
    {allowRematch : Bool}
    {tables : List Table}
    (hnodup : field.Nodup)
    (hfield : byeId ∉ field)
    (h : (t.search field allowRematch).tables = some tables) :
    Seats field tables ∧ (allowRematch = false → NoRematch t.history tables) := by
  unfold Tournament.search at h
  simp only at h
  split at h
  · next heven =>
    have hpairs := pairUp_pairs h
    obtain ⟨hperm, hbyes, hscores⟩ := hpairs.seatsField hfield
    refine ⟨⟨hperm, by omega, hscores⟩, ?_⟩
    rintro rfl
    exact hpairs.noRematch
  · next hodd =>
    obtain ⟨bye, hbye, rest, rfl, hpairs⟩ := pairWithBye_pairs h
    have hmem : bye ∈ field := (byeCandidates_perm t.history field).subset hbye
    have hrest : byeId ∉ field.filter fun id => id ≠ bye := by
      intro hin
      exact hfield (List.mem_of_mem_filter hin)
    obtain ⟨hperm, hbyes, hscores⟩ := hpairs.seatsField hrest
    refine ⟨⟨?_, ?_, ?_⟩, ?_⟩
    · rw [occupied_append]
      exact (hperm.append_right _).trans (filter_ne_append_perm hnodup hmem)
    · rw [List.countP_append, hbyes]
      simp
      omega
    · intro table htable
      rcases List.mem_append.1 htable with htable | htable
      · exact hscores table htable
      · rw [List.mem_singleton.1 htable]
        simp [Table.bye, Table.isBye]
    · rintro rfl table htable hnot
      rcases List.mem_append.1 htable with htable | htable
      · exact hpairs.noRematch table htable hnot
      · rw [List.mem_singleton.1 htable] at hnot
        simp at hnot

/-- The search with the couples and the byes of finished rounds in lists. -/
theorem search_eq
    (t : Tournament)
    (field : List PlayerId)
    (allowRematch : Bool) :
    t.search field allowRematch =
      let haveMet : Rule := fun a b => (couples t.history).contains (couple a b)
      let hadBye : PlayerId → Bool := fun id => (pastByes t.history).contains id
      if field.length % 2 = 0 then pairUp haveMet allowRematch field searchBudget
      else
        pairWithBye haveMet allowRematch field
          (field.reverse.filter (fun id => !hadBye id) ++ field.reverse.filter hadBye)
          searchBudget := by
  simp [Tournament.search, byeCandidates, meetings_contains, Function.comp_def]

/-! ## The field of a round -/

/-- A draw is fair when it only rearranges the players. -/
def Draw.Fair (draw : Draw) : Prop :=
  ∀ ids, (draw ids).Perm ids

theorem seeded_perm (history : List Played) (ids : List PlayerId) :
    (seeded history ids).Perm ids := by
  have hsort := (List.mergeSort_perm (ids.map fun id => (pointsIn history id, id)) seededBefore).map
    Prod.snd
  simpa [seeded, Function.comp_def] using hsort

theorem field_perm
    {draw : Draw}
    (hdraw : draw.Fair)
    (t : Tournament) :
    (t.field draw).Perm t.activeIds := by
  unfold Tournament.field
  split
  · exact hdraw _
  · exact seeded_perm _ _

theorem Seats.of_perm
    {field ids : List PlayerId}
    {tables : List Table}
    (h : Seats field tables)
    (hperm : field.Perm ids) :
    Seats ids tables :=
  ⟨h.occupants.trans hperm, hperm.length_eq ▸ h.byes, h.scores⟩

/-- The tables of a round come from the search without rematches, or from the one with rematches if those are
allowed and the other has found nothing. -/
theorem drawTables_search
    {t : Tournament}
    {draw : Draw}
    {allowRepair : Bool}
    {tables : List Table}
    (h : t.drawTables draw allowRepair = .ok tables) :
    minPlayers ≤ t.playerCount ∧
      ((t.search (t.field draw) false).tables = some tables ∨
        allowRepair = true ∧ (t.search (t.field draw) false).tables = none ∧
          (t.search (t.field draw) true).tables = some tables) := by
  unfold Tournament.drawTables at h
  split at h
  · simp at h
  · next henough =>
    refine ⟨Nat.le_of_not_lt henough, ?_⟩
    simp only at h
    split at h
    · next hplain =>
      cases h
      exact Or.inl hplain
    · next hnone =>
      split at h
      · next hrepair =>
        split at h
        · next hagain =>
          cases h
          exact Or.inr ⟨hrepair, hnone, hagain⟩
        · simp at h
      · simp at h

/-- The tables of a round seat exactly the active players, and nobody who has met before unless that
is allowed. -/
theorem drawTables_seats
    {t : Tournament}
    {draw : Draw}
    {allowRepair : Bool}
    {tables : List Table}
    (hdraw : draw.Fair)
    (hnodup : t.activeIds.Nodup)
    (hbye : byeId ∉ t.activeIds)
    (h : t.drawTables draw allowRepair = .ok tables) :
    Seats t.activeIds tables ∧ (allowRepair = false → NoRematch t.history tables) := by
  have hperm := field_perm hdraw t
  have hfield : (t.field draw).Nodup := hperm.nodup_iff.2 hnodup
  have hnobody : byeId ∉ t.field draw := fun hin => hbye (hperm.subset hin)
  obtain ⟨_, hplain | ⟨hrepair, -, hagain⟩⟩ := drawTables_search h
  · obtain ⟨hseats, hnew⟩ := search_seats hfield hnobody hplain
    exact ⟨hseats.of_perm hperm, fun _ => hnew rfl⟩
  · obtain ⟨hseats, _⟩ := search_seats hfield hnobody hagain
    refine ⟨hseats.of_perm hperm, ?_⟩
    intro hnot
    rw [hnot] at hrepair
    cases hrepair

end Swiss
end TournamentDesk
