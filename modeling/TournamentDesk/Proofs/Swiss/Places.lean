import TournamentDesk.Proofs.Swiss.Coherence

/-!
# Where a player sits

A score is put on the first table that its player sits at. In a tournament that verbs can make, a player
sits at one table of the current round only, and nobody is taken for the bye, so the score is put on that
table.

* `RoundCoherent.seats_nodup`: the two seats of a table and those of different tables have different players.
* `SitsAt`, `Coherent.sitsAt`: whoever occupies a seat sits at that table and at no other.
* `enterScore_of_seated`: where the score of a player goes.
-/

namespace TournamentDesk
namespace Swiss

/-- A player sits at the `i`-th of some tables and at no other. -/
structure SitsAt
    (tables : List Table)
    (i : Nat)
    (id : PlayerId)
    (table : Table) : Prop where
  found : tables[i]? = some table
  involved : table.involves id = true
  only : ∀ (j : Nat) (other : Table), tables[j]? = some other → other.involves id = true → j = i

theorem Table.involves_iff
    (table : Table)
    (id : PlayerId) :
    table.involves id = true ↔ id ∈ table.seats := by
  rw [Table.involves, Bool.or_eq_true, decide_eq_true_eq, decide_eq_true_eq, eq_comm,
    @eq_comm _ table.second]
  simp [Table.seats]

theorem Table.occupants_subset_seats (table : Table) : table.occupants ⊆ table.seats := by
  unfold Table.occupants
  split <;> simp [Table.seats]

/-- Whoever is not the bye and sits at a table occupies a seat of it. -/
theorem Table.mem_occupants_of_involves
    {table : Table}
    {id : PlayerId}
    (h : table.involves id = true)
    (hid : id ≠ byeId) :
    id ∈ table.occupants := by
  rw [Table.involves_iff] at h
  unfold Table.occupants
  split
  · next hbye =>
    rw [Table.isBye_iff] at hbye
    simpa [Table.seats, hbye, hid] using h
  · exact h

/-- Two tables of a round have no player in common. -/
theorem RoundCoherent.table_unique
    {ids : List PlayerId}
    {tables : List Table}
    (h : RoundCoherent ids tables)
    {i j : Nat}
    {a b : Table}
    (ha : tables[i]? = some a)
    (hb : tables[j]? = some b)
    {id : PlayerId}
    (hida : id ∈ a.occupants)
    (hidb : id ∈ b.occupants) :
    i = j := by
  obtain ⟨hi, rfl⟩ := List.getElem?_eq_some_iff.1 ha
  obtain ⟨hj, rfl⟩ := List.getElem?_eq_some_iff.1 hb
  have hapart := List.pairwise_iff_getElem.1 (List.nodup_flatMap.1 h.once).2
  rcases Nat.lt_trichotomy i j with hlt | heq | hgt
  · exact absurd hidb (hapart i j hi hj hlt hida)
  · exact heq
  · exact absurd hida (hapart j i hj hi hgt hidb)

/-- The two players of a match are different. -/
theorem RoundCoherent.first_ne_second
    {ids : List PlayerId}
    {tables : List Table}
    (h : RoundCoherent ids tables)
    {table : Table}
    (htable : table ∈ tables)
    (hbye : table.isBye = false) :
    table.first ≠ table.second := by
  have honce := (List.nodup_flatMap.1 h.once).1 table htable
  rw [Table.occupants_of_not_isBye hbye] at honce
  simpa [Table.seats] using honce

/-- The seats of a round are those that are occupied and the second ones of the byes. -/
theorem seats_perm (tables : List Table) :
    (tables.flatMap Table.seats).Perm
      (occupied tables ++ List.replicate (tables.countP Table.isBye) byeId) := by
  induction tables with
  | nil => exact .refl _
  | cons table tables ih =>
      rw [List.flatMap_cons, occupied_cons, List.countP_cons]
      cases hbye : table.isBye with
      | false =>
          rw [Table.occupants_of_not_isBye hbye, List.append_assoc]
          exact ih.append_left table.seats
      | true =>
          -- the empty seat goes behind the seats of all other tables
          have hsecond : table.second = byeId := (Table.isBye_iff table).1 hbye
          have hrest := (ih.cons byeId).trans List.perm_middle.symm
          simpa [Table.occupants, Table.seats, hbye, hsecond, List.replicate_succ] using
            hrest.cons table.first

/-- Nobody has two seats, and at most one stays empty. -/
theorem RoundCoherent.seats_nodup
    {ids : List PlayerId}
    {tables : List Table}
    (h : RoundCoherent ids tables)
    (hbye : byeId ∉ ids) :
    (tables.flatMap Table.seats).Nodup := by
  rw [(seats_perm tables).nodup_iff, List.nodup_append]
  refine ⟨h.once, List.nodup_replicate.2 h.oneBye, ?_⟩
  rintro id hid _ hempty rfl
  rw [List.eq_of_mem_replicate hempty] at hid
  exact hbye (h.known byeId hid)

theorem Coherent.ne_byeId
    {t : Tournament}
    (hc : Coherent t)
    {id : PlayerId}
    (hid : id ∈ t.ids) :
    id ≠ byeId := by
  rintro rfl
  exact hc.roster.byeId_not_mem hid

theorem Coherent.mem_ids
    {t : Tournament}
    (hc : Coherent t)
    {i : Nat}
    {table : Table}
    (hfound : t.tables[i]? = some table)
    {id : PlayerId}
    (hid : id ∈ table.occupants) :
    id ∈ t.ids :=
  hc.current.known id (mem_occupied.2 ⟨table, List.mem_of_getElem? hfound, hid⟩)

theorem Coherent.sitsAt
    {t : Tournament}
    (hc : Coherent t)
    {i : Nat}
    {table : Table}
    (hfound : t.tables[i]? = some table)
    {id : PlayerId}
    (hid : id ∈ table.occupants) :
    SitsAt t.tables i id table := by
  refine ⟨hfound, (table.involves_iff id).2 (table.occupants_subset_seats hid), ?_⟩
  intro j other hother hinvolved
  have hnobye := hc.ne_byeId (hc.mem_ids hfound hid)
  exact hc.current.table_unique hother hfound
    (Table.mem_occupants_of_involves hinvolved hnobye) hid

theorem isNone_findPlayer
    {t : Tournament}
    {id : PlayerId}
    (h : id ∈ t.ids) :
    (t.findPlayer id).isNone = false := by
  obtain ⟨p, hp, hpid⟩ := List.mem_map.1 h
  rw [← Bool.not_eq_true, Option.isNone_iff_eq_none, Tournament.findPlayer, List.find?_eq_none]
  intro hnobody
  exact hnobody p hp (by simp [hpid])

/-! ## Scores -/

/-- A table with a score, given from the side of a player. -/
def Table.scored
    (table : Table)
    (id : PlayerId)
    (score : Score) :
    Table :=
  { table with score := some (if table.first = id then score else score.reversed) }

theorem enterScore_of_seated
    {tables : List Table}
    {i : Nat}
    {id : PlayerId}
    {table : Table}
    (h : SitsAt tables i id table)
    (score : Score) :
    Tournament.enterScore id score tables =
      if table.isBye then .error (.byeResult id)
      else .ok (tables.set i (table.scored id score)) := by
  induction tables generalizing i with
  | nil => cases h.found
  | cons first rest ih =>
      cases i with
      | zero =>
          obtain rfl : first = table := Option.some.inj h.found
          simp only [Tournament.enterScore, h.involved, if_true]
          rfl
      | succ i =>
          have hfirst : first.involves id = false := by
            rw [← Bool.not_eq_true]
            intro hinvolved
            have hzero := h.only 0 first rfl hinvolved
            omega
          have hrest : SitsAt rest i id table :=
            ⟨h.found, h.involved, fun j other hother hinvolved =>
              Nat.succ.inj (h.only (j + 1) other hother hinvolved)⟩
          simp only [Tournament.enterScore, hfirst, ih hrest, Bool.false_eq_true, if_false]
          split <;> rfl

end Swiss
end TournamentDesk
