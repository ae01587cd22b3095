import TournamentDesk.Proofs.Swiss.Places

/-!
# Numbers and names are for good

A player keeps number and name for good: verbs only add entries at the end of the roster or mark players
as removed. So a number stands for the same name in every later tournament.

* `Effect.roster_prefix`: the roster before a verb is the beginning of the roster after it.
* `playerName_of_prefix`: a number that stands for a name keeps standing for it.
* `Coherent.goesBy`: a number of the roster stands for one name, and a name has one number.
-/

namespace TournamentDesk
namespace Swiss

/-- Numbers and names of the players, removed ones included. -/
def Tournament.roster (t : Tournament) : List (PlayerId × String) :=
  t.players.map fun p => (p.id, p.name)

theorem playerName_eq_find
    (t : Tournament)
    (id : PlayerId) :
    t.playerName id = (t.roster.find? fun entry => entry.1 = id).map Prod.snd := by
  simp only [Tournament.playerName, Tournament.findPlayer, Tournament.roster, List.find?_map,
    Option.map_map]
  rfl

theorem playerName_of_prefix
    {t t' : Tournament}
    (h : t.roster <+: t'.roster)
    {id : PlayerId}
    {name : String}
    (hname : t.playerName id = some name) :
    t'.playerName id = some name := by
  rw [playerName_eq_find] at hname ⊢
  obtain ⟨entry, hentry, hsecond⟩ := Option.map_eq_some_iff.1 hname
  rw [h.find?_eq_some hentry]
  exact congrArg some hsecond

theorem roster_of_addPlayer
    {t t' : Tournament}
    {name : String}
    {id : PlayerId}
    (h : t.addPlayer name = .ok (t', id)) :
    t'.roster = t.roster ++ [(id, name)] := by
  obtain ⟨-, -, -, heq⟩ := addPlayer_eq_ok h
  cases heq
  simp [Tournament.roster]

/-- A player who is added has the number that was given. -/
theorem playerName_of_addPlayer
    {t t' : Tournament}
    (hcoherent : Coherent t)
    {name : String}
    {id : PlayerId}
    (h : t.addPlayer name = .ok (t', id)) :
    t'.playerName id = some name := by
  have hnew : (t.roster.find? fun entry => entry.1 = id) = none := by
    rw [List.find?_eq_none]
    intro entry hentry
    obtain ⟨p, hp, rfl⟩ := List.mem_map.1 hentry
    have hrange := (hcoherent.roster.mem_ids_iff p.id).1 (List.mem_map_of_mem hp)
    obtain ⟨-, -, -, heq⟩ := addPlayer_eq_ok h
    cases heq
    rw [decide_eq_true_eq]
    intro hsame
    simp only at hsame
    lia
  rw [playerName_eq_find, roster_of_addPlayer h, List.find?_append, hnew]
  simp

/-! ## Who goes by which name -/

/-- A number stands for one name on the roster, and the name is not blank. -/
structure GoesBy (t : Tournament) (id : PlayerId) (name : String) : Prop where
  listed : (id, name) ∈ t.roster
  only : ∀ other, (id, other) ∈ t.roster → other = name
  visible : Text.isBlank name = false

theorem mem_roster_iff
    (t : Tournament)
    (id : PlayerId)
    (name : String) :
    (id, name) ∈ t.roster ↔ ∃ p ∈ t.players, p.id = id ∧ p.name = name := by
  simp [Tournament.roster]

/-- Whoever is on the roster is found there under one name. -/
theorem Coherent.goesBy
    {t : Tournament}
    (hc : Coherent t)
    {id : PlayerId}
    (hid : id ∈ t.ids) :
    ∃ name, t.playerName id = some name ∧ GoesBy t id name := by
  have hknown : (t.findPlayer id).isSome = true := by
    rw [← Option.not_isNone, Bool.not_eq_true', isNone_findPlayer hid]
  obtain ⟨p, hp⟩ := Option.isSome_iff_exists.1 hknown
  have hmem : p ∈ t.players := List.mem_of_find?_eq_some hp
  have hpid : p.id = id := by simpa using List.find?_some hp
  refine ⟨p.name, by rw [Tournament.playerName, hp]; rfl, ?_, ?_, hc.roster.visible p hmem⟩
  · exact (mem_roster_iff t id p.name).2 ⟨p, hmem, hpid, rfl⟩
  · intro other hother
    obtain ⟨q, hq, hqid, rfl⟩ := (mem_roster_iff t id other).1 hother
    rw [List.inj_on_of_nodup_map hc.roster.ids_nodup hq hmem (hqid.trans hpid.symm)]

/-- A name on the roster has one number. -/
theorem Coherent.eq_of_goesBy
    {t : Tournament}
    (hc : Coherent t)
    {id other : PlayerId}
    {name : String}
    (h : GoesBy t id name)
    (hother : GoesBy t other name) :
    id = other := by
  obtain ⟨p, hp, rfl, hpname⟩ := (mem_roster_iff t id name).1 h.listed
  obtain ⟨q, hq, rfl, hqname⟩ := (mem_roster_iff t other name).1 hother.listed
  rw [List.inj_on_of_nodup_map hc.roster.distinct hp hq (hpname.trans hqname.symm)]

/-- Verbs keep the roster as it is, or add to its end. -/
theorem Effect.roster_prefix
    {t : Tournament}
    {draw : Draw}
    {verb : Verb}
    {s : Step}
    (h : Effect t draw verb s) :
    t.roster <+: s.tournament.roster := by
  cases h with
  | added visible unfinished new => simp [Tournament.roster]
  | removed found number active => simp [Step.silent, Tournament.roster, found]
  | _ => exact List.prefix_refl _

end Swiss
end TournamentDesk
