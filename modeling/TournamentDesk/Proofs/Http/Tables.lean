import TournamentDesk.Proofs.Http.Requests
import TournamentDesk.Proofs.Office.Restarts
import TournamentDesk.Proofs.Office.Waiting

/-!
# What is shown of a round

A view of a table gives each seat the name that the roster has for its number, and no name to a number that
the roster does not have. In every run of an office, whatever could not be saved and however often it was
opened again, the tables and the roster in memory belong together, so that no seat is shown without its name.

* `TableView.Shows`: what a view of a table shows if nothing is left out.
* `shows_tableViews`: the views of a coherent tournament.
* `tables_show_names`: what the organizer and everybody else see of the current round.
-/

namespace TournamentDesk

open Storage (Records)
open Swiss (Coherent GoesBy PlayerId Table Tournament)

namespace Office

/-! ## Views of tables -/

/-- A view of a table in which both seats are shown as they are. -/
structure TableView.Shows (t : Tournament) (table : Table) (v : TableView) : Prop where
  firstId : v.firstId = table.first
  secondId : v.secondId = table.second
  score : v.score = table.score
  /-- The first seat shows the name of its player. -/
  first : GoesBy t v.firstId v.first
  /-- The view is that of a bye if it has the number of the bye. -/
  bye : v.isBye = true ↔ v.secondId = Swiss.byeId
  /-- A bye shows its label. -/
  label : v.isBye = true → v.second = byeLabel
  /-- Any other second seat shows the name of its player, who is somebody else. -/
  second : v.isBye = false → GoesBy t v.secondId v.second ∧ v.second ≠ v.first

theorem shows_of
    {t : Tournament}
    (hc : Coherent t)
    {table : Table}
    (htable : table ∈ t.tables) :
    (TableView.of t table).Shows t table := by
  have hids : ∀ id ∈ table.occupants, id ∈ t.ids :=
    fun id hid => hc.current.known id (Swiss.mem_occupied.2 ⟨table, htable, hid⟩)
  have hfirst : table.first ∈ table.occupants := by
    unfold Table.occupants
    split <;> simp [Table.seats]
  obtain ⟨first, hfirstName, hfirstGoes⟩ := hc.goesBy (hids _ hfirst)
  refine ⟨rfl, rfl, rfl, ?_, table.isBye_iff, ?_, ?_⟩
  · simpa [TableView.of, hfirstName] using hfirstGoes
  · intro hbye
    exact if_pos hbye
  · intro hbye
    have hbye : table.isBye = false := hbye
    have hsecond : table.second ∈ table.occupants := by
      simp [Table.occupants_of_not_isBye hbye, Table.seats]
    obtain ⟨second, hsecondName, hsecondGoes⟩ := hc.goesBy (hids _ hsecond)
    have hne : second ≠ first := by
      rintro rfl
      exact hc.current.first_ne_second htable hbye (hc.eq_of_goesBy hfirstGoes hsecondGoes)
    simpa [TableView.of, hbye, hfirstName, hsecondName] using And.intro hsecondGoes hne

/-- Each table of a coherent tournament has one view, in the order of the tables. -/
theorem shows_tableViews
    {t : Tournament}
    (hc : Coherent t) :
    List.Forall₂ (fun table v => TableView.Shows t table v) t.tables (tableViews t) := by
  rw [tableViews, List.forall₂_map_right_iff, List.forall₂_same]
  exact fun table htable => shows_of hc htable

/-- The numbers that views show, seat by seat. -/
def shownIds (vs : List TableView) : List PlayerId :=
  vs.flatMap fun v => [v.firstId, v.secondId]

/-- No number is shown twice. -/
theorem shownIds_nodup
    {t : Tournament}
    (hc : Coherent t) :
    (shownIds (tableViews t)).Nodup := by
  have hseats : shownIds (tableViews t) = t.tables.flatMap Table.seats := by
    rw [shownIds, tableViews, List.flatMap_map]
    rfl
  rw [hseats]
  exact hc.current.seats_nodup hc.roster.byeId_not_mem

/-- The tournament in memory is coherent in every run. -/
theorem Run.coherent
    {log : List Event}
    {o : Office}
    (h : Run log o) :
    Coherent o.tournament := by
  obtain ⟨t, q, hsaved⟩ := h.lastSaved
  exact hsaved.written.2.tournament.coherent

/-! ## A round with a bye -/

/-- The office after somebody has asked to play and has been accepted. -/
def joined (o : Office) (name : String) : Office :=
  ((o.submit Storage.noTrouble springDay name).office.accept Storage.noTrouble name).office

theorem Run.joined
    {log : List Event}
    {o : Office}
    (h : Run log o)
    (name : String) :
    ∃ log', Run log' (o.joined name) := by
  have hsubmit : Does o Storage.noTrouble (.submit springDay name) _ := .submit (by decide)
  have haccept : Does (o.submit Storage.noTrouble springDay name).office Storage.noTrouble
      (.accept name) _ := .accept
  exact ⟨_, (h.step hsubmit).step haccept⟩

/-- The tournament after a verb that is not refused, whether or not it could be saved. -/
theorem run_tournament
    {o : Office}
    {draw : Swiss.Draw}
    {verb : Swiss.Verb}
    {s : Swiss.Step}
    (h : o.tournament.perform draw verb = .ok s)
    (trouble : Storage.Trouble) :
    (o.run trouble draw verb).office.tournament = s.tournament := by
  rcases o.run_cases trouble draw verb with ⟨refusal, hrefused, -⟩ | ⟨done, hdone, heq⟩
  · rw [h] at hrefused
    cases hrefused
  · obtain rfl : s = done := Except.ok.inj (h.symm.trans hdone)
    rw [heq, saveTournament]
    split <;> rfl

/-- An office with three players. -/
def threeEnrolled : Office :=
  ((newOffice.joined "Ann").joined "Bob").joined "Cid"

theorem threeEnrolled_run : ∃ log, Run log threeEnrolled := by
  have hopen : open? Records.empty Storage.noTrouble .uniform = .ok newOffice := rfl
  obtain ⟨_, hann⟩ := (Run.opened hopen).joined "Ann"
  obtain ⟨_, hbob⟩ := hann.joined "Bob"
  exact hbob.joined "Cid"

theorem threeEnrolled_tournament : threeEnrolled.tournament = Swiss.threePlayers := rfl

/-- The office after the first round was drawn, but could not be saved, and Bob has left. -/
def bobLeft : Office :=
  ((threeEnrolled.run noTournamentSaved id .start).office.run Storage.noTrouble id (.remove 2)).office

theorem bobLeft_run : ∃ log, Run log bobLeft := by
  obtain ⟨_, hthree⟩ := threeEnrolled_run
  have hstart : Does threeEnrolled noTournamentSaved (.play id .start) _ :=
    .play Swiss.Draw.fair_id fun _ hadd => by cases hadd
  have hremove : Does (threeEnrolled.run noTournamentSaved id .start).office Storage.noTrouble
      (.play id (.remove 2)) _ :=
    .play Swiss.Draw.fair_id fun _ hadd => by cases hadd
  exact ⟨_, (hthree.step hstart).step hremove⟩

/-- Bob's name stays on the roster, and at his table. -/
theorem bobLeft_views :
    bobLeft.snapshot.tables =
      [⟨1, "Ann", 2, "Bob", false, none⟩, ⟨3, "Cid", -1, "Bye", true, some ⟨2, 0, 0⟩⟩] := by
  have hstart : threeEnrolled.tournament.perform id .start = .ok (.silent Swiss.threeStarted) := by
    rw [threeEnrolled_tournament, Swiss.threePlayers_start]
  have hdrawn := run_tournament hstart noTournamentSaved
  have hremove : (threeEnrolled.run noTournamentSaved id .start).office.tournament.perform id
      (.remove 2) =
        .ok (.silent { Swiss.threeStarted with
          players := [⟨1, "Ann", false⟩, ⟨2, "Bob", true⟩, ⟨3, "Cid", false⟩] }) := by
    rw [hdrawn]
    rfl
  have hleft := run_tournament hremove Storage.noTrouble
  rw [snapshot, bobLeft, hleft]
  rfl

end Office

/-! ## What is answered -/

namespace Http

open Office (Event Run TableView)

namespace Service

/-- Everybody may see the tables of the current round. -/
theorem handle_pairings
    (s : Service)
    (c : Circumstances)
    {r : Request}
    (hmethod : r.method = .get)
    (hpath : r.resource = Endpoint.pairings.path) :
    s.handle c r = (⟨some (r.id c.freshId), .ok (roundTables s.office)⟩, s) := by
  have hhead : r.method ≠ .head := by
    rw [hmethod]
    decide
  have hallowed : Endpoint.pairings.purpose.allows r.method = true := by
    rw [hmethod]
    rfl
  rw [handle_of_open hpath rfl hhead hallowed]
  rfl

/-- No seat is shown without a name, in any run of an office. What the organizer sees has one view for each
table of the current round, in their order. The first seat of each shows the one name that the roster has for
its number, and so does the second one, under another name; only where the second seat has the number of the
bye it shows the label of the bye instead. No number is shown twice. And what everybody is answered who asks
for the tables of the round are the same views. -/
theorem tables_show_names
    {log : List Event}
    {o : Office}
    (h : Run log o) :
    List.Forall₂ (fun table v => TableView.Shows o.tournament table v) o.tournament.tables
      o.snapshot.tables ∧
    (Office.shownIds o.snapshot.tables).Nodup ∧
    ∀ (token : String) (c : Circumstances) (r : Request),
      r.method = .get → r.resource = "/api/v1/pairings" →
        (Service.mk o token).handle c r =
          (⟨some (r.id c.freshId), .ok (.object
            [("round", .int o.tournament.round),
              ("pairings", .array (o.snapshot.tables.map fun v => .object
                [("player_a_id", .int v.firstId), ("player_a", .string v.first),
                  ("player_b_id", .int v.secondId), ("player_b", .string v.second),
                  ("is_bye", .bool v.isBye), ("result", Swiss.optionalScore v.score)]))])⟩,
            ⟨o, token⟩) := by
  refine ⟨Office.shows_tableViews h.coherent, Office.shownIds_nodup h.coherent, ?_⟩
  intro token c r hmethod hpath
  exact handle_pairings ⟨o, token⟩ c hmethod hpath

/-- A round that could not be saved, with a bye and with a player who has left. -/
theorem tables_show_names_bobLeft :
    ∃ log, Run log Office.bobLeft ∧
      Office.bobLeft.snapshot.tables =
        [⟨1, "Ann", 2, "Bob", false, none⟩, ⟨3, "Cid", -1, "Bye", true, some ⟨2, 0, 0⟩⟩] ∧
      List.Forall₂ (fun table v => TableView.Shows Office.bobLeft.tournament table v)
        Office.bobLeft.tournament.tables Office.bobLeft.snapshot.tables ∧
      (Office.shownIds Office.bobLeft.snapshot.tables).Nodup := by
  obtain ⟨log, hrun⟩ := Office.bobLeft_run
  obtain ⟨hshown, honce, -⟩ := tables_show_names hrun
  exact ⟨log, hrun, Office.bobLeft_views, hshown, honce⟩

end Service

end Http
end TournamentDesk
