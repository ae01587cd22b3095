import TournamentDesk.Proofs.Swiss.Progress
import TournamentDesk.Proofs.Swiss.Refusals

/-!
# Reports of results

A report is put on the first table that its player sits at. In a tournament that verbs can make, a player
sits at one table only and across from somebody else. So it does not matter which of the two players of a
match reports it, or in which order different matches are reported, and of several reports of one match
the last one counts.

* `report_of_seated`: a report comes to a verdict, and then at most the score of one table changes.
* `reports_consistent`: reports of one match and of different ones.
-/

namespace TournamentDesk
namespace Swiss

/-- The answer to a report, and the tournament after it. -/
def Tournament.report
    (t : Tournament)
    (id : PlayerId)
    (score : Score) :
    Except Refusal Unit × Tournament :=
  match (recording id score).run t with
  | .ok _ t' => (.ok (), t')
  | .error refusal t' => (.error refusal, t')

/-- A report that is refused changes nothing. -/
theorem report_eq
    (t : Tournament)
    (id : PlayerId)
    (score : Score) :
    t.report id score =
      match t.recordResult id score with
      | .ok t' => (.ok (), t')
      | .error refusal => (.error refusal, t) := by
  unfold Tournament.report
  cases h : t.recordResult id score with
  | ok t' => rw [Deed.run_of_makes h]
  | error refusal => rw [(Tournament.recording_careful id score).run_of_makes h]

/-- The tournament with a table in the place of the `i`-th one. -/
def Tournament.withTable
    (t : Tournament)
    (i : Nat)
    (table : Table) :
    Tournament :=
  { t with tables := t.tables.set i table }

/-! ## Scores from both sides -/

@[simp] theorem Score.reversed_reversed (score : Score) : score.reversed.reversed = score :=
  rfl

theorem Score.games_reversed (score : Score) : score.reversed.games = score.games := by
  simp only [Score.games, Score.reversed]
  omega

theorem checkScore_reversed (score : Score) :
    Tournament.checkScore score.reversed = Tournament.checkScore score := by
  simp only [Tournament.checkScore, Score.games_reversed]

/-- A score is seen by the player who gives it as it was given. -/
theorem Table.scoreFor_scored
    {table : Table}
    {id : PlayerId}
    (h : table.involves id = true)
    (score : Score) :
    (table.scored id score).scoreFor id = some score := by
  simp only [Table.involves, Bool.or_eq_true, decide_eq_true_eq] at h
  by_cases hfirst : table.first = id
  · simp [Table.scoreFor, Table.scored, hfirst]
  · simp [Table.scoreFor, Table.scored, hfirst, h.resolve_left hfirst]

/-! ## One report -/

/-- A score on a table changes nobody's place. -/
theorem SitsAt.scored
    {tables : List Table}
    {i j : Nat}
    {p q : PlayerId}
    {a b : Table}
    (h : SitsAt tables j q b)
    (ha : tables[i]? = some a)
    (score : Score) :
    SitsAt (tables.set i (a.scored p score)) j q (if i = j then a.scored p score else b) := by
  have hi : i < tables.length := (List.getElem?_eq_some_iff.1 ha).1
  have hplaces : ∀ k : Nat, (tables.set i (a.scored p score))[k]? =
      if i = k then some (a.scored p score) else tables[k]? := by
    intro k
    rw [List.getElem?_set]
    by_cases hik : i = k
    · subst hik
      rw [if_pos rfl, if_pos hi, if_pos rfl]
    · rw [if_neg hik, if_neg hik]
  constructor
  · rw [hplaces]
    split
    · rfl
    · exact h.found
  · split
    · next hij =>
      subst hij
      obtain rfl : a = b := Option.some.inj (ha.symm.trans h.found)
      exact h.involved
    · exact h.involved
  · intro k other hother hinvolved
    rw [hplaces] at hother
    split at hother
    · next hik =>
      cases hother
      exact hik.symm.trans (h.only i a ha hinvolved)
    · exact h.only k other hother hinvolved

/-- What is answered to the report of a player who sits at a table. -/
def Tournament.verdict
    (t : Tournament)
    (id : PlayerId)
    (score : Score)
    (table : Table) :
    Except Refusal Unit := do
  t.require .inProgress
  checkScore score
  if (t.findPlayer id).isNone then .error (.unknownPlayer id)
  else if table.isBye then .error (.byeResult id)
  else .ok ()

/-- A report comes to a verdict, and an accepted one changes the score of one table. -/
theorem report_of_seated
    {t : Tournament}
    {i : Nat}
    {id : PlayerId}
    {table : Table}
    (h : SitsAt t.tables i id table)
    (score : Score) :
    t.report id score =
      (t.verdict id score table,
        if (t.verdict id score table).isOk then t.withTable i (table.scored id score) else t) := by
  rw [report_eq, Tournament.recordResult_eq, enterScore_of_seated h score]
  unfold Tournament.verdict
  cases t.require .inProgress with
  | error refusal => rfl
  | ok _ =>
      cases Tournament.checkScore score with
      | error refusal => rfl
      | ok _ =>
          by_cases hknown : (t.findPlayer id).isNone = true
          · simp only [hknown, if_true]
            rfl
          · by_cases hbye : table.isBye = true
            · simp only [hknown, hbye, if_true]
              rfl
            · simp only [hknown, hbye]
              rfl

/-- A verdict does not look at scores that are known already. -/
theorem verdict_withTable
    (t : Tournament)
    (i : Nat)
    (changed : Table) :
    (t.withTable i changed).verdict = t.verdict :=
  rfl

theorem verdict_scored
    (t : Tournament)
    (id : PlayerId)
    (score : Score)
    (table : Table)
    (other : PlayerId)
    (earlier : Score) :
    t.verdict id score (table.scored other earlier) = t.verdict id score table :=
  rfl

/-! ## Two reports -/

/-- The two players of a match report it alike. -/
theorem report_reversed
    {t : Tournament}
    (hc : Coherent t)
    {i : Nat}
    {table : Table}
    (hfound : t.tables[i]? = some table)
    (hbye : table.isBye = false)
    (score : Score) :
    t.report table.first score = t.report table.second score.reversed := by
  have hseats := Table.occupants_of_not_isBye hbye
  have hfirst : table.first ∈ table.occupants := by simp [hseats, Table.seats]
  have hsecond : table.second ∈ table.occupants := by simp [hseats, Table.seats]
  have hne : table.first ≠ table.second :=
    hc.current.first_ne_second (List.mem_of_getElem? hfound) hbye
  have hscored : table.scored table.second score.reversed = table.scored table.first score := by
    simp [Table.scored, hne]
  have hverdict : t.verdict table.second score.reversed table = t.verdict table.first score table := by
    have hknown := isNone_findPlayer (hc.mem_ids hfound hfirst)
    have hknown' := isNone_findPlayer (hc.mem_ids hfound hsecond)
    simp only [Tournament.verdict, checkScore_reversed, hknown, hknown', hbye]
    rfl
  rw [report_of_seated (hc.sitsAt hfound hfirst), report_of_seated (hc.sitsAt hfound hsecond),
    hscored, hverdict]

/-- Reports of players at different tables do not depend on each other. -/
theorem report_comm
    {t : Tournament}
    {i j : Nat}
    {p q : PlayerId}
    {a b : Table}
    (hp : SitsAt t.tables i p a)
    (hq : SitsAt t.tables j q b)
    (hij : i ≠ j)
    (score score' : Score) :
    ((t.report p score).2.report q score').1 = (t.report q score').1 ∧
      ((t.report p score).2.report q score').2 = ((t.report q score').2.report p score).2 := by
  have hq' : SitsAt (t.withTable i (a.scored p score)).tables j q b := by
    have hstill := hq.scored (p := p) hp.found score
    rwa [if_neg hij] at hstill
  have hp' : SitsAt (t.withTable j (b.scored q score')).tables i p a := by
    have hstill := hp.scored (p := q) hq.found score'
    rwa [if_neg hij.symm] at hstill
  have hset : (t.withTable i (a.scored p score)).withTable j (b.scored q score') =
      (t.withTable j (b.scored q score')).withTable i (a.scored p score) := by
    simp only [Tournament.withTable]
    rw [List.set_comm _ _ hij]
  rw [report_of_seated hp, report_of_seated hq]
  -- each of the two may be accepted or refused
  cases hfirst : (t.verdict p score a).isOk <;> cases hsecond : (t.verdict q score' b).isOk <;>
    simp only [Bool.false_eq_true, if_true, if_false, report_of_seated hp, report_of_seated hq,
      report_of_seated hp', report_of_seated hq', verdict_withTable, hfirst, hsecond, hset, and_self]

/-- Of two reports for one table that are accepted, the later one counts. -/
theorem report_again
    {t : Tournament}
    {i : Nat}
    {p q : PlayerId}
    {table : Table}
    (hp : SitsAt t.tables i p table)
    (hq : SitsAt t.tables i q table)
    {score score' : Score}
    (hfirst : (t.report p score).1 = .ok ())
    (hsecond : ((t.report p score).2.report q score').1 = .ok ()) :
    (t.report p score).2.report q score' = t.report q score' := by
  have hq' : SitsAt (t.withTable i (table.scored p score)).tables i q (table.scored p score) := by
    have hstill := hq.scored (p := p) hp.found score
    rwa [if_pos rfl] at hstill
  have hset : (t.withTable i (table.scored p score)).withTable i
      ((table.scored p score).scored q score') = t.withTable i (table.scored q score') := by
    simp only [Tournament.withTable]
    rw [List.set_set]
    rfl
  rw [report_of_seated hp] at hfirst hsecond ⊢
  simp only at hfirst
  simp only [hfirst, Except.isOk, Except.toBool, if_true] at hsecond ⊢
  rw [report_of_seated hq', verdict_withTable, verdict_scored] at hsecond ⊢
  simp only at hsecond
  rw [report_of_seated hq, hsecond, hset]
  rfl

/-! ## Reports in any tournament -/

theorem recordResult_of_report
    {t : Tournament}
    {id : PlayerId}
    {score : Score}
    (h : (t.report id score).1 = .ok ()) :
    t.recordResult id score = .ok (t.report id score).2 := by
  rw [report_eq] at h ⊢
  split at h
  · next t' heq => rw [heq]
  · cases h

/-- A report that is accepted sets the score of one table, and nothing else changes. -/
theorem report_accepted
    {t : Tournament}
    {id : PlayerId}
    {score : Score}
    (h : (t.report id score).1 = .ok ()) :
    ∃ (i : Nat) (table : Table),
      t.tables[i]? = some table ∧
        table.involves id = true ∧
        table.isBye = false ∧
        (t.report id score).2 = t.withTable i (table.scored id score) := by
  have hperform : t.perform (fun ids => ids) (.record id score) =
      .ok (.silent (t.report id score).2) := by
    simp only [Tournament.perform_eq, recordResult_of_report h]
    rfl
  generalize (t.report id score).2 = t' at hperform
  cases perform_effect hperform with
  | @recorded _ _ before after table _ _ _ _ found _ involved no_bye =>
      refine ⟨before.length, table, by simp [found], involved, no_bye, ?_⟩
      simp [Tournament.withTable, found, Table.scored]

/-- Reports of results are consistent in every tournament that verbs can make. The two players of a match
report it alike. Reports of players at different tables can be made in either order, with the same answers
and the same tournament in the end, whether they are accepted or refused. Of two accepted reports of one
match the later one counts, as if it were the only one. And an accepted report changes the score of the
player's table to the one that was reported, seen from the player's side, and nothing else. -/
theorem reports_consistent
    {t : Tournament}
    (h : Reachable t) :
    (∀ table ∈ t.tables, table.isBye = false → ∀ score : Score,
      t.report table.first score = t.report table.second score.reversed) ∧
    (∀ (i j : Nat) (a b : Table), t.tables[i]? = some a → t.tables[j]? = some b → i ≠ j →
      ∀ p ∈ a.occupants, ∀ q ∈ b.occupants, ∀ score score' : Score,
        ((t.report p score).2.report q score').1 = (t.report q score').1 ∧
        ((t.report q score').2.report p score).1 = (t.report p score).1 ∧
        ((t.report p score).2.report q score').2 = ((t.report q score').2.report p score).2) ∧
    (∀ table ∈ t.tables, ∀ p ∈ table.occupants, ∀ q ∈ table.occupants, ∀ score score' : Score,
      (t.report p score).1 = .ok () → ((t.report p score).2.report q score').1 = .ok () →
        (t.report p score).2.report q score' = t.report q score') ∧
    ∀ (id : PlayerId) (score : Score), (t.report id score).1 = .ok () →
      ∃ (i : Nat) (table : Table) (entered : Score),
        t.tables[i]? = some table ∧ id ∈ table.seats ∧ table.isBye = false ∧
        ({ table with score := some entered } : Table).scoreFor id = some score ∧
        (t.report id score).2 =
          { t with tables := t.tables.set i { table with score := some entered } } := by
  have hc := h.coherent
  refine ⟨?_, ?_, ?_, ?_⟩
  · intro table htable hbye score
    obtain ⟨i, hi⟩ := List.mem_iff_getElem?.1 htable
    exact report_reversed hc hi hbye score
  · intro i j a b ha hb hij p hp q hq score score'
    have hpa := hc.sitsAt ha hp
    have hqb := hc.sitsAt hb hq
    obtain ⟨hsecond, hboth⟩ := report_comm hpa hqb hij score score'
    obtain ⟨hfirst, -⟩ := report_comm hqb hpa hij.symm score' score
    exact ⟨hsecond, hfirst, hboth⟩
  · intro table htable p hp q hq score score' hfirst hsecond
    obtain ⟨i, hi⟩ := List.mem_iff_getElem?.1 htable
    exact report_again (hc.sitsAt hi hp) (hc.sitsAt hi hq) hfirst hsecond
  · intro id score haccepted
    obtain ⟨i, table, hfound, hinvolved, hbye, hafter⟩ := report_accepted haccepted
    exact ⟨i, table, _, hfound, (table.involves_iff id).1 hinvolved, hbye,
      Table.scoreFor_scored hinvolved score, hafter⟩

/-- The loser's report counts as the winner's. A player who has left and one who still plays report at
different tables, one of them with a score that is refused. The winner's correction stands alone. -/
theorem reports_consistent_cidLeft :
    Reachable cidLeft ∧
      cidLeft.report 1 ⟨2, 0, 1⟩ = cidLeft.report 3 ⟨0, 2, 1⟩ ∧
      ((cidLeft.report 3 ⟨0, 2, 1⟩).2.report 2 ⟨0, 0, 0⟩).1 = .error (.invalidResult .noGames) ∧
      ((cidLeft.report 3 ⟨0, 2, 1⟩).2.report 2 ⟨0, 0, 0⟩).2 =
        ((cidLeft.report 2 ⟨0, 0, 0⟩).2.report 3 ⟨0, 2, 1⟩).2 ∧
      (cidLeft.report 3 ⟨0, 2, 1⟩).2.report 1 ⟨2, 1, 0⟩ =
        (.ok (), { cidLeft with tables := [⟨1, 3, some ⟨2, 1, 0⟩⟩, .fresh 2 4] }) := by
  obtain ⟨halike, hapart, hagain, -⟩ := reports_consistent cidLeft_reachable
  obtain ⟨hrefused, -, hboth⟩ := hapart 0 1 (.fresh 1 3) (.fresh 2 4) rfl rfl (by decide) 3 (by decide) 2
    (by decide) ⟨0, 2, 1⟩ ⟨0, 0, 0⟩
  have hcorrected := hagain (.fresh 1 3) (by simp [cidLeft]) 3 (by decide) 1 (by decide) ⟨0, 2, 1⟩
    ⟨2, 1, 0⟩ rfl rfl
  exact ⟨cidLeft_reachable, halike (.fresh 1 3) (by simp [cidLeft]) rfl ⟨2, 0, 1⟩, hrefused, hboth,
    hcorrected⟩

end Swiss
end TournamentDesk
