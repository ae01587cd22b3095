import TournamentDesk.Proofs.Http.Reachable
import TournamentDesk.Proofs.Text.Names

/-!
# Turning down who is listed

A rejection takes the name in its body without the blanks at its ends and then looks for exactly that name.
So whoever is listed is turned down under the listed name if it has no blanks at its ends. An entry whose
name has some cannot be turned down at all, and neither can one whose name makes the body too long.

* `rejected_trimmed`: nobody is ever turned down whose name has blanks at its ends.
* `listed_turned_down`: what a rejection under a listed name comes to.
-/

namespace TournamentDesk

open Registration (Entrant Queue)
open Storage (noTrouble)

/-! ## In the office -/

namespace Office

theorem reject_waiting
    {o : Office}
    (h : o.queue.Unambiguous)
    {i : Nat}
    {e : Entrant}
    (hfound : o.queue.entries[i]? = some e)
    (hpending : e.isPending = true) :
    (o.reject noTrouble e.name).result = .ok () ∧
      (o.reject noTrouble e.name).office =
        { o with
          queue := o.queue.setStatus i .rejected
          records :=
            { o.records with
              queue :=
                some (Registration.entrantsRecord (o.queue.setStatus i .rejected).entries) } } := by
  have hfind := h.findPendingExact_eq_ok hfound hpending
  rcases o.reject_cases noTrouble e.name with
    ⟨refusal, hrefused, -⟩ | ⟨found, e', hfound', -, -, -, heq⟩
  · rw [hfind] at hrefused
    cases hrefused
  · rw [hfind] at hfound'
    cases hfound'
    rw [heq]
    exact o.settle_saved rfl _

/-- An entry is not found under its trimmed name if it has blanks at its ends, and neither is any other. -/
theorem reject_padded
    {o : Office}
    (h : o.queue.Unambiguous)
    {i : Nat}
    {e : Entrant}
    (hfound : o.queue.entries[i]? = some e)
    (hpending : e.isPending = true)
    (hpadded : Text.trim e.name ≠ e.name) :
    o.reject noTrouble (Text.trim e.name) =
      .refused o (.registration (.notFound (Text.trim e.name) o.queue.pendingNames)) := by
  have hnone : ∀ a ∈ o.queue.entries, a.isPending = true → a.name ≠ Text.trim e.name := by
    intro a ha hwaits hname
    obtain ⟨j, hj⟩ := List.mem_iff_getElem?.1 ha
    have hsame : Text.sameName a.name e.name = true := by
      rw [Text.sameName_iff, hname, Text.normalForm_trim]
    -- nobody else waits under a name that counts as the same
    obtain rfl := h j i a e hj hfound hwaits hpending hsame
    rw [hfound] at hj
    cases hj
    exact hpadded hname.symm
  rw [reject, Queue.findPendingExact_eq_error hnone]

end Office

namespace Http

/-! ## Who is ever turned down -/

/-- Whoever has been turned down has a name without blanks at its ends. -/
def RejectedTrimmed (q : Queue) : Prop :=
  ∀ e ∈ q.entries, e.status = .rejected → Text.trim e.name = e.name

theorem RejectedTrimmed.push
    {q : Queue}
    (h : RejectedTrimmed q)
    (name : String)
    (now : Time.Instant) :
    RejectedTrimmed (q.push name now) :=
  Queue.forall_push h fun hstatus => by cases hstatus

theorem RejectedTrimmed.setStatus
    {q : Queue}
    (h : RejectedTrimmed q)
    {i : Nat}
    {e : Entrant}
    (hfound : q.entries[i]? = some e)
    {s : Registration.Status}
    (hs : s = .rejected → Text.trim e.name = e.name) :
    RejectedTrimmed (q.setStatus i s) := by
  refine Queue.forall_setStatus h ?_
  intro e' he'
  rw [hfound] at he'
  cases he'
  exact hs

theorem Request.trim_of_readTrimmedName
    {r : Request}
    {name : String}
    (h : r.readTrimmedName = .ok name) :
    Text.trim name = name := by
  unfold Request.readTrimmedName at h
  split at h
  · cases h
  · split at h <;> cases h
    exact Text.trim_trim _

theorem Endpoint.trim_of_action
    {e : Endpoint}
    {r : Request}
    {name : String}
    (h : e.action r = .ok (.reject name)) :
    Text.trim name = name := by
  cases e with
  | reject =>
      obtain ⟨name', hname', hreject⟩ := Swiss.except_map_eq_ok h
      cases hreject
      exact Request.trim_of_readTrimmedName hname'
  | register | accept | results | pair | removePlayer =>
      obtain ⟨a, -, ha⟩ := Swiss.except_map_eq_ok h
      cases ha
  | _ => cases h

/-- An action turns nobody down but under a name that the request gives without blanks at its ends. -/
theorem RejectedTrimmed.act
    {o : Office}
    (h : RejectedTrimmed o.queue)
    {c : Circumstances}
    (hc : c.trouble = noTrouble)
    {e : Endpoint}
    {r : Request}
    {a : Action}
    (ha : e.action r = .ok a) :
    RejectedTrimmed (act o c a).office.queue := by
  cases a with
  | register name =>
      rw [Http.act, Served.ofOutcome_office, hc]
      rcases o.submit_cases noTrouble c.now name with ⟨refusal, -, heq⟩ | ⟨-, heq⟩ <;> rw [heq]
      · exact h
      · rw [(o.settle_saved rfl _).2]
        exact h.push name c.now
  | accept name =>
      rw [Http.act, Served.ofOutcome_office, hc]
      rcases o.accept_cases noTrouble name with
        ⟨refusal, -, heq⟩ | ⟨found, e, -, hfound, -, -, ⟨refusal, -, heq⟩ | ⟨tournament, id, -, heq⟩⟩ <;>
        rw [heq]
      · exact h
      · exact h
      · rw [(o.commit_saved rfl rfl e.name tournament id _).2]
        exact h.setStatus hfound fun hstatus => by cases hstatus
  | reject name =>
      rw [Http.act, Served.ofOutcome_office, hc]
      rcases o.reject_cases noTrouble name with
        ⟨refusal, -, heq⟩ | ⟨found, e, -, hfound, -, hnamed, heq⟩ <;> rw [heq]
      · exact h
      · rw [(o.settle_saved rfl _).2]
        refine h.setStatus hfound fun _ => ?_
        rw [hnamed]
        exact Endpoint.trim_of_action ha
  | change verb =>
      rw [Http.act, Served.ofOutcome_office, hc]
      rcases o.run_cases noTrouble c.draw verb with ⟨refusal, -, heq⟩ | ⟨s, -, heq⟩ <;> rw [heq]
      · exact h
      · rw [(Office.saveTournament_saved _ rfl s.answer).2]
        exact h
  | _ => exact h

namespace Service

/-- In no state of a service while all goes well has anybody been turned down whose name has blanks at its
ends. -/
theorem Reachable.rejected_trimmed
    {s : Service}
    (h : s.Reachable) :
    RejectedTrimmed s.office.queue := by
  induction h with
  | @opened policy o token hopen =>
      obtain ⟨-, hqueue, -⟩ := Office.open?_eq_ok hopen
      have hempty : Queue.empty = o.queue := Except.ok.inj hqueue
      intro e he
      rw [← hempty] at he
      cases he
  | @answered s c hs hc r ih =>
      rcases s.handle_cases c r with heq | ⟨e, a, -, -, -, ha, heq⟩ <;> rw [heq]
      · exact ih
      · exact ih.act hc.records ha

/-! ## One rejection -/

/-- The service after the entry at a position has been turned down, in memory and in the record. -/
def turnDown (s : Service) (i : Nat) : Service :=
  let queue := s.office.queue.setStatus i .rejected
  let record := Registration.entrantsRecord queue.entries
  { s with office := { s.office with queue, records := { s.office.records with queue := some record } } }

theorem serve_reject
    {s : Service}
    {c : Circumstances}
    {r : Request}
    {name : String}
    (hname : r.readBody readName = .ok name)
    (hvisible : Text.isBlank name = false) :
    Endpoint.reject.serve s.office c r =
      .ofOutcome (s.office.reject c.trouble (Text.trim name)) fun _ _ =>
        .ok (rejected (Text.trim name)) := by
  have hread := Request.readTrimmedName_of_readBody hname hvisible
  rw [Endpoint.serve, Endpoint.action, hread]
  rfl

/-- Whoever is listed is turned down under exactly the listed name if it has no blanks at its ends: this
entry and no other, in memory and in the record. Under a name with blanks at its ends nobody is found, and
nothing changes. Neither does anything if the body is too long to be read. -/
theorem listed_turned_down
    {s : Service}
    (h : s.Reachable)
    {c : Circumstances}
    (hc : c.Healthy)
    {look deny : Request}
    (hlook : look.Asks s.token .get .pending)
    (hdeny : deny.Asks s.token .post .reject) :
    s.handle c look =
        (⟨some (look.id c.freshId), .ok (.array (s.office.queue.pending.map Entrant.toJson))⟩, s) ∧
      ∀ e ∈ s.office.queue.pending, deny.Holds readName e.name →
        ∃ i, s.office.queue.entries[i]? = some e ∧
          (deny.body.size ≤ maxBodySize → Text.trim e.name = e.name →
            s.handle c deny = (⟨some (deny.id c.freshId), .ok (rejected e.name)⟩, s.turnDown i) ∧
              Office.readQueue s.office.records.queue = .ok s.office.queue ∧
              Office.readQueue (s.turnDown i).office.records.queue =
                .ok (s.office.queue.setStatus i .rejected)) ∧
          (deny.body.size ≤ maxBodySize → Text.trim e.name ≠ e.name →
            s.handle c deny =
              (⟨some (deny.id c.freshId),
                problemAnswer (.registration
                  (.notFound (Text.trim e.name) s.office.queue.pendingNames))⟩, s)) ∧
          (maxBodySize < deny.body.size →
            s.handle c deny = (⟨some (deny.id c.freshId), Defect.tooLong.answer⟩, s)) := by
  refine ⟨handle_of_asks hlook (by decide) rfl c, ?_⟩
  intro e he hholds
  obtain ⟨hmem, hpending⟩ := List.mem_filter.1 he
  obtain ⟨i, hi⟩ := List.mem_iff_getElem?.1 hmem
  have horderly := h.orderly
  have hhandle := handle_of_asks hdeny (by decide) rfl c
  have hserved (hshort : deny.body.size ≤ maxBodySize) :
      Endpoint.reject.serve s.office c deny =
        .ofOutcome (s.office.reject noTrouble (Text.trim e.name)) fun _ _ =>
          .ok (rejected (Text.trim e.name)) := by
    have hread : deny.readBody readName = .ok e.name :=
      Request.readBody_eq_ok_iff.2 ⟨hholds, hshort⟩
    rw [serve_reject hread (horderly.named e hmem), hc.records]
  refine ⟨i, hi, ?_, ?_, ?_⟩
  · intro hshort htrim
    obtain ⟨hresult, hoffice⟩ := Office.reject_waiting horderly.once hi hpending
    have hturned : s.handle c deny =
        (⟨some (deny.id c.freshId), .ok (rejected e.name)⟩, s.turnDown i) := by
      rw [hhandle, hserved hshort, htrim, Served.ofOutcome_office, hoffice]
      simp only [Served.ofOutcome, hresult]
      rfl
    refine ⟨hturned, h.readQueue, ?_⟩
    have hafter := (Reachable.answered h hc deny).readQueue
    rw [hturned] at hafter
    exact hafter
  · intro hshort hpadded
    rw [hhandle, hserved hshort, Office.reject_padded horderly.once hi hpending hpadded]
    rfl
  · intro hlong
    exact handle_of_tooLong hdeny rfl hholds.declared hlong c

/-- A service at which one request to play has been made. -/
def withOneRequest (name : String) : Service :=
  (handle ⟨Office.newOffice, "secret"⟩ calm (unsigned "/api/v1/register" name)).2

theorem calm_healthy : calm.Healthy :=
  ⟨rfl, Swiss.Draw.fair_id, by decide⟩

theorem withOneRequest_reachable (name : String) : (withOneRequest name).Reachable :=
  .answered (.opened rfl) calm_healthy _

/-- A request for the list of those who wait. -/
def listing : Request :=
  ⟨.get, "/api/v1/admin/pending", [⟨"Authorization", "Bearer secret".toUTF8⟩], ByteArray.empty⟩

/-- A request to turn down somebody. -/
def denial (name : String) : Request :=
  signed "secret" "/api/v1/admin/reject" name

theorem listing_asks (name : String) : listing.Asks (withOneRequest name).token .get .pending := by
  rw [withOneRequest, handle_token]
  exact ⟨rfl, by decide +kernel, by decide +kernel⟩

theorem ann_entries :
    (withOneRequest "Ann").office.queue.entries = [⟨"Ann", .pending, some calm.now⟩] := by
  decide +kernel

theorem ann_position
    {i : Nat}
    {e : Entrant}
    (h : (withOneRequest "Ann").office.queue.entries[i]? = some e) :
    i = 0 := by
  rw [ann_entries] at h
  exact Nat.lt_one_iff.1 (List.getElem?_eq_some_iff.1 h).1

theorem ann_waits : ⟨"Ann", .pending, some calm.now⟩ ∈ (withOneRequest "Ann").office.queue.pending := by
  rw [Queue.pending, ann_entries]
  exact List.mem_singleton_self _

/-- Ann is turned down. -/
theorem listed_turned_down_ann :
    (withOneRequest "Ann").Reachable ∧
      (withOneRequest "Ann").office.queue.entries = [⟨"Ann", .pending, some calm.now⟩] ∧
      (withOneRequest "Ann").handle calm (denial "Ann") =
        (⟨some "1", .ok (rejected "Ann")⟩, (withOneRequest "Ann").turnDown 0) := by
  have hreachable := withOneRequest_reachable "Ann"
  have hdeny : (denial "Ann").Asks (withOneRequest "Ann").token .post .reject :=
    ⟨rfl, by decide +kernel, by decide +kernel⟩
  obtain ⟨-, hlisted⟩ := listed_turned_down hreachable calm_healthy (listing_asks "Ann") hdeny
  obtain ⟨i, hi, hturned, -⟩ :=
    hlisted _ ann_waits ⟨by decide +kernel, by decide +kernel⟩
  obtain ⟨hanswer, -⟩ := hturned (by decide +kernel) (by decide +kernel)
  have hid : (denial "Ann").id calm.freshId = "1" := by decide +kernel
  obtain rfl := ann_position hi
  rw [hid] at hanswer
  exact ⟨hreachable, ann_entries, hanswer⟩

/-- A request to turn down " ann", which is listed, is answered that nobody waits under that name, and " ann"
still waits. -/
theorem padded_listed_stays :
    (withOneRequest " ann").Reachable ∧ calm.Healthy ∧
      listing.Asks (withOneRequest " ann").token .get .pending ∧
      (denial " ann").Asks (withOneRequest " ann").token .post .reject ∧
      (denial " ann").readBody readName = .ok " ann" ∧
      (withOneRequest " ann").office.queue.pending = [⟨" ann", .pending, some calm.now⟩] ∧
      ((withOneRequest " ann").handle calm (denial " ann")).1.answer.status = .notFound ∧
      ((withOneRequest " ann").handle calm (denial " ann")).2.office.queue.pending =
        [⟨" ann", .pending, some calm.now⟩] :=
  ⟨withOneRequest_reachable " ann", calm_healthy, listing_asks " ann",
    ⟨rfl, by decide +kernel, by decide +kernel⟩, by decide +kernel, by decide +kernel,
    by decide +kernel, by decide +kernel⟩

end Service

end Http
end TournamentDesk
