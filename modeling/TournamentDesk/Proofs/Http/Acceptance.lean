import TournamentDesk.Proofs.Http.Rejection
import TournamentDesk.Proofs.Json.Records
import TournamentDesk.Proofs.Office.Acceptance
import TournamentDesk.Proofs.Office.Spelling
import TournamentDesk.Proofs.Swiss.Roster

/-!
# Accepting who is listed

An acceptance takes the name in its body without the blanks at its ends and looks for an entry up to case
and blanks. While all goes well nobody waits under the name of a player, so whoever is listed is taken by the
tournament, whatever the spelling in the request. Only a spelling that makes the body too long is turned away.

* `waits_trimmed`: trimming a name changes nothing about who waits under it.
* `Reachable.taken`: the tournament takes whoever waits.
* `listed_accepted`: what an acceptance of a listed entry comes to.
* `long_spelling_turned_away`: a spelling with too many blanks is answered with nothing done.
-/

namespace TournamentDesk

open Registration (Entrant)

namespace Http

open Office (ReadsAs Waits)

/-- Whoever waits under a name waits under it without the blanks at its ends, too. -/
theorem waits_trimmed
    {q : Registration.Queue}
    {name : String}
    {i : Nat}
    {e : Entrant}
    (h : Waits q name i e) :
    Waits q (Text.trim name) i e :=
  ⟨h.found, h.pending, h.named.trans (Text.normalForm_trim name).symm⟩

/-! ## A request to accept -/

theorem readName_object (name : String) :
    readName (Json.Value.object [("name", .string name)]).reading = .ok name :=
  Json.readRecord_of_holds (.cons (Json.readText_string name) .nil) (by decide) _

theorem declaresJson_signed (token target name : String) :
    (Service.signed token target name).declaresJson = true := by
  have htoken : "Authorization".toLower ≠ "content-type" := by decide +kernel
  have htype : "Content-Type".toLower = "content-type" := by decide +kernel
  have hheader : (Service.signed token target name).headerText? "content-type" =
      "application/json".toList := by
    simp only [Request.headerText?, Request.header?, Service.signed, Service.unsigned,
      List.find?_cons, htoken, htype, decide_true, decide_false, Option.bind_some]
    decide +kernel
  rw [Request.declaresJson, hheader]
  decide

theorem body_signed (token target name : String) :
    (Service.signed token target name).body = Service.nameBody name := by
  rw [Service.signed, Service.unsigned]

/-- A request about a name holds the name as it is, whatever its characters. -/
theorem holds_signed (token target name : String) :
    (Service.signed token target name).Holds readName name := by
  refine ⟨declaresJson_signed token target name, ?_⟩
  rw [body_signed]
  exact Json.readBytes_render (readName_object name) .compact

theorem serve_accept
    {o : Office}
    {c : Circumstances}
    {r : Request}
    {name : String}
    (hname : r.readBody readName = .ok name)
    (hvisible : Text.isBlank name = false) :
    Endpoint.accept.serve o c r =
      .ofOutcome (o.accept c.trouble (Text.trim name)) fun o id =>
        .ok (accepted ((o.tournament.playerName id).getD (Text.trim name)) id) := by
  have hread := Request.readTrimmedName_of_readBody hname hvisible
  rw [Endpoint.serve, Endpoint.action, hread]
  rfl

namespace Service

/-- The tournament takes whoever waits, as long as it is not over. -/
theorem Reachable.taken
    {s : Service}
    (h : s.Reachable)
    (hphase : s.office.tournament.phase ≠ .completed)
    {e : Entrant}
    (he : e ∈ s.office.queue.entries)
    (hpending : e.isPending = true) :
    ∃ r, s.office.tournament.addPlayer e.name = .ok r := by
  refine (Office.addPlayer_eq_ok_iff _ _).2 ⟨h.orderly.named e he, hphase, ?_⟩
  intro p hp hname
  have hfree := h.waiting_free he hpending hp
  rw [(Text.sameName_iff _ _).2 (congrArg Text.normalForm hname)] at hfree
  cases hfree

/-- The service after the entry at a position has become a player, in memory and in the records. -/
def enrol (s : Service) (i : Nat) (e : Entrant) : Service :=
  let tournament := Office.enlarged s.office.tournament e.name
  let queue := Office.marked s.office.queue i e
  let records := ⟨some tournament.toRecord, some (Registration.entrantsRecord queue.entries)⟩
  { s with office := { s.office with tournament, queue, records } }

/-- Whoever is listed is accepted under any spelling of the name, as long as the tournament is not over and
the body is not too long to be read. The answer has the name as it is listed and a number that nobody had.
This entry is marked and no other, the roster has one more player, and the records are read as what is in
memory. If the body is too long, that is the answer, and nothing changes. -/
theorem listed_accepted
    {s : Service}
    (h : s.Reachable)
    (hphase : s.office.tournament.phase ≠ .completed)
    {e : Entrant}
    (he : e ∈ s.office.queue.pending)
    {name : String}
    (hname : Text.normalForm name = Text.normalForm e.name)
    {c : Circumstances}
    (hc : c.trouble = Storage.noTrouble)
    {r : Request}
    (hasks : r.Asks s.token .post .accept)
    (hholds : r.Holds readName name) :
    (r.body.size ≤ maxBodySize →
      ∃ i, s.office.queue.entries[i]? = some e ∧
        s.handle c r =
          (⟨some (r.id c.freshId), .ok (accepted e.name (s.office.tournament.lastId + 1))⟩,
            s.enrol i e) ∧
        (∀ p ∈ s.office.tournament.players, p.id ≠ s.office.tournament.lastId + 1) ∧
        ReadsAs (s.enrol i e).office.records (s.enrol i e).office.tournament
          (s.enrol i e).office.queue) ∧
      (maxBodySize < r.body.size →
        s.handle c r = (⟨some (r.id c.freshId), Defect.tooLong.answer⟩, s)) := by
  constructor
  · intro hshort
    obtain ⟨hmem, hpending⟩ := List.mem_filter.1 he
    obtain ⟨i, hi⟩ := List.mem_iff_getElem?.1 hmem
    have horderly := h.orderly
    have hsound := h.sound
    have htaken := h.taken hphase hmem hpending
    have hwaits : Waits s.office.queue (Text.trim name) i e :=
      waits_trimmed ⟨hi, hpending, hname.symm⟩
    obtain ⟨hresult, hoffice⟩ := Office.accept_waiting horderly.once hwaits htaken
    have hvisible : Text.isBlank name = false := by
      rw [Text.isBlank_eq_of_normalForm_eq hname]
      exact horderly.named e hmem
    have hread : r.readBody readName = .ok name := Request.readBody_eq_ok_iff.2 ⟨hholds, hshort⟩
    have hhandle := handle_of_asks hasks (by decide) rfl c
    rw [serve_accept hread hvisible, hc, Served.ofOutcome_office, hoffice] at hhandle
    obtain ⟨⟨tournament, id⟩, hadded⟩ := htaken
    obtain ⟨rfl, rfl⟩ := Office.addPlayer_enlarged hadded
    -- the number of the new player stands for the name that was listed
    have hcoherent : Swiss.Coherent s.office.tournament := hsound.tournament.coherent
    have hlisted := Swiss.playerName_of_addPlayer hcoherent hadded
    refine ⟨i, hi, ?_, ?_, ?_⟩
    · rw [hhandle]
      simp only [Served.ofOutcome, hresult, hoffice, hlisted, Option.getD_some]
      rfl
    · intro p hp hid
      obtain ⟨-, hgiven⟩ := (hcoherent.roster.mem_ids_iff p.id).1 (List.mem_map_of_mem hp)
      lia
    · have hstorable := Office.storable_addPlayer hsound.tournament hadded
      have hfits := Office.fits_marked hsound.queue hi
      exact Office.Written.readsAs ⟨.inr rfl, .inr rfl⟩ hstorable hfits
  · intro hlong
    exact handle_of_tooLong hasks rfl hholds.declared hlong c

/-- A request to accept somebody. -/
def acceptance (name : String) : Request :=
  signed "secret" "/api/v1/admin/accept" name

theorem acceptance_asks (name : String) :
    (acceptance name).Asks (withOneRequest "Ann").token .post .accept := by
  rw [acceptance, withOneRequest, handle_token]
  refine ⟨rfl, ?_, ?_⟩
  · simp only [Request.resource, signed, unsigned]
    decide +kernel
  · have hheader : "Authorization".toLower = "authorization" := by decide +kernel
    simp only [Request.bears, Request.headerText?, Request.header?, signed, List.find?_cons, hheader,
      decide_true]
    decide +kernel

/-- Ann, who is listed, is accepted as " ANN". -/
theorem listed_accepted_ann :
    (withOneRequest "Ann").Reachable ∧
      (withOneRequest "Ann").office.queue.entries = [⟨"Ann", .pending, some calm.now⟩] ∧
      (withOneRequest "Ann").handle calm (acceptance " ANN") =
        (⟨some "1", .ok (accepted "Ann" 1)⟩,
          (withOneRequest "Ann").enrol 0 ⟨"Ann", .pending, some calm.now⟩) := by
  obtain ⟨haccepted, -⟩ := listed_accepted (withOneRequest_reachable "Ann") (by decide +kernel)
    ann_waits (by decide +kernel) calm_healthy.records (acceptance_asks " ANN") (holds_signed "secret" _ " ANN")
  obtain ⟨i, hi, hanswer, -, -⟩ := haccepted (by decide +kernel)
  obtain rfl := ann_position hi
  have hlast : (withOneRequest "Ann").office.tournament.lastId + 1 = 1 := by decide +kernel
  have hid : (acceptance " ANN").id calm.freshId = "1" := by decide +kernel
  rw [hlast, hid] at hanswer
  exact ⟨withOneRequest_reachable "Ann", ann_entries, hanswer⟩

/-! ## A spelling that is too long -/

/-- A name with a blank behind it for every octet that a body may have. -/
def longSpelling (name : String) : String :=
  name ++ String.ofList (List.replicate maxBodySize ' ')

theorem normalForm_longSpelling (name : String) :
    Text.normalForm (longSpelling name) = Text.normalForm name := by
  have hblank : ∀ c ∈ List.replicate maxBodySize ' ', Text.isBlankChar c = true := by
    intro c hc
    rw [List.eq_of_mem_replicate hc]
    decide
  rw [longSpelling, Text.normalForm, Text.trim_append_blanks name hblank, Text.normalForm]

theorem utf8Len_blanks (n : Nat) : String.utf8Len (List.replicate n ' ') = n := by
  induction n with
  | zero => rfl
  | succ n ih =>
      rw [List.replicate_succ, String.utf8Len_cons, ih]
      rfl

/-- Blanks stand for themselves in a body, so that it has more octets than there are blanks. -/
theorem maxBodySize_lt_size (name : String) :
    maxBodySize < (nameBody (longSpelling name)).size := by
  let blanks := List.replicate maxBodySize ' '
  have hplain : ∀ c ∈ blanks, Json.escapeChar c = [c] := by
    intro c hc
    rw [List.eq_of_mem_replicate hc]
    rfl
  have hblanks : blanks.flatMap Json.escapeChar = blanks := by
    rw [List.flatMap_congr hplain, List.flatMap_singleton']
  have htext : (Json.Value.object [("name", .string (longSpelling name))]).text .compact 0 =
      ('{' :: Json.stringText "name" ++ ':' :: '"' :: name.toList.flatMap Json.escapeChar) ++
        (blanks ++ ['"']) ++ ['}'] := by
    simp only [Json.Value.text, Json.membersText, Json.Style.lineBreak, Json.Style.colon,
      Json.stringText, longSpelling, String.toList_append, String.toList_ofList, List.flatMap_append]
    rw [hblanks]
    simp
  have hpart := String.utf8Len_le_of_infix ⟨_, _, htext.symm⟩
  rw [String.utf8Len_append, utf8Len_blanks] at hpart
  rw [nameBody, String.toUTF8, String.size_toByteArray, Json.Value.render, String.utf8ByteSize_ofList]
  exact hpart

/-- Ann, who is listed, is not accepted under a spelling with so many blanks that the body is too long. -/
theorem long_spelling_turned_away :
    (withOneRequest "Ann").Reachable ∧ calm.Healthy ∧
      (withOneRequest "Ann").office.tournament.phase ≠ .completed ∧
      (withOneRequest "Ann").office.queue.pending = [⟨"Ann", .pending, some calm.now⟩] ∧
      Text.normalForm (longSpelling "Ann") = Text.normalForm "Ann" ∧
      (acceptance (longSpelling "Ann")).Asks (withOneRequest "Ann").token .post .accept ∧
      (acceptance (longSpelling "Ann")).Holds readName (longSpelling "Ann") ∧
      ((withOneRequest "Ann").handle calm (acceptance (longSpelling "Ann"))).1.answer.status =
        .payloadTooLarge ∧
      ((withOneRequest "Ann").handle calm (acceptance (longSpelling "Ann"))).2 =
        withOneRequest "Ann" := by
  have hpending : (withOneRequest "Ann").office.queue.pending = [⟨"Ann", .pending, some calm.now⟩] := by
    decide +kernel
  have hasks := acceptance_asks (longSpelling "Ann")
  have hholds : (acceptance (longSpelling "Ann")).Holds readName (longSpelling "Ann") :=
    holds_signed "secret" "/api/v1/admin/accept" (longSpelling "Ann")
  have hlong : maxBodySize < (acceptance (longSpelling "Ann")).body.size := by
    rw [acceptance, body_signed]
    exact maxBodySize_lt_size "Ann"
  rw [handle_of_tooLong hasks rfl hholds.declared hlong calm]
  exact ⟨withOneRequest_reachable "Ann", calm_healthy, by decide +kernel, hpending,
    normalForm_longSpelling "Ann", hasks, hholds, rfl, rfl⟩

end Service

end Http
end TournamentDesk
