import TournamentDesk.Proofs.Office.Requests

/-!
# How an acceptance ends

An acceptance looks up an entry, adds a player and makes two writes, each of which may fail. It ends in one
of five ways, and the way it ends fixes what is answered, what is left in memory, and what is written. When
a write fails, the entry that was marked is restored, while the new player stays in memory.

* `Ends`: the five endings, each with all that comes of it.
* `accept_ends`: every acceptance ends in one of these ways.
* `acceptance_ends_once`: it ends in exactly one, and each record holds what is in memory if it was written
  and what it held before otherwise.
-/

namespace TournamentDesk

open Registration (Entrant Queue)
open Storage (Fault RecordName Records Trouble Write)
open Swiss (PlayerId Tournament)

namespace Office

/-! ## The endings -/

/-- An entry that waits under a name, up to case and blanks at the ends. -/
structure Waits (q : Queue) (name : String) (i : Nat) (e : Entrant) : Prop where
  found : q.entries[i]? = some e
  pending : e.isPending = true
  named : Text.normalForm e.name = Text.normalForm name

theorem Waits.unique
    {q : Queue}
    (honce : q.Unambiguous)
    {name : String}
    {i j : Nat}
    {e e' : Entrant}
    (he : Waits q name i e)
    (he' : Waits q name j e') :
    i = j ∧ e = e' := by
  have hsame := (Text.sameName_iff _ _).2 (he.named.trans he'.named.symm)
  obtain rfl := honce i j e e' he.found he'.found he.pending he'.pending hsame
  exact ⟨rfl, Option.some.inj (he.found.symm.trans he'.found)⟩

/-- A tournament with one more player, who has the next number. -/
def enlarged (t : Tournament) (name : String) : Tournament :=
  { t with lastId := t.lastId + 1, players := t.players ++ [⟨t.lastId + 1, name, false⟩] }

/-- A queue with an entry marked as accepted. -/
def marked (q : Queue) (i : Nat) (e : Entrant) : Queue :=
  ⟨q.entries.set i { e with status := .accepted }⟩

/-- How an acceptance may end. -/
inductive Ending where
  /-- Nobody waits under the name. -/
  | notFound
  /-- The tournament does not take the player. -/
  | refused
  /-- The tournament could not be saved. -/
  | unsaved
  /-- The tournament was saved, but the queue could not be. -/
  | halfSaved
  | saved
deriving DecidableEq, Repr

/-- What comes of an acceptance that ends in some way, with the conditions under which it does. -/
inductive Ends (o : Office) (trouble : Trouble) (name : String) : Ending → Outcome PlayerId → Prop
  | notFound
      (nobody : ∀ i e, ¬ Waits o.queue name i e) :
      Ends o trouble name .notFound
        ⟨.error (.registration (.notFound name o.queue.pendingNames)), o, []⟩
  | refused
      {i : Nat}
      {e : Entrant}
      {refusal : Swiss.Refusal}
      (waits : Waits o.queue name i e)
      (refuses : o.tournament.addPlayer e.name = .error refusal) :
      Ends o trouble name .refused ⟨.error (.tournament refusal), o, []⟩
  | unsaved
      {i : Nat}
      {e : Entrant}
      {fault : Fault}
      (waits : Waits o.queue name i e)
      (adds : o.tournament.addPlayer e.name =
        .ok (enlarged o.tournament e.name, o.tournament.lastId + 1))
      (first : trouble .tournament = some fault) :
      Ends o trouble name .unsaved
        ⟨.error (.partialCommit e.name .tournament (.storage fault)),
          { o with tournament := enlarged o.tournament e.name },
          [⟨.tournament, (enlarged o.tournament e.name).toRecord, false⟩]⟩
  | halfSaved
      {i : Nat}
      {e : Entrant}
      {fault : Fault}
      (waits : Waits o.queue name i e)
      (adds : o.tournament.addPlayer e.name =
        .ok (enlarged o.tournament e.name, o.tournament.lastId + 1))
      (first : trouble .tournament = none)
      (second : trouble .queue = some fault) :
      Ends o trouble name .halfSaved
        ⟨.error (.partialCommit e.name .queue (.storage fault)),
          { o with
            tournament := enlarged o.tournament e.name
            records :=
              { o.records with tournament := some (enlarged o.tournament e.name).toRecord } },
          [⟨.tournament, (enlarged o.tournament e.name).toRecord, true⟩,
            ⟨.queue, Registration.entrantsRecord (marked o.queue i e).entries, false⟩]⟩
  | saved
      {i : Nat}
      {e : Entrant}
      (waits : Waits o.queue name i e)
      (adds : o.tournament.addPlayer e.name =
        .ok (enlarged o.tournament e.name, o.tournament.lastId + 1))
      (first : trouble .tournament = none)
      (second : trouble .queue = none) :
      Ends o trouble name .saved
        ⟨.ok (o.tournament.lastId + 1),
          { o with
            tournament := enlarged o.tournament e.name
            queue := marked o.queue i e
            records :=
              ⟨some (enlarged o.tournament e.name).toRecord,
                some (Registration.entrantsRecord (marked o.queue i e).entries)⟩ },
          [⟨.tournament, (enlarged o.tournament e.name).toRecord, true⟩,
            ⟨.queue, Registration.entrantsRecord (marked o.queue i e).entries, true⟩]⟩

/-! ## One acceptance -/

theorem setStatus_eq_marked
    {q : Queue}
    {i : Nat}
    {e : Entrant}
    (h : q.entries[i]? = some e) :
    q.setStatus i .accepted = marked q i e := by
  rw [Queue.setStatus, marked, List.modify_eq_set_getElem?, h]
  rfl

theorem fits_marked
    {q : Queue}
    (hfits : ∀ e ∈ q.entries, e.Fits)
    {i : Nat}
    {e : Entrant}
    (h : q.entries[i]? = some e) :
    ∀ e' ∈ (marked q i e).entries, e'.Fits := by
  rw [← setStatus_eq_marked h]
  exact fits_setStatus hfits i .accepted

/-- A player who is taken makes the tournament one larger. -/
theorem addPlayer_enlarged
    {t t' : Tournament}
    {name : String}
    {id : PlayerId}
    (h : t.addPlayer name = .ok (t', id)) :
    t' = enlarged t name ∧ id = t.lastId + 1 := by
  obtain ⟨-, -, -, heq⟩ := Swiss.addPlayer_eq_ok h
  exact ⟨congrArg Prod.fst heq, congrArg Prod.snd heq⟩

theorem wrote_failed
    (o : Office)
    (record : RecordName)
    (octets : ByteArray) :
    o.wrote ⟨record, octets, false⟩ = o :=
  rfl

theorem wrote_saved
    (o : Office)
    (record : RecordName)
    (octets : ByteArray) :
    o.wrote ⟨record, octets, true⟩ = { o with records := o.records.put record octets } :=
  rfl

theorem accept_ends
    (o : Office)
    (trouble : Trouble)
    (name : String) :
    ∃ ending, Ends o trouble name ending (o.accept trouble name) := by
  rcases o.accept_cases trouble name with
    ⟨refusal, hrefused, heq⟩ | ⟨found, e, -, hfound, hpending, hnamed, hadding⟩
  · obtain ⟨rfl, hnobody⟩ := Queue.findPending_eq_error hrefused
    rw [heq]
    refine ⟨.notFound, .notFound ?_⟩
    rintro i e ⟨hfound, hpending, hnamed⟩
    have hother := hnobody e (List.mem_of_getElem? hfound) hpending
    rw [(Text.sameName_iff _ _).2 hnamed] at hother
    cases hother
  · have hwaits : Waits o.queue name found.position e :=
      ⟨hfound, e.isPending_iff.2 hpending, (Text.sameName_iff _ _).1 hnamed⟩
    rcases hadding with ⟨refusal, hrefused, heq⟩ | ⟨tournament, id, hadd, heq⟩
    · rw [heq]
      exact ⟨.refused, .refused hwaits hrefused⟩
    · obtain ⟨rfl, rfl⟩ := addPlayer_enlarged hadd
      rw [heq, setStatus_eq_marked hfound]
      cases hfirst : trouble .tournament with
      | some fault =>
          refine ⟨.unsaved, ?_⟩
          simp only [commit, tournamentWrite, hfirst, Option.isNone_some, wrote_failed]
          exact .unsaved hwaits hadd hfirst
      | none =>
          cases hsecond : trouble .queue with
          | some fault =>
              refine ⟨.halfSaved, ?_⟩
              simp only [commit, tournamentWrite, queueWrite, hfirst, hsecond, Option.isNone_none,
                Option.isNone_some, wrote_saved, wrote_failed, Records.put]
              exact .halfSaved hwaits hadd hfirst hsecond
          | none =>
              refine ⟨.saved, ?_⟩
              simp only [commit, tournamentWrite, queueWrite, hfirst, hsecond, Option.isNone_none,
                wrote_saved, Records.put]
              exact .saved hwaits hadd hfirst hsecond

/-- The ending that an answer tells of. -/
def endingOf : Except Problem PlayerId → Ending
  | .ok _ => .saved
  | .error (.partialCommit _ .queue _) => .halfSaved
  | .error (.partialCommit _ .tournament _) => .unsaved
  | .error (.tournament _) => .refused
  | .error _ => .notFound

theorem Ends.ending_eq
    {o : Office}
    {trouble : Trouble}
    {name : String}
    {ending : Ending}
    {out : Outcome PlayerId}
    (h : Ends o trouble name ending out) :
    ending = endingOf out.result := by
  cases h <;> rfl

/-- Whoever waits is accepted if the tournament takes the player and both records can be written. -/
theorem accept_waiting
    {o : Office}
    (honce : o.queue.Unambiguous)
    {name : String}
    {i : Nat}
    {e : Entrant}
    (hwaits : Waits o.queue name i e)
    (htaken : ∃ r, o.tournament.addPlayer e.name = .ok r) :
    (o.accept Storage.noTrouble name).result = .ok (o.tournament.lastId + 1) ∧
      (o.accept Storage.noTrouble name).office =
        { o with
          tournament := enlarged o.tournament e.name
          queue := marked o.queue i e
          records :=
            ⟨some (enlarged o.tournament e.name).toRecord,
              some (Registration.entrantsRecord (marked o.queue i e).entries)⟩ } := by
  obtain ⟨ending, hends⟩ := o.accept_ends Storage.noTrouble name
  generalize o.accept Storage.noTrouble name = out at hends
  cases hends with
  | notFound nobody => exact absurd hwaits (nobody i e)
  | refused waits refuses =>
      obtain ⟨-, rfl⟩ := hwaits.unique honce waits
      obtain ⟨r, hr⟩ := htaken
      rw [hr] at refuses
      cases refuses
  | unsaved waits adds first => cases first
  | halfSaved waits adds first second => cases second
  | saved waits adds first second =>
      obtain ⟨rfl, rfl⟩ := hwaits.unique honce waits
      exact ⟨rfl, rfl⟩

/-! ## The records -/

/-- The queue is written only after the tournament has been. -/
theorem Ends.writes_ordered
    {o : Office}
    {trouble : Trouble}
    {name : String}
    {ending : Ending}
    {out : Outcome PlayerId}
    (h : Ends o trouble name ending out)
    {before after : List Write}
    {w : Write}
    (hwrites : out.writes = before ++ w :: after)
    (hqueue : w.record = .queue) :
    ∃ w' ∈ before, w'.record = .tournament ∧ w'.succeeded = true := by
  -- the first write is never that of the queue
  have hfirst : ∀ {first : Write} {rest : List Write}, first.record = .tournament →
      first.succeeded = true ∨ rest = [] → first :: rest = before ++ w :: after →
        ∃ w' ∈ before, w'.record = .tournament ∧ w'.succeeded = true := by
    intro first rest hrecord hsaved heq
    cases before with
    | nil =>
        obtain rfl : first = w := (List.cons.inj heq).1
        rw [hrecord] at hqueue
        cases hqueue
    | cons w' before =>
        obtain ⟨rfl, hrest⟩ := List.cons.inj heq
        refine ⟨first, List.mem_cons_self, hrecord, hsaved.resolve_right ?_⟩
        rintro rfl
        simp at hrest
  cases h with
  | notFound => simp at hwrites
  | refused => simp at hwrites
  | unsaved => exact hfirst rfl (.inr rfl) hwrites
  | halfSaved => exact hfirst rfl (.inl rfl) hwrites
  | saved => exact hfirst rfl (.inl rfl) hwrites

/-- A record that was written is read as what is in memory, and another one as before. -/
theorem Ends.readsAs
    {o : Office}
    {trouble : Trouble}
    {name : String}
    {ending : Ending}
    {out : Outcome PlayerId}
    (h : Ends o trouble name ending out)
    {t : Tournament}
    {q : Queue}
    (hwritten : Written o.records t q)
    (hsound : (o.books t q).Sound) :
    ReadsAs out.office.records
      (if saves out.writes .tournament then out.office.tournament else t)
      (if saves out.writes .queue then out.office.queue else q) := by
  have hbefore := hwritten.readsAs hsound.storedTournament hsound.storedQueue
  cases h with
  | notFound nobody => exact hbefore
  | refused waits refuses => exact hbefore
  | unsaved waits adds first => exact hbefore
  | @halfSaved i e fault waits adds first second =>
      have hstorable := storable_addPlayer hsound.tournament adds
      simp only [saves, List.any_cons, List.any_nil, decide_true, decide_false, reduceCtorEq,
        Bool.and_true, Bool.and_false, Bool.or_false, if_true, Bool.false_eq_true, if_false]
      have hafter := hwritten.afterTournament (enlarged o.tournament e.name)
      rw [after_tournament] at hafter
      exact hafter.readsAs hstorable hsound.storedQueue
  | @saved i e waits adds first second =>
      have hstorable := storable_addPlayer hsound.tournament adds
      have hfits := fits_marked hsound.queue waits.found
      simp only [saves, List.any_cons, List.any_nil, decide_true, decide_false, reduceCtorEq,
        Bool.and_true, Bool.or_false, Bool.or_true, if_true]
      have hafter := (hwritten.afterTournament (enlarged o.tournament e.name)).afterQueue
        (marked o.queue i e)
      rw [after_tournament, after_queue] at hafter
      exact hafter.readsAs hstorable hfits

/-! ## Acceptances in a run -/

/-- An acceptance ends in exactly one of five ways, whatever is in memory, whatever name is asked for and
whichever writes fail. There is only one entry that it can be about. The queue is written only after the
tournament has been. Each record is read as what is in memory if it was written, and otherwise as before. -/
theorem acceptance_ends_once
    {log : List Event}
    {o : Office}
    (h : Run log o)
    (trouble : Trouble)
    (name : String) :
    let out := o.accept trouble name
    (∃! ending, Ends o trouble name ending out) ∧
      (∀ i j e e', Waits o.queue name i e → Waits o.queue name j e' → i = j ∧ e = e') ∧
      (∀ before w after, out.writes = before ++ w :: after → w.record = .queue →
        ∃ w' ∈ before, w'.record = .tournament ∧ w'.succeeded = true) ∧
      ∃ t q, ReadsAs o.records t q ∧
        ReadsAs out.office.records
          (if saves out.writes .tournament then out.office.tournament else t)
          (if saves out.writes .queue then out.office.queue else q) := by
  intro out
  obtain ⟨ending, hends⟩ := o.accept_ends trouble name
  obtain ⟨t, q, hwritten, hsound, horderly⟩ := h.orderly
  refine ⟨⟨ending, hends, ?_⟩, ?_, ?_, ?_⟩
  · intro other hother
    rw [hother.ending_eq, hends.ending_eq]
  · exact fun i j e e' => Waits.unique horderly.queue.once
  · exact fun before w after => hends.writes_ordered
  · exact ⟨t, q, hwritten.readsAs hsound.storedTournament hsound.storedQueue,
      hends.readsAs hwritten hsound⟩

/-- Ann is accepted under another spelling, and the queue cannot be saved. -/
theorem acceptance_ends_once_ann :
    ∃ log, Run log annAsked ∧
      Ends annAsked noQueueSaved " ANN" .halfSaved (annAsked.accept noQueueSaved " ANN") ∧
      (annAsked.accept noQueueSaved " ANN").result =
        .error (.partialCommit "Ann" .queue (.storage (.unavailable "no space"))) := by
  obtain ⟨log, hasked⟩ := annAsked_run
  obtain ⟨⟨ending, hends, -⟩, -⟩ := acceptance_ends_once hasked noQueueSaved " ANN"
  have hresult : (annAsked.accept noQueueSaved " ANN").result =
      .error (.partialCommit "Ann" .queue (.storage (.unavailable "no space"))) := by
    decide +kernel
  obtain rfl : ending = .halfSaved := by
    rw [hends.ending_eq, hresult]
    rfl
  exact ⟨log, hasked, hends, hresult⟩

end Office
end TournamentDesk
