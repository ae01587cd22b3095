import TournamentDesk.Proofs.Office.Enrolment
import TournamentDesk.Proofs.Swiss.Roster

/-!
# What is acknowledged lasts

Whatever an office writes is what it has in memory, so that opening it again gives back what it had in
memory when each record was last saved. An acknowledged request or decision has been saved, and nothing
that is both in memory and in the records gets lost: players keep their numbers and names, entries their
positions, names and times, and decisions are final.

* `LastSaved`: the tournament and the queue of the last successful writes.
* `Books.Keeps.turn`: a turn keeps what is in memory and in the records.
* `acknowledged_lasts`: what an office is opened with again, and what lasts.
-/

namespace TournamentDesk

open Registration (Entrant Queue Status)
open Storage (RecordName Records Trouble Write)
open Swiss (Answer PlayerId Tournament)
open Time (Instant)

namespace Office

/-! ## What is written -/

/-- The octets of what an office has in memory for a record. -/
def memoryOctets (o : Office) : RecordName → ByteArray
  | .tournament => o.tournament.toRecord
  | .queue => Registration.entrantsRecord o.queue.entries

/-- A run with the tournament and the queue as they were in memory when each was last saved: a new
tournament and an empty queue if they never were. -/
inductive LastSaved : List Event → Office → Tournament → Queue → Prop
  | opened
      {trouble : Trouble}
      {policy : Policy}
      {o : Office} :
      open? Records.empty trouble policy = .ok o →
      LastSaved [] o Tournament.empty Queue.empty
  | step
      {log : List Event}
      {o : Office}
      {t : Tournament}
      {q : Queue}
      {trouble : Trouble}
      {task : Task}
      {out : Outcome Answer} :
      LastSaved log o t q →
      Does o trouble task out →
      LastSaved (log ++ [⟨task, out.result⟩]) out.office
        (if saves out.writes .tournament then out.office.tournament else t)
        (if saves out.writes .queue then out.office.queue else q)

theorem Run.lastSaved
    {log : List Event}
    {o : Office}
    (h : Run log o) :
    ∃ t q, LastSaved log o t q := by
  induction h with
  | opened hopen => exact ⟨_, _, .opened hopen⟩
  | step hrun hdoes ih =>
      obtain ⟨t, q, hsaved⟩ := ih
      exact ⟨_, _, hsaved.step hdoes⟩

/-- What is written successfully is what is in memory then. -/
def WritesMemory {α : Type} (out : Outcome α) : Prop :=
  ∀ w ∈ out.writes, w.succeeded = true → w.octets = out.office.memoryOctets w.record

theorem writesMemory_of_none
    {α : Type}
    (result : Except Problem α)
    (o : Office) :
    WritesMemory ⟨result, o, []⟩ := by
  intro w hw
  cases hw

theorem writesMemory_of_one
    {α : Type}
    (result : Except Problem α)
    {o : Office}
    {w : Write}
    (h : w.succeeded = true → w.octets = o.memoryOctets w.record) :
    WritesMemory ⟨result, o, [w]⟩ := by
  intro w' hw'
  rw [List.mem_singleton.1 hw']
  exact h

theorem writesMemory_of_two
    {α : Type}
    (result : Except Problem α)
    {o : Office}
    {w₁ w₂ : Write}
    (h₁ : w₁.succeeded = true → w₁.octets = o.memoryOctets w₁.record)
    (h₂ : w₂.succeeded = true → w₂.octets = o.memoryOctets w₂.record) :
    WritesMemory ⟨result, o, [w₁, w₂]⟩ := by
  intro w hw
  rcases List.mem_cons.1 hw with heq | hw
  · rw [heq]
    exact h₁
  · rw [List.mem_singleton.1 hw]
    exact h₂

/-- What is written of a tournament is what is in memory. -/
theorem tournamentWrite_octets
    {changed left : Office}
    {trouble : Trouble}
    (h : left.tournament = changed.tournament) :
    (changed.tournamentWrite trouble).octets =
      left.memoryOctets (changed.tournamentWrite trouble).record := by
  rw [tournamentWrite, memoryOctets, h]

/-- An attempt to write the queue that succeeds writes that in memory. -/
theorem queueWrite_octets
    {changed left : Office}
    {trouble : Trouble}
    (h : trouble .queue = none → left.queue = changed.queue)
    (hsucceeded : (changed.queueWrite trouble).succeeded = true) :
    (changed.queueWrite trouble).octets =
      left.memoryOctets (changed.queueWrite trouble).record := by
  have hnone : trouble .queue = none := Option.isNone_iff_eq_none.1 hsucceeded
  rw [queueWrite, memoryOctets, h hnone]

theorem settle_writesMemory
    (o : Office)
    (trouble : Trouble)
    (queue : Queue) :
    WritesMemory (o.settle trouble queue) := by
  unfold settle
  cases htrouble : trouble .queue with
  | none => exact writesMemory_of_one _ (queueWrite_octets fun _ => rfl)
  | some fault =>
      refine writesMemory_of_one _ (queueWrite_octets fun hnone => ?_)
      rw [htrouble] at hnone
      cases hnone

theorem commit_writesMemory
    (o : Office)
    (trouble : Trouble)
    (name : String)
    (tournament : Tournament)
    (id : PlayerId)
    (queue : Queue) :
    WritesMemory (o.commit trouble name tournament id queue) := by
  unfold commit
  cases trouble .tournament with
  | some fault => exact writesMemory_of_one _ (fun _ => tournamentWrite_octets rfl)
  | none =>
      simp only
      cases hqueue : trouble .queue with
      | some fault =>
          refine writesMemory_of_two _ (fun _ => tournamentWrite_octets rfl)
            (queueWrite_octets fun hnone => ?_)
          rw [hqueue] at hnone
          cases hnone
      | none =>
          exact writesMemory_of_two _ (fun _ => tournamentWrite_octets rfl)
            (queueWrite_octets fun _ => rfl)

theorem saveTournament_writesMemory
    {α : Type}
    (o : Office)
    (trouble : Trouble)
    (answer : α) :
    WritesMemory (o.saveTournament trouble answer) := by
  unfold saveTournament
  cases trouble .tournament with
  | none => exact writesMemory_of_one _ (fun _ => tournamentWrite_octets rfl)
  | some fault => exact writesMemory_of_one _ (fun _ => tournamentWrite_octets rfl)

theorem WritesMemory.answered
    {α : Type}
    {out : Outcome α}
    (h : WritesMemory out)
    (f : α → Answer) :
    WritesMemory (out.answered f) :=
  h

theorem Does.writesMemory
    {o : Office}
    {trouble : Trouble}
    {task : Task}
    {out : Outcome Answer}
    (hdoes : Does o trouble task out) :
    WritesMemory out := by
  cases hdoes with
  | @submit now name dated =>
      rcases o.submit_cases trouble now name with ⟨refusal, -, heq⟩ | ⟨-, heq⟩ <;> rw [heq]
      · exact writesMemory_of_none _ o
      · exact (settle_writesMemory o trouble _).answered _
  | @accept name =>
      rcases o.accept_cases trouble name with
        ⟨refusal, -, heq⟩ | ⟨found, e, -, -, -, -, ⟨refusal, -, heq⟩ | ⟨tournament, id, -, heq⟩⟩ <;>
        rw [heq]
      · exact writesMemory_of_none _ o
      · exact writesMemory_of_none _ o
      · exact (commit_writesMemory o trouble e.name tournament id _).answered _
  | @reject name =>
      rcases o.reject_cases trouble name with
        ⟨refusal, -, heq⟩ | ⟨found, e, -, -, -, -, heq⟩ <;> rw [heq]
      · exact writesMemory_of_none _ o
      · exact (settle_writesMemory o trouble _).answered _
  | @play draw verb fair nobody =>
      rcases o.run_cases trouble draw verb with ⟨refusal, -, heq⟩ | ⟨s, -, heq⟩ <;> rw [heq]
      · exact writesMemory_of_none _ o
      · exact saveTournament_writesMemory _ trouble s.answer
  | reopen opened => exact writesMemory_of_none _ _

theorem afterAll_cons
    (r : Records)
    (w : Write)
    (ws : List Write) :
    r.afterAll (w :: ws) = (r.after w).afterAll ws :=
  rfl

theorem saves_cons
    (w : Write)
    (ws : List Write)
    (name : RecordName) :
    saves (w :: ws) name = (w.record = name && w.succeeded || saves ws name) :=
  List.any_cons

/-- Writes out of memory leave what is in memory in the records they saved. -/
theorem Written.afterAll
    {r : Records}
    {t : Tournament}
    {q : Queue}
    (h : Written r t q)
    (o : Office)
    {ws : List Write}
    (hws : ∀ w ∈ ws, w.succeeded = true → w.octets = o.memoryOctets w.record) :
    Written (r.afterAll ws) (if saves ws .tournament then o.tournament else t)
      (if saves ws .queue then o.queue else q) := by
  induction ws generalizing r t q with
  | nil => exact h
  | cons w ws ih =>
      have hrest : ∀ w ∈ ws, w.succeeded = true → w.octets = o.memoryOctets w.record :=
        fun w hw => hws w (List.mem_cons_of_mem _ hw)
      have hfirst := hws w List.mem_cons_self
      obtain ⟨name, octets, succeeded⟩ := w
      rw [afterAll_cons, saves_cons, saves_cons]
      cases succeeded with
      | false =>
          rw [Bool.and_false, Bool.and_false, Bool.false_or, Bool.false_or]
          exact ih h hrest
      | true =>
          obtain rfl : octets = o.memoryOctets name := hfirst rfl
          cases name with
          | tournament => simpa [memoryOctets] using ih (h.afterTournament o.tournament) hrest
          | queue => simpa [memoryOctets] using ih (h.afterQueue o.queue) hrest

theorem LastSaved.written
    {log : List Event}
    {o : Office}
    {t : Tournament}
    {q : Queue}
    (h : LastSaved log o t q) :
    Written o.records t q ∧ (o.books t q).Sound := by
  induction h with
  | opened hopen =>
      obtain ⟨hwritten, -, hsound⟩ := books_of_open hopen
      exact ⟨hwritten, hsound⟩
  | @step log o t q trouble task out hsaved hdoes ih =>
      obtain ⟨hwritten, hsound⟩ := ih
      obtain ⟨t', q', htracked⟩ := hdoes.tracked hwritten hsound
      have hsound' := hsound.turn htracked.turn
      constructor
      · rw [htracked.records]
        exact hwritten.afterAll out.office hdoes.writesMemory
      · refine ⟨hsound'.tournament, hsound'.queue, ?_, ?_⟩
        · simp only [books]
          split
          · exact hsound'.tournament
          · exact hsound.storedTournament
        · simp only [books]
          split
          · exact hsound'.queue
          · exact hsound.storedQueue

/-! ## Opening again -/

/-- An office that is opened again has what was last saved, up to the percentages of the standings. -/
theorem LastSaved.reopen
    {log : List Event}
    {o : Office}
    {t : Tournament}
    {q : Queue}
    (h : LastSaved log o t q)
    {trouble : Trouble}
    {policy : Policy}
    {out : Outcome Answer}
    (hdoes : Does o trouble (.reopen policy) out) :
    t.SameCounts out.office.tournament ∧ out.office.queue = q := by
  obtain ⟨hwritten, hsound⟩ := h.written
  cases hdoes with
  | reopen opened =>
      obtain ⟨htournament, hqueue, -, -⟩ := open?_eq_ok opened
      refine ⟨(hwritten.readTournament hsound.storedTournament htournament).1, ?_⟩
      exact Except.ok.inj (hqueue.symm.trans (hwritten.readQueue hsound.storedQueue))

/-- An office can be opened again as long as its tournament is short of the end of the integer ranges. -/
theorem LastSaved.reopens
    {log : List Event}
    {o : Office}
    {t : Tournament}
    {q : Queue}
    (h : LastSaved log o t q)
    (hrange : t.InRange)
    (policy : Policy) :
    ∃ out, Does o Storage.noTrouble (.reopen policy) out := by
  obtain ⟨hwritten, hsound⟩ := h.written
  obtain ⟨t', htournament⟩ := hwritten.readable hsound.storedTournament hrange
  have hqueue := hwritten.readQueue hsound.storedQueue
  exact ⟨_, .reopen (open?_of_reads htournament hqueue policy)⟩

/-! ## What lasts -/

/-- Books that keep a roster and a queue, in memory and in the records. -/
structure Books.Keeps (b : Books) (names : List (PlayerId × String)) (kept : Queue) : Prop where
  roster : names <+: b.tournament.roster
  storedRoster : names <+: b.storedTournament.roster
  queue : kept.KeptIn b.queue
  storedQueue : kept.KeptIn b.storedQueue

theorem Settled.keeps
    {b b' : Books}
    {names : List (PlayerId × String)}
    {kept queue : Queue}
    {result : Except Problem Answer}
    (h : b.Keeps names kept)
    (hqueue : kept.KeptIn queue)
    (hsettled : Settled b queue result b') :
    b'.Keeps names kept := by
  cases hsettled with
  | saved => exact ⟨h.roster, h.storedRoster, hqueue, hqueue⟩
  | undone policy => exact h
  | kept policy => exact ⟨h.roster, h.storedRoster, hqueue, h.storedQueue⟩

/-- A turn keeps what is in memory and in the records. -/
theorem Books.Keeps.turn
    {b b' : Books}
    {names : List (PlayerId × String)}
    {kept : Queue}
    {task : Task}
    {result : Except Problem Answer}
    (h : b.Keeps names kept)
    (hturn : Turn b task result b') :
    b'.Keeps names kept := by
  cases hturn with
  | refused untouched => exact h
  | submitted dated visible fresh free settled => exact settled.keeps h (h.queue.push _ _)
  | accepted found pending named added committed =>
      have hroster := h.roster.trans (Swiss.roster_of_addPlayer added ▸ List.prefix_append _ _)
      have hqueue := h.queue.setStatus found pending .accepted
      cases committed with
      | saved => exact ⟨hroster, hroster, hqueue, hqueue⟩
      | unsaved => exact ⟨hroster, h.storedRoster, h.queue, h.storedQueue⟩
      | halfSaved => exact ⟨hroster, hroster, h.queue, h.storedQueue⟩
  | rejected found pending named settled =>
      exact settled.keeps h (h.queue.setStatus found pending .rejected)
  | played fair nobody effect =>
      have hroster := h.roster.trans effect.roster_prefix
      exact ⟨hroster, hroster, h.queue, h.storedQueue⟩
  | playUnsaved fair nobody effect =>
      exact ⟨h.roster.trans effect.roster_prefix, h.storedRoster, h.queue, h.storedQueue⟩
  | @reopened policy tournament same storable =>
      have hroster : tournament.roster = b.storedTournament.roster := by
        rw [same.others]
        rfl
      exact ⟨hroster ▸ h.storedRoster, h.storedRoster, h.storedQueue, h.storedQueue⟩

/-- Something holds of the tournament and the queue from an office on, whatever tasks follow: of those in
memory and of those in the records. -/
def Lasts (o : Office) (P : Tournament → Queue → Prop) : Prop :=
  ∀ log o', Leads o log o' →
    P o'.tournament o'.queue ∧ ∃ t q, ReadsAs o'.records t q ∧ P t q

theorem Books.Keeps.lasts
    {o : Office}
    {t : Tournament}
    {q : Queue}
    {names : List (PlayerId × String)}
    {kept : Queue}
    (h : (o.books t q).Keeps names kept)
    (hwritten : Written o.records t q)
    (hsound : (o.books t q).Sound) :
    Lasts o fun t q => names <+: t.roster ∧ kept.KeptIn q := by
  intro log o' hleads
  obtain ⟨t', q', hwritten', hsound', hkeeps⟩ :=
    hleads.invariant (P := fun _ b => b.Keeps names kept)
      (fun _ _ _ _ _ hb hturn => hb.turn hturn) hwritten hsound h
  have hreads := hwritten'.readsAs hsound'.storedTournament hsound'.storedQueue
  exact ⟨⟨hkeeps.roster, hkeeps.queue⟩, t', q', hreads, hkeeps.storedRoster, hkeeps.storedQueue⟩

theorem Lasts.mono
    {o : Office}
    {P Q : Tournament → Queue → Prop}
    (h : Lasts o P)
    (himp : ∀ t q, P t q → Q t q) :
    Lasts o Q := by
  intro log o' hleads
  obtain ⟨hmemory, t, q, hreads, hrecords⟩ := h log o' hleads
  exact ⟨himp _ _ hmemory, t, q, hreads, himp _ _ hrecords⟩

/-! ## What is acknowledged -/

/-- An acknowledged request or decision has been saved. -/
theorem Turn.keeps_queue
    {b b' : Books}
    {task : Task}
    {answer : Answer}
    (hturn : Turn b task (.ok answer) b')
    (hplay : ∀ draw verb, task ≠ .play draw verb) :
    b'.Keeps [] b'.queue := by
  have hsaved : b'.storedQueue = b'.queue := by
    cases hturn with
    | submitted dated visible fresh free settled => cases settled; rfl
    | accepted found pending named added committed => cases committed; rfl
    | rejected found pending named settled => cases settled; rfl
    | played fair nobody effect => exact absurd rfl (hplay _ _)
    | reopened same storable => rfl
  have hkept := Queue.keptIn_refl b'.queue
  exact ⟨List.nil_prefix, List.nil_prefix, hkept, hsaved ▸ hkept⟩

/-- An acknowledged acceptance has been saved with its player. -/
theorem Turn.keeps_roster
    {b b' : Books}
    {name : String}
    {answer : Answer}
    (hturn : Turn b (.accept name) (.ok answer) b') :
    b'.Keeps b'.tournament.roster b'.queue := by
  have hsaved : b'.storedTournament = b'.tournament := by
    cases hturn with
    | accepted found pending named added committed => cases committed; rfl
  have hkeeps := hturn.keeps_queue fun _ _ htask => by cases htask
  have hroster := List.prefix_refl b'.tournament.roster
  exact ⟨hroster, hsaved ▸ hroster, hkeeps.queue, hkeeps.storedQueue⟩

/-- What is in memory and in the records after an acknowledged task lasts. -/
theorem Does.lasts
    {o : Office}
    {t : Tournament}
    {q : Queue}
    (hwritten : Written o.records t q)
    (hsound : (o.books t q).Sound)
    {trouble : Trouble}
    {task : Task}
    {out : Outcome Answer}
    (hdoes : Does o trouble task out)
    {answer : Answer}
    (hresult : out.result = .ok answer)
    {names : List (PlayerId × String)}
    {kept : Queue}
    (hkeeps : ∀ t' q', Turn (o.books t q) task (.ok answer) (out.office.books t' q') →
      (out.office.books t' q').Keeps names kept) :
    Lasts out.office fun t q => names <+: t.roster ∧ kept.KeptIn q := by
  obtain ⟨t', q', htracked⟩ := hdoes.tracked hwritten hsound
  have hturn := htracked.turn
  rw [hresult] at hturn
  exact (hkeeps t' q' hturn).lasts htracked.written (hsound.turn htracked.turn)

theorem settle_acknowledged
    {o : Office}
    {trouble : Trouble}
    {queue : Queue}
    (h : (o.settle trouble queue).result = .ok ()) :
    (o.settle trouble queue).office.queue = queue := by
  unfold settle at h ⊢
  cases htrouble : trouble .queue with
  | none => rfl
  | some fault =>
      rw [htrouble] at h
      cases h

theorem commit_acknowledged
    {o : Office}
    {trouble : Trouble}
    {name : String}
    {tournament : Tournament}
    {id player : PlayerId}
    {queue : Queue}
    (h : (o.commit trouble name tournament id queue).result = .ok player) :
    player = id ∧ (o.commit trouble name tournament id queue).office.tournament = tournament ∧
      (o.commit trouble name tournament id queue).office.queue = queue := by
  unfold commit at h ⊢
  cases htournament : trouble .tournament with
  | some fault =>
      rw [htournament] at h
      cases h
  | none =>
      simp only [htournament] at h ⊢
      cases hqueue : trouble .queue with
      | some fault =>
          rw [hqueue] at h
          cases h
      | none =>
          simp only [hqueue] at h ⊢
          cases h
          exact ⟨rfl, rfl, rfl⟩

theorem submit_acknowledged
    {o : Office}
    {trouble : Trouble}
    {now : Instant}
    {name : String}
    (h : (o.submit trouble now name).result = .ok ()) :
    o.queue.submit name o.onRoster now = .ok (o.queue.push name now, o.queue.entries.length) ∧
      (o.submit trouble now name).office.queue = o.queue.push name now := by
  rcases o.submit_cases trouble now name with ⟨refusal, -, heq⟩ | ⟨hsubmit, heq⟩ <;>
    rw [heq] at h ⊢
  · cases h
  · exact ⟨hsubmit, settle_acknowledged h⟩

theorem reject_acknowledged
    {o : Office}
    {trouble : Trouble}
    {name : String}
    (h : (o.reject trouble name).result = .ok ()) :
    ∃ found e, o.queue.findPendingExact name = .ok found ∧
      o.queue.entries[found.position]? = some e ∧
      (o.reject trouble name).office.queue = o.queue.setStatus found.position .rejected := by
  rcases o.reject_cases trouble name with
    ⟨refusal, -, heq⟩ | ⟨found, e, hfind, hfound, -, -, heq⟩ <;> rw [heq] at h ⊢
  · cases h
  · exact ⟨found, e, hfind, hfound, settle_acknowledged h⟩

theorem accept_acknowledged
    {o : Office}
    {trouble : Trouble}
    {name : String}
    {id : PlayerId}
    (h : (o.accept trouble name).result = .ok id) :
    ∃ found e, o.queue.findPending name = .ok found ∧
      o.queue.entries[found.position]? = some e ∧
      o.tournament.addPlayer e.name = .ok ((o.accept trouble name).office.tournament, id) ∧
      (o.accept trouble name).office.queue = o.queue.setStatus found.position .accepted := by
  rcases o.accept_cases trouble name with
    ⟨refusal, -, heq⟩ | ⟨found, e, hfind, hfound, -, -, hadding⟩
  · rw [heq] at h
    cases h
  · rcases hadding with ⟨refusal, -, heq⟩ | ⟨tournament, player, hadd, heq⟩ <;> rw [heq] at h ⊢
    · cases h
    · obtain ⟨rfl, htournament, hqueue⟩ := commit_acknowledged h
      exact ⟨found, e, hfind, hfound, by rw [htournament, hadd], hqueue⟩

/-- An entry in the queue that was decided stays as it is. -/
theorem decided_lasts
    {o : Office}
    {queue : Queue}
    {i : Nat}
    {e : Entrant}
    {s : Status}
    (hqueue : o.queue = queue.setStatus i s)
    (hfound : queue.entries[i]? = some e)
    (hs : s ≠ .pending)
    {later : Queue}
    (hkept : o.queue.KeptIn later) :
    later.entries[i]? = some { e with status := s } := by
  have hentry : o.queue.entries[i]? = some { e with status := s } := by
    rw [hqueue, Queue.getElem?_setStatus, hfound, Option.map_some, if_pos rfl]
  obtain ⟨e', he', -, -, hdecided⟩ := hkept i _ hentry
  rw [he', hdecided (decide_eq_false hs)]

section Acknowledged

variable {o : Office} {t : Tournament} {q : Queue} (hwritten : Written o.records t q)
  (hsound : (o.books t q).Sound) {trouble : Trouble} {name : String}

include hwritten hsound

theorem submit_lasts
    {now : Instant}
    (hdated : now.date.inRange = true)
    (h : (o.submit trouble now name).result = .ok ()) :
    ∃ position,
      o.queue.submit name o.onRoster now = .ok (o.queue.push name now, position) ∧
        Lasts (o.submit trouble now name).office fun _ later =>
          ∃ status, later.entries[position]? = some ⟨name, status, some now⟩ := by
  obtain ⟨hsubmit, hqueue⟩ := submit_acknowledged h
  have hdoes : Does o trouble (.submit now name) _ := .submit hdated
  have hlasts := hdoes.lasts hwritten hsound (congrArg (Except.map _) h)
    fun _ _ hturn => hturn.keeps_queue fun _ _ htask => by cases htask
  refine ⟨_, hsubmit, hlasts.mono fun _ later hkept => ?_⟩
  have hentry : (o.queue.push name now).entries[o.queue.entries.length]? =
      some ⟨name, .pending, some now⟩ :=
    List.getElem?_concat_length
  rw [← hqueue] at hentry
  obtain ⟨e, he, hname, htime, -⟩ := hkept.2 _ _ hentry
  simp only at hname htime
  refine ⟨e.status, ?_⟩
  rw [he, ← hname, ← htime]

theorem accept_lasts
    {id : PlayerId}
    (h : (o.accept trouble name).result = .ok id) :
    ∃ found e, o.queue.findPending name = .ok found ∧
      o.queue.entries[found.position]? = some e ∧
        Lasts (o.accept trouble name).office fun later later' =>
          later'.entries[found.position]? = some { e with status := .accepted } ∧
            later.playerName id = some e.name := by
  obtain ⟨found, e, hfind, hfound, hadd, hqueue⟩ := accept_acknowledged h
  have hdoes : Does o trouble (.accept name) _ := .accept
  have hlasts : Lasts (o.accept trouble name).office fun later later' =>
      (o.accept trouble name).office.tournament.roster <+: later.roster ∧
        (o.accept trouble name).office.queue.KeptIn later' :=
    hdoes.lasts hwritten hsound (congrArg (Except.map some) h) fun _ _ hturn => hturn.keeps_roster
  have hname := Swiss.playerName_of_addPlayer hsound.tournament.coherent hadd
  refine ⟨found, e, hfind, hfound, hlasts.mono ?_⟩
  rintro later later' ⟨hroster, hkept⟩
  exact ⟨decided_lasts hqueue hfound (by decide) hkept, Swiss.playerName_of_prefix hroster hname⟩

theorem reject_lasts
    (h : (o.reject trouble name).result = .ok ()) :
    ∃ found e, o.queue.findPendingExact name = .ok found ∧
      o.queue.entries[found.position]? = some e ∧
        Lasts (o.reject trouble name).office fun _ later =>
          later.entries[found.position]? = some { e with status := .rejected } := by
  obtain ⟨found, e, hfind, hfound, hqueue⟩ := reject_acknowledged h
  have hdoes : Does o trouble (.reject name) _ := .reject
  have hlasts := hdoes.lasts hwritten hsound (congrArg (Except.map _) h)
    fun _ _ hturn => hturn.keeps_queue fun _ _ htask => by cases htask
  refine ⟨found, e, hfind, hfound, hlasts.mono fun _ later hkept => ?_⟩
  exact decided_lasts hqueue hfound (by decide) hkept.2

end Acknowledged

/-- What is acknowledged lasts. An office that is opened again has the tournament, up to the percentages
of its standings, and the queue that were in memory when each was last saved, and it can be opened while
the tournament is short of the end of the integer ranges. From an acknowledged task on, whatever follows,
a request stays at its position with its name and time, an accepted entry stays accepted and its player
keeps number and name, and a rejected entry stays rejected. -/
theorem acknowledged_lasts
    {log : List Event}
    {o : Office}
    (h : Run log o) :
    (∃ t q, LastSaved log o t q) ∧
    (∀ {t : Tournament} {q : Queue}, LastSaved log o t q →
      (∀ {trouble : Trouble} {policy : Policy} {out : Outcome Answer},
        Does o trouble (.reopen policy) out →
          t.SameCounts out.office.tournament ∧ out.office.queue = q) ∧
      (t.InRange → ∀ policy, ∃ out, Does o Storage.noTrouble (.reopen policy) out)) ∧
    (∀ {trouble : Trouble} {task : Task} {out : Outcome Answer},
      Does o trouble task out → WritesMemory out) ∧
    (∀ {trouble : Trouble} {now : Instant} {name : String}, now.date.inRange = true →
      (o.submit trouble now name).result = .ok () →
        ∃ position,
          o.queue.submit name o.onRoster now = .ok (o.queue.push name now, position) ∧
            Lasts (o.submit trouble now name).office fun _ q =>
              ∃ status, q.entries[position]? = some ⟨name, status, some now⟩) ∧
    (∀ {trouble : Trouble} {name : String} {id : PlayerId},
      (o.accept trouble name).result = .ok id →
        ∃ found e, o.queue.findPending name = .ok found ∧
          o.queue.entries[found.position]? = some e ∧
            Lasts (o.accept trouble name).office fun t q =>
              q.entries[found.position]? = some { e with status := .accepted } ∧
                t.playerName id = some e.name) ∧
    (∀ {trouble : Trouble} {name : String},
      (o.reject trouble name).result = .ok () →
        ∃ found e, o.queue.findPendingExact name = .ok found ∧
          o.queue.entries[found.position]? = some e ∧
            Lasts (o.reject trouble name).office fun _ q =>
              q.entries[found.position]? = some { e with status := .rejected }) := by
  obtain ⟨t, q, hsaved⟩ := h.lastSaved
  obtain ⟨hwritten, hsound⟩ := hsaved.written
  refine ⟨⟨t, q, hsaved⟩, ?_, ?_, ?_, ?_, ?_⟩
  · intro t q hlast
    exact ⟨hlast.reopen, hlast.reopens⟩
  · intro trouble task out hdoes
    exact hdoes.writesMemory
  · intro trouble now name hdated hresult
    exact submit_lasts hwritten hsound hdated hresult
  · intro trouble name id hresult
    exact accept_lasts hwritten hsound hresult
  · intro trouble name hresult
    exact reject_lasts hwritten hsound hresult

theorem acknowledged_lasts_ann :
    ∃ log, Run log annAsked ∧
      (annAsked.accept Storage.noTrouble "ann ").result = .ok 1 ∧
      ∃ out, Does annAccepted Storage.noTrouble (.reopen .acceptOnly) out ∧
        annAccepted.tournament.SameCounts out.office.tournament ∧
        out.office.queue.entries = [⟨"Ann", .accepted, some springDay⟩] ∧
        out.office.tournament.playerName 1 = some "Ann" := by
  obtain ⟨log, hasked⟩ := annAsked_run
  have haccept : Does annAsked Storage.noTrouble (.accept "ann ") _ := .accept
  have haccepted : Run (log ++ [_]) annAccepted := hasked.step haccept
  have hresult : (annAsked.accept Storage.noTrouble "ann ").result = .ok 1 := by decide +kernel
  have hqueue : annAccepted.queue.entries = [⟨"Ann", .accepted, some springDay⟩] := by
    decide +kernel
  have hrange : annAccepted.tournament.InRange := ⟨by decide +kernel, by decide +kernel⟩
  obtain ⟨⟨t, q, hsaved⟩, -, -, -, haccepts, -⟩ := acknowledged_lasts hasked
  have hsaved' : LastSaved _ annAccepted annAccepted.tournament annAccepted.queue := hsaved.step haccept
  obtain ⟨hagain, hopens⟩ := (acknowledged_lasts haccepted).2.1 hsaved'
  obtain ⟨out, hreopen⟩ := hopens hrange .acceptOnly
  obtain ⟨hsame, hqueue'⟩ := hagain hreopen
  obtain ⟨found, e, hfind, hfound, hlasts⟩ := haccepts hresult
  have hwaiting : annAsked.queue.entries = [⟨"Ann", .pending, some springDay⟩] := by
    decide +kernel
  have hann := List.mem_of_getElem? hfound
  rw [hwaiting, List.mem_singleton] at hann
  have hkept := (hlasts _ _ (Leads.rest.step hreopen)).1.2
  rw [hann] at hkept
  exact ⟨log, hasked, hresult, out, hreopen, hsame, hqueue' ▸ hqueue, hkept⟩

end Office
end TournamentDesk
