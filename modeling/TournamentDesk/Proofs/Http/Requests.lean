import TournamentDesk.Http.Service
import TournamentDesk.Proofs.Office.Operations

/-!
# What a request comes to

A request changes something only where it is read as an action of an endpoint that is open to it, and then
what the action makes of the office is all that changes. Requests that are answered one after the other can
be split anywhere.

* `Request.readBody_eq_ok_iff`: a body is read if it holds what is asked for and is not too long.
* `handle_of_open`, `handle_of_closed`: a request is served or turned away.
* `handle_of_tooLong`: what a body that is too long comes to.
* `handle_cases`: nothing changes, or an action is done.
* `handleAll_append`: some requests, and then others.
-/

namespace TournamentDesk
namespace Http

open Office (Outcome)

/-- What is answered says nothing about what is left. -/
theorem Served.ofOutcome_office
    {α : Type}
    (out : Outcome α)
    (done : Office → α → Answer) :
    (Served.ofOutcome out done).office = out.office := by
  unfold Served.ofOutcome
  split <;> rfl

/-- A body that is JSON, and declared as such, and reads as a value, however long it is. -/
structure Request.Holds {α : Type} (r : Request) (read : Json.Reader α) (a : α) : Prop where
  declared : r.declaresJson = true
  reads : Json.readBytes read r.body = .ok a

/-- What a body holds is read if the body is not too long. -/
theorem Request.readBody_eq_ok_iff
    {α : Type}
    {r : Request}
    {read : Json.Reader α}
    {a : α} :
    r.readBody read = .ok a ↔ r.Holds read a ∧ r.body.size ≤ maxBodySize := by
  constructor
  · intro h
    unfold readBody octets at h
    split at h
    · next hdeclared =>
      split at h
      · next hshort =>
        change (Json.readBytes read r.body).mapError Defect.body = .ok a at h
        cases hread : Json.readBytes read r.body with
        | error fault =>
            rw [hread] at h
            cases h
        | ok a' =>
            rw [hread] at h
            cases h
            exact ⟨⟨hdeclared, hread⟩, hshort⟩
      · cases h
    · cases h
  · rintro ⟨⟨hdeclared, hread⟩, hshort⟩
    rw [readBody, if_pos hdeclared, octets, if_pos hshort]
    change (Json.readBytes read r.body).mapError Defect.body = .ok a
    rw [hread]
    rfl

theorem Request.readBody_of_tooLong
    {α : Type}
    {r : Request}
    (hdeclared : r.declaresJson = true)
    (hlong : maxBodySize < r.body.size)
    (read : Json.Reader α) :
    r.readBody read = .error .tooLong := by
  rw [readBody, if_pos hdeclared, octets, if_neg (Nat.not_le.2 hlong)]
  rfl

/-- A name that is not blank is read without the blanks at its ends. -/
theorem Request.readTrimmedName_of_readBody
    {r : Request}
    {name : String}
    (hname : r.readBody readName = .ok name)
    (hvisible : Text.isBlank name = false) :
    r.readTrimmedName = .ok (Text.trim name) := by
  rw [Request.readTrimmedName, hname]
  exact if_neg (by simp [hvisible])

/-- The endpoints that read the body of a request as JSON. -/
def Endpoint.readsJson : Endpoint → Bool
  | .register | .accept | .reject | .results | .removePlayer => true
  | _ => false

theorem Endpoint.action_of_tooLong
    {e : Endpoint}
    (he : e.readsJson = true)
    {r : Request}
    (hdeclared : r.declaresJson = true)
    (hlong : maxBodySize < r.body.size) :
    e.action r = .error .tooLong := by
  have hbody {α : Type} (read : Json.Reader α) : r.readBody read = .error .tooLong :=
    Request.readBody_of_tooLong hdeclared hlong read
  have hname : r.readTrimmedName = .error .tooLong := by
    rw [Request.readTrimmedName, hbody]
  cases e with
  | register | results | removePlayer =>
      rw [action, hbody]
      rfl
  | accept | reject =>
      rw [action, hname]
      rfl
  | _ => cases he

/-- A request of the organizer. -/
structure Request.Asks (r : Request) (token : String) (m : Method) (e : Endpoint) : Prop where
  method : r.method = m
  path : r.resource = e.path
  token : r.bears token = true

theorem Endpoint.isOpenTo_of_bears
    (e : Endpoint)
    {token : String}
    {r : Request}
    (h : r.bears token = true) :
    e.isOpenTo token r = true := by
  rw [isOpenTo]
  cases e.audience with
  | everybody => rfl
  | organizer => exact h

namespace Service

/-- A request other than one to say what may be asked. -/
theorem handle_of_ne_options
    {r : Request}
    (hmethod : r.method ≠ .options)
    (s : Service)
    (c : Circumstances) :
    s.handle c r =
      (⟨some (r.id c.freshId),
        if r.method = .head then (s.answer c r).answer.withoutBody else (s.answer c r).answer⟩,
        { s with office := (s.answer c r).office }) := by
  rw [handle, if_neg hmethod]

/-- A request to an endpoint that is closed to it is turned away, and nothing changes. -/
theorem handle_of_closed
    {s : Service}
    {r : Request}
    {e : Endpoint}
    (hmethod : r.method ≠ .options)
    (hpath : r.resource = e.path)
    (hclosed : e.isOpenTo s.token r = false)
    (c : Circumstances) :
    s.handle c r = (⟨some (r.id c.freshId), .bare .unauthorized⟩, s) := by
  have hanswer : s.answer c r = ⟨.bare .unauthorized, s.office⟩ := by
    simp only [answer, hpath, Endpoint.at?_path, hclosed, Bool.not_false, if_true]
  rw [handle_of_ne_options hmethod, hanswer]
  split <;> rfl

/-- A request to an endpoint that is open to it is served. -/
theorem answer_of_open
    {s : Service}
    {r : Request}
    {e : Endpoint}
    (hpath : r.resource = e.path)
    (hopen : e.isOpenTo s.token r = true)
    (hallowed : e.purpose.allows r.method = true)
    (c : Circumstances) :
    s.answer c r = e.serve s.office c r := by
  simp only [answer, hpath, Endpoint.at?_path, hopen, hallowed, Bool.not_true, Bool.false_eq_true,
    if_false]

/-- What is served is answered as it is, unless the request asks for a view without the body. -/
theorem handle_of_open
    {s : Service}
    {r : Request}
    {e : Endpoint}
    (hpath : r.resource = e.path)
    (hopen : e.isOpenTo s.token r = true)
    (hhead : r.method ≠ .head)
    (hallowed : e.purpose.allows r.method = true)
    (c : Circumstances) :
    s.handle c r =
      (⟨some (r.id c.freshId), (e.serve s.office c r).answer⟩,
        { s with office := (e.serve s.office c r).office }) := by
  have hoptions : r.method ≠ .options := by
    intro hmethod
    rw [hmethod] at hallowed
    cases hpurpose : e.purpose <;> rw [hpurpose] at hallowed <;> cases hallowed
  rw [handle_of_ne_options hoptions, answer_of_open hpath hopen hallowed, if_neg hhead]

/-- A request of the organizer is served, unless it asks for a view without the body. -/
theorem handle_of_asks
    {s : Service}
    {r : Request}
    {m : Method}
    {e : Endpoint}
    (h : r.Asks s.token m e)
    (hhead : m ≠ .head)
    (hallowed : e.purpose.allows m = true)
    (c : Circumstances) :
    s.handle c r =
      (⟨some (r.id c.freshId), (e.serve s.office c r).answer⟩,
        { s with office := (e.serve s.office c r).office }) := by
  refine handle_of_open h.path (e.isOpenTo_of_bears h.token) ?_ ?_ c
  · rw [h.method]
    exact hhead
  · rw [h.method]
    exact hallowed

/-- A request of the organizer that cannot be read is answered so, and nothing changes. -/
theorem handle_of_defect
    {s : Service}
    {r : Request}
    {m : Method}
    {e : Endpoint}
    {d : Defect}
    (h : r.Asks s.token m e)
    (hhead : m ≠ .head)
    (hallowed : e.purpose.allows m = true)
    (hdefect : e.action r = .error d)
    (c : Circumstances) :
    s.handle c r = (⟨some (r.id c.freshId), d.answer⟩, s) := by
  rw [handle_of_asks h hhead hallowed c, Endpoint.serve, hdefect]

/-- A body that is too long is answered so by every endpoint that reads it as JSON, and nothing changes. -/
theorem handle_of_tooLong
    {s : Service}
    {r : Request}
    {e : Endpoint}
    (h : r.Asks s.token .post e)
    (he : e.readsJson = true)
    (hdeclared : r.declaresJson = true)
    (hlong : maxBodySize < r.body.size)
    (c : Circumstances) :
    s.handle c r = (⟨some (r.id c.freshId), Defect.tooLong.answer⟩, s) := by
  have hallowed : e.purpose.allows .post = true := by
    cases e <;> cases he <;> rfl
  exact handle_of_defect h (by decide) hallowed (Endpoint.action_of_tooLong he hdeclared hlong) c

theorem answer_cases
    (s : Service)
    (c : Circumstances)
    (r : Request) :
    (s.answer c r).office = s.office ∨
      ∃ e a, Endpoint.at? r.resource = some e ∧ e.isOpenTo s.token r = true ∧
        e.purpose.allows r.method = true ∧ e.action r = .ok a ∧
        (s.answer c r).office = (act s.office c a).office := by
  unfold answer
  split
  · exact .inl rfl
  · next e he =>
    split
    · exact .inl rfl
    split
    · exact .inl rfl
    · next hopen hallowed =>
      rw [Endpoint.serve]
      split
      · exact .inl rfl
      · next a ha => exact .inr ⟨e, a, he, by simpa using hopen, by simpa using hallowed, ha, rfl⟩

/-- Nothing changes, or an action is done: one that an endpoint takes the request for, and the endpoint is
open to the request. -/
theorem handle_cases
    (s : Service)
    (c : Circumstances)
    (r : Request) :
    (s.handle c r).2 = s ∨
      ∃ e a, Endpoint.at? r.resource = some e ∧ e.isOpenTo s.token r = true ∧
        e.purpose.allows r.method = true ∧ e.action r = .ok a ∧
        (s.handle c r).2 = { s with office := (act s.office c a).office } := by
  by_cases hmethod : r.method = .options
  · left
    rw [handle, if_pos hmethod]
  · rw [handle_of_ne_options hmethod]
    rcases s.answer_cases c r with heq | ⟨e, a, he, hopen, hallowed, ha, heq⟩
    · exact .inl (by rw [heq])
    · exact .inr ⟨e, a, he, hopen, hallowed, ha, by rw [heq]⟩

theorem handle_token
    (s : Service)
    (c : Circumstances)
    (r : Request) :
    (s.handle c r).2.token = s.token := by
  rcases s.handle_cases c r with heq | ⟨e, a, -, -, -, -, heq⟩ <;> rw [heq]

theorem handleAll_cons
    (s : Service)
    (c : Circumstances)
    (r : Request)
    (rest : List (Circumstances × Request)) :
    s.handleAll ((c, r) :: rest) =
      ((s.handle c r).1 :: ((s.handle c r).2.handleAll rest).1, ((s.handle c r).2.handleAll rest).2) :=
  rfl

theorem handleAll_append
    (s : Service)
    (log rest : List (Circumstances × Request)) :
    s.handleAll (log ++ rest) =
      ((s.handleAll log).1 ++ ((s.handleAll log).2.handleAll rest).1,
        ((s.handleAll log).2.handleAll rest).2) := by
  induction log generalizing s with
  | nil => rfl
  | cons x log ih =>
      obtain ⟨c, r⟩ := x
      rw [List.cons_append, handleAll_cons, handleAll_cons, ih]
      rfl

/-- Every request has its answer, in the order of the requests. -/
theorem handleAll_length
    (s : Service)
    (log : List (Circumstances × Request)) :
    (s.handleAll log).1.length = log.length := by
  induction log generalizing s with
  | nil => rfl
  | cons x log ih =>
      obtain ⟨c, r⟩ := x
      rw [handleAll_cons, List.length_cons, List.length_cons, ih]

theorem handleAll_token
    (s : Service)
    (log : List (Circumstances × Request)) :
    (s.handleAll log).2.token = s.token := by
  induction log generalizing s with
  | nil => rfl
  | cons x log ih =>
      obtain ⟨c, r⟩ := x
      rw [handleAll_cons, ih, handle_token]

/-! ## Requests about a name -/

/-- The morning of a day in June. -/
def juneMorning : Time.Instant :=
  ⟨⟨2025, 6, 2, by decide, by decide⟩, 36000, 500, by decide, by decide, by decide⟩

/-- Nothing goes wrong on a morning in June. -/
def calm : Circumstances :=
  ⟨Storage.noTrouble, id, juneMorning, "1"⟩

/-- A name as the body of a request. -/
def nameBody (name : String) : ByteArray :=
  ((Json.Value.object [("name", .string name)]).render .compact).toUTF8

/-- A request about a name, with no token. -/
def unsigned (target name : String) : Request :=
  ⟨.post, target, [⟨"Content-Type", "application/json".toUTF8⟩], nameBody name⟩

/-- A request about a name, with a token. -/
def signed (token target name : String) : Request :=
  { unsigned target name with
    headers := ⟨"Authorization", (bearerWord ++ token).toUTF8⟩ :: (unsigned target name).headers }

end Service

end Http
end TournamentDesk
