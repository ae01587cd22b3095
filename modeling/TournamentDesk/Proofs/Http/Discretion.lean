import TournamentDesk.Proofs.Http.Requests
import TournamentDesk.Proofs.Office.Faults

/-!
# Clients learn nothing about storage

A fault of the storage names files and says what the system said. Clients are told that something could not
be saved, in words that are the same for all faults, and what is left in memory and in the records does not
depend on the fault either. So two runs that differ in faults only, and not in which writes fail, cannot be
told apart from outside, however many requests are made.

* `problemAnswer_congr`: the answer to a problem does not depend on faults.
* `handle_alike`: one request under two faults.
* `faults_stay_inside`: any number of requests.
-/

namespace TournamentDesk
namespace Http

open Office (FailAlike Outcome Problem ResultsAlike)
open Storage (Fault)

/-- Two requests meet the same but for faults of the storage and for the identifiers that are given out. -/
structure Circumstances.Alike (c c' : Circumstances) : Prop where
  /-- The same attempts fail. -/
  trouble : FailAlike c.trouble c'.trouble
  draw : c.draw = c'.draw
  now : c.now = c'.now

/-- The same request is made in circumstances that are alike. -/
structure MadeAlike (x y : Circumstances × Request) : Prop where
  circumstances : x.1.Alike y.1
  request : x.2 = y.2

/-! ## One action -/

/-- Neither the status nor the words depend on a fault, also where it is the cause of another problem. -/
theorem problemAnswer_congr
    {p q : Problem}
    (h : p.Alike q) :
    problemAnswer p = problemAnswer q := by
  cases h with
  | same => rfl
  | storage f g => exact congrArg (Answer.failure .internalError) (Problem.clientMessage_storage f g)
  | partialCommit name stage cause => rfl

theorem Served.ofOutcome_congr
    {α : Type}
    {out out' : Outcome α}
    (h : out.Alike out')
    (done : Office → α → Answer) :
    Served.ofOutcome out done = Served.ofOutcome out' done := by
  obtain ⟨result, office, writes⟩ := out
  obtain ⟨result', office', writes'⟩ := out'
  obtain rfl : office = office' := h.office
  have hresult : ResultsAlike result result' := h.result
  cases hresult with
  | done a => rfl
  | failed problem => simp only [Served.ofOutcome, problemAnswer_congr problem]

theorem act_congr
    {c c' : Circumstances}
    (h : c.Alike c')
    (o : Office)
    (a : Action) :
    act o c a = act o c' a := by
  cases a with
  | health => simp only [act, h.now]
  | register name =>
      simp only [act, h.now]
      exact Served.ofOutcome_congr (Office.submit_alike h.trouble o c'.now name) _
  | accept name =>
      simp only [act]
      exact Served.ofOutcome_congr (Office.accept_alike h.trouble o name) _
  | reject name =>
      simp only [act]
      exact Served.ofOutcome_congr (Office.reject_alike h.trouble o name) _
  | change verb =>
      simp only [act, h.draw]
      exact Served.ofOutcome_congr (Office.run_alike h.trouble o c'.draw verb) _
  | _ => rfl

namespace Service

/-! ## Requests -/

theorem answer_congr
    {c c' : Circumstances}
    (h : c.Alike c')
    (s : Service)
    (r : Request) :
    s.answer c r = s.answer c' r := by
  simp only [answer, Endpoint.serve, act_congr h]

theorem handle_alike
    {c c' : Circumstances}
    (h : c.Alike c')
    (s : Service)
    (r : Request) :
    (s.handle c r).1.answer = (s.handle c' r).1.answer ∧ (s.handle c r).2 = (s.handle c' r).2 := by
  by_cases hmethod : r.method = .options
  · simp only [handle, if_pos hmethod, and_self]
  · simp only [handle_of_ne_options hmethod, answer_congr h, and_self]

/-- Whatever state a service is in and whatever is asked of it, two runs in which the same writes fail give
the same answers and end in the same state, for whatever reasons the writes fail. -/
theorem faults_stay_inside
    (s : Service)
    {log log' : List (Circumstances × Request)}
    (h : List.Forall₂ MadeAlike log log') :
    (s.handleAll log).1.map Response.answer = (s.handleAll log').1.map Response.answer ∧
      (s.handleAll log).2 = (s.handleAll log').2 := by
  induction h generalizing s with
  | nil => exact ⟨rfl, rfl⟩
  | @cons x y rest rest' hmade _ ih =>
      obtain ⟨c, r⟩ := x
      obtain ⟨c', r'⟩ := y
      obtain rfl : r = r' := hmade.request
      obtain ⟨hanswer, hafter⟩ := handle_alike hmade.circumstances s r
      obtain ⟨hanswers, hend⟩ := ih (s.handle c r).2
      rw [handleAll_cons, handleAll_cons, List.map_cons, List.map_cons, hanswer, ← hafter, hanswers, hend]
      exact ⟨rfl, rfl⟩

/-- Ann asks to play and is accepted, but the acceptance cannot be saved. -/
def annHalfAccepted (fault : Fault) (freshId : String) : List (Circumstances × Request) :=
  [(calm, unsigned "/api/v1/register" "Ann"),
    ({ calm with trouble := fun _ => some fault, freshId }, signed "secret" "/api/v1/admin/accept" "Ann")]

theorem faults_stay_inside_ann :
    let full := annHalfAccepted (.write "/srv/desk/tournament.json" "No space left on device") "2"
    let lost := annHalfAccepted (.unavailable "connection reset") "3"
    let s : Service := ⟨⟨Swiss.Tournament.empty, .empty, .uniform, .empty⟩, "secret"⟩
    List.Forall₂ MadeAlike full lost ∧
      (s.handleAll full).1.map (fun r => r.answer.status) = [.created, .internalError] ∧
      (s.handleAll full).1.map Response.answer = (s.handleAll lost).1.map Response.answer ∧
      (s.handleAll full).2 = (s.handleAll lost).2 := by
  intro full lost s
  have hcalm : calm.Alike calm := ⟨fun _ => rfl, rfl, rfl⟩
  have hmade : List.Forall₂ MadeAlike full lost :=
    .cons ⟨hcalm, rfl⟩ (.cons ⟨⟨fun _ => rfl, rfl, rfl⟩, rfl⟩ .nil)
  exact ⟨hmade, by decide +kernel, faults_stay_inside s hmade⟩

end Service

end Http
end TournamentDesk
