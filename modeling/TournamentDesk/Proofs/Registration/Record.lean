import TournamentDesk.Proofs.Json.Records
import TournamentDesk.Proofs.Time.Instant
import TournamentDesk.Registration.Entrant

/-!
# The registration record and back

Entrants come back from their record in the same order, with their names, statuses and times. Only the
year of a request has to be in the range of years.

* `loadEntrants_entrantsRecord`: the record of entrants is read as the entrants.
-/

namespace TournamentDesk
namespace Registration

open Json (Holds Value)

/-- An entrant whose time of request is in the range of years. -/
def Entrant.Fits (e : Entrant) : Prop :=
  ∀ t, e.submittedAt = some t → t.date.inRange = true

theorem readStatus_word (s : Status) :
    Json.readWord Status.words (Value.string s.word).reading = .ok s := by
  refine Json.readWord_string ?_
  cases s <;> rfl

/-- The field in which the time of request stands. -/
def submittedAtField : Json.Field :=
  .optional "submitted_at" (Json.readOption Entrant.readInstant) none

theorem readSubmittedAt_render
    {t : Time.Instant}
    (h : t.date.inRange = true) :
    submittedAtField.read (Value.string t.render).reading = .ok (some t) := by
  have hread : Entrant.readInstant (Value.string t.render).reading = .ok t := by
    rw [Entrant.readInstant, Json.readText_string]
    simp only [Time.parse?_render h]
    rfl
  have hfield : submittedAtField.read = Json.readOption Entrant.readInstant := rfl
  rw [hfield]
  exact Json.readOption_string hread

theorem Entrant.read_toJson
    {e : Entrant}
    (h : e.Fits) :
    Entrant.read e.toJson.reading = .ok e := by
  obtain ⟨name, status, submittedAt⟩ := e
  cases submittedAt with
  | none =>
      have hholds : Holds Entrant.fields
          [("name", .string name), ("status", .string status.word)] (name, status, none, ()) :=
        .cons (Json.readText_string name) <| .cons (readStatus_word status) <| .absent rfl .nil
      exact Json.readRecord_of_holds hholds (by decide) _
  | some t =>
      have hinstant : Holds [submittedAtField] [("submitted_at", .string t.render)] (some t, ()) :=
        .cons (readSubmittedAt_render (h t rfl)) .nil
      have hholds : Holds Entrant.fields
          [("name", .string name), ("status", .string status.word), ("submitted_at", .string t.render)]
          (name, status, some t, ()) :=
        .cons (Json.readText_string name) <| .cons (readStatus_word status) hinstant
      exact Json.readRecord_of_holds hholds (by decide) _

/-- The record of entrants is read as the entrants. -/
theorem loadEntrants_entrantsRecord
    {es : List Entrant}
    (h : ∀ e ∈ es, e.Fits) :
    loadEntrants (entrantsRecord es) = .ok es :=
  Json.readBytes_render (Json.readList_array_eq fun e he => Entrant.read_toJson (h e he)) .indented

end Registration
end TournamentDesk
