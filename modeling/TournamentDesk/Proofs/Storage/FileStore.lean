import Mathlib
import TournamentDesk.Proofs.Registration.Record
import TournamentDesk.Proofs.Storage.Tree
import TournamentDesk.Storage.FileStore

/-!
# Records in files and back

A record that has been written is in its file, the temporary file is gone, and nothing else has changed
since the data directory was there. What is read from the file are the octets that were written, and so
entrants come back as they were.

* `replace_eq_ok`: what stands where after a record has been replaced.
* `read_write`: a written record is read as it was written.
* `saved_entrants_load`: saved entrants are loaded as they were.
-/

namespace TournamentDesk
namespace Storage
namespace FileStore

open Node (IsName)
open Registration (Entrant)

theorem isName_fileName (record : RecordName) : IsName (fileName record) := by
  cases record <;> exact ⟨by decide, by decide⟩

/-- The name of the temporary file beside a record. -/
def temporaryName (record : RecordName) : String :=
  fileName record ++ temporarySuffix

theorem isName_temporaryName (record : RecordName) : IsName (temporaryName record) := by
  cases record <;> exact ⟨by decide, by decide⟩

/-- What stands where after a record has been replaced: the record in its place, nothing beside it, and
everything else as it was. -/
theorem replace_eq_ok
    {tree tree' : Node}
    {directory : String}
    {record : RecordName}
    {octets : ByteArray}
    (h : replace tree directory record octets = ⟨.ok (), tree'⟩) :
    ∃ place, tree.Reaches (Path.ofString directory) (fileName record) place ∧
      tree.Reaches (Path.ofString directory) (temporaryName record) place ∧ tree.KeepsDirectories tree' ∧
      ∀ q, tree'.look q =
        if q = place ++ [fileName record] then some (.file octets)
        else if q = place ++ [temporaryName record] then none
        else tree.look q := by
  have hsteps : ∃ stored, tree.store (temporaryPath directory record) octets = .ok stored ∧
      stored.rename (temporaryPath directory record) (path directory record) = .ok tree' := by
    simp only [replace] at h
    split at h
    · cases h
    · next stored hstore =>
      refine ⟨stored, hstore, ?_⟩
      cases hrename : stored.rename (temporaryPath directory record) (path directory record) with
      | error e =>
          rw [hrename] at h
          cases h
      | ok renamed =>
          rw [hrename] at h
          exact congrArg Except.ok (congrArg Node.Attempt.tree h)
  obtain ⟨stored, hstore, hrename⟩ := hsteps
  obtain ⟨place, hplace, hkept, hstored⟩ := Node.store_eq_ok (isName_temporaryName record) hstore
  obtain ⟨source, goal, octets', hsource, hfile, hgoal, hkept', hrenamed⟩ :=
    Node.rename_eq_ok (isName_temporaryName record) (isName_fileName record) hrename
  -- both names stand behind the path of one directory
  obtain rfl : source = place := (hplace.of_directories hkept).unique hsource
  obtain rfl : goal = source := hsource.unique hgoal
  have hrecord : tree.Reaches (Path.ofString directory) (fileName record) goal :=
    ⟨hgoal.uncut, hgoal.short, hplace.follow, hplace.directory⟩
  refine ⟨goal, hrecord, hplace, hkept.trans hkept', fun q => ?_⟩
  rw [hstored, if_pos rfl] at hfile
  cases hfile
  rw [hrenamed, hstored]
  split_ifs <;> rfl

/-- What is read after a record has been written are the octets that were written. -/
theorem read_write
    {tree : Node}
    {directory : String}
    {record : RecordName}
    {octets : ByteArray}
    (h : (write tree directory record octets).result = .ok ()) :
    read (write tree directory record octets).tree directory record = .ok (some octets) := by
  obtain ⟨saved, hsaved⟩ : ∃ saved, write tree directory record octets = saved := ⟨_, rfl⟩
  rw [hsaved] at h ⊢
  unfold write at hsaved
  split at hsaved
  · subst hsaved
    cases h
  · next made hmade =>
    split at hsaved
    · next renamed hreplaced =>
      subst hsaved
      obtain ⟨place, hreaches, -, hkept, hlook⟩ := replace_eq_ok hreplaced
      have hfile := hlook (place ++ [fileName record])
      rw [if_pos rfl] at hfile
      simp only [read, path, Node.fetch_of_file (hreaches.of_directories hkept) (isName_fileName record) hfile]
    · subst hsaved
      cases h

theorem readEntrants_entrantsRecord
    {es : List Entrant}
    (hes : ∀ e ∈ es, e.Fits) :
    readEntrants (some (Registration.entrantsRecord es)) = .ok (some es) := by
  simp only [readEntrants, Registration.loadEntrants_entrantsRecord hes]

/-! ## Entrants -/

/-- Entrants that have been saved are loaded as they were, from a file as from a record in memory. -/
theorem saved_entrants_load
    {es : List Entrant}
    (hes : ∀ e ∈ es, e.Fits) :
    (∀ tree directory, (saveQueue tree directory es).result = .ok () →
      loadQueue (saveQueue tree directory es).tree directory = .ok (some es)) ∧
    ∀ records : Records,
      readEntrants ((records.after ⟨.queue, Registration.entrantsRecord es, true⟩).get .queue) =
        .ok (some es) := by
  constructor
  · intro tree directory hsaved
    have hread := read_write hsaved
    unfold loadQueue saveQueue
    rw [hread]
    exact readEntrants_entrantsRecord hes
  · intro records
    exact readEntrants_entrantsRecord hes

/-- Entrants of every status, with a name that is escaped and times at both ends of four digits. -/
def oddEntrants : List Entrant :=
  [⟨"Ann \"the\\Ace\"\n", .pending, some ⟨⟨0, 1, 1, by decide, by decide⟩, 1, 1, by decide, by decide, by decide⟩⟩,
    ⟨"", .accepted, none⟩,
    ⟨"\x01é🂡", .rejected,
      some ⟨⟨9999, 12, 31, by decide, by decide⟩, 86399, 999999999, by decide, by decide, by decide⟩⟩]

theorem oddEntrants_fit : ∀ e ∈ oddEntrants, e.Fits := by
  rintro e (_ | ⟨_, _ | ⟨_, _ | ⟨_, ⟨⟩⟩⟩⟩) t ⟨⟩
  · decide
  · decide

theorem ofString_data : Path.ofString "data" = ["data"] := by
  cbv

/-- The data directory is made, and the record in it. -/
theorem write_fresh (octets : ByteArray) : (write Node.empty "data" .queue octets).result = .ok () := by
  have hmade : Node.empty.makeAll ["data"] = ⟨.ok (), .directory [("data", .empty)]⟩ := by
    rw [Node.makeAll]
    rfl
  rw [write, ofString_data, hmade]
  simp only [replace, temporaryPath, path, ofString_data]
  rfl

theorem saved_entrants_load_oddEntrants :
    (saveQueue Node.empty "data" oddEntrants).result = .ok () ∧
      loadQueue (saveQueue Node.empty "data" oddEntrants).tree "data" = .ok (some oddEntrants) :=
  ⟨write_fresh _, (saved_entrants_load oddEntrants_fit).1 Node.empty "data" (write_fresh _)⟩

end FileStore
end Storage
end TournamentDesk
