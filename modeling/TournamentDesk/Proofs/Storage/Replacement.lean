import Mathlib.Tactic.Common
import TournamentDesk.Proofs.Storage.Directories
import TournamentDesk.Proofs.Storage.FileStore

/-!
# A record is replaced as a whole or not at all

Writing a record touches three things: the record, the temporary file beside it and the directories on the way to
the data directory. When it succeeds the record is what was written and the temporary file is gone. When it fails
both records are what they were, and no temporary file is left behind.

A data directory that is missing and has a path that goes up makes one exception, in which a path is one thing and
the place where it leads another. The directories made on the way may be where the path of a record leads now, as
the directory `tournament.json` is for the data directory `tournament.json/..`.

* `replace_swept`, `replace_obstructed`: what a failed replacement leaves, and when it fails.
* `Spares`: a tree after a write that has left alone what has other names.
* `record_replaced_or_kept`: how writing a record goes.
-/

namespace TournamentDesk
namespace Storage
namespace FileStore

open Node (AsBefore IsName Grown view_eq_of_reaches)

/-! ## What is left alone -/

/-- The place of a name behind a path. -/
def IsAt (tree : Node) (path : Path) (name : String) (q : Place) : Prop :=
  ∃ place, tree.Enters path place ∧ q = place ++ [name]

/-- A tree in which all directories are left and nothing has changed but what has one of the names behind a path. -/
structure Apart (tree tree' : Node) (path : Path) (names : List String) : Prop where
  kept : tree.KeepsDirectories tree'
  no_more : tree'.KeepsDirectories tree
  elsewhere : ∀ q, (∀ name ∈ names, ¬ IsAt tree path name q) → tree'.look q = tree.look q

theorem Apart.refl (tree : Node) (path : Path) (names : List String) : Apart tree tree path names :=
  ⟨fun _ hq => hq, fun _ hq => hq, fun _ _ => rfl⟩

theorem apart_of_look
    {tree tree' : Node}
    {path : Path}
    {place : Place}
    {names : List String}
    (hplace : tree.Enters path place)
    (hkept : tree.KeepsDirectories tree')
    (hlook : ∀ q, tree'.look q = tree.look q ∨
      tree'.look q ≠ some .directory ∧ ∃ name ∈ names, q = place ++ [name]) :
    Apart tree tree' path names := by
  refine ⟨hkept, fun q hq => ?_, fun q hq => ?_⟩
  · rcases hlook q with hsame | ⟨hother, -⟩
    · exact hsame.symm.trans hq
    · exact absurd hq hother
  · rcases hlook q with hsame | ⟨-, name, hname, rfl⟩
    · exact hsame
    · exact absurd ⟨place, hplace, rfl⟩ (hq name hname)

/-- What has another name is shown as before. -/
theorem Apart.view_eq
    {tree tree' : Node}
    {path : Path}
    {names : List String}
    (h : Apart tree tree' path names)
    {name : String}
    (hname : IsName name)
    (hother : name ∉ names)
    (below : Place) :
    tree'.view (path ++ [name]) below = tree.view (path ++ [name]) below := by
  refine view_eq_of_reaches h.kept hname fun place hreaches => ?_
  have hreached := hreaches.of_directories h.no_more
  rw [hreached.view hname]
  refine h.elsewhere _ fun taken htaken => ?_
  rintro ⟨goal, hgoal, hplaces⟩
  obtain rfl : goal = place := Except.ok.inj (hgoal.follow.symm.trans hreached.follow)
  obtain ⟨rfl, -⟩ := List.cons.inj (List.append_cancel_left hplaces)
  exact hother htaken

/-! ## Replacing a record -/

theorem fileName_ne_temporaryName (record other : RecordName) : fileName record ≠ temporaryName other := by
  cases record <;> cases other <;> decide

/-- A replacement that succeeds leaves nothing where the temporary file was. -/
theorem replace_apart
    {tree tree' : Node}
    {directory : String}
    {record : RecordName}
    {octets : ByteArray}
    (h : replace tree directory record octets = ⟨.ok (), tree'⟩) :
    Apart tree tree' (Path.ofString directory) [fileName record, temporaryName record] ∧
      tree'.hasDirectory (Path.ofString directory) = true ∧
      ∀ below, tree'.view (temporaryPath directory record) below = none := by
  obtain ⟨place, hrecord, htemporary, hkept, hlook⟩ := replace_eq_ok h
  have hapart : Apart tree tree' (Path.ofString directory) [fileName record, temporaryName record] := by
    refine apart_of_look hrecord.enters hkept fun q => ?_
    rw [hlook]
    split_ifs with hfile hgone
    · exact .inr ⟨by simp, fileName record, by simp, hfile⟩
    · exact .inr ⟨by simp, temporaryName record, by simp, hgone⟩
    · exact .inl rfl
  have hne : place ++ [temporaryName record] ≠ place ++ [fileName record] := by
    simp [(fileName_ne_temporaryName record record).symm]
  have hreaches := htemporary.of_directories hkept
  have hgone := (hlook (place ++ [temporaryName record])).trans ((if_neg hne).trans (if_pos rfl))
  refine ⟨hapart, Node.hasDirectory_iff.2 ⟨place, hreaches.enters⟩, fun below => ?_⟩
  rw [temporaryPath, ← temporaryName, hreaches.view (isName_temporaryName record), List.append_cons]
  exact Node.look_below hgone below

/-- What is left after the temporary file has been removed. -/
def swept (tree : Node) (directory : String) (record : RecordName) : Node :=
  (tree.attempt (tree.removeFile (temporaryPath directory record))).tree

theorem swept_of_stored
    {tree stored : Node}
    {directory : String}
    {record : RecordName}
    {octets : ByteArray}
    (h : tree.store (temporaryPath directory record) octets = .ok stored) :
    Apart tree (swept stored directory record) (Path.ofString directory) [temporaryName record] ∧
      (swept stored directory record).view (temporaryPath directory record) [] = none := by
  obtain ⟨place, hplace, hkept, hstored⟩ := Node.store_eq_ok (isName_temporaryName record) h
  have hreaches := hplace.of_directories hkept
  have hfile := (hstored (place ++ [temporaryName record])).trans (if_pos rfl)
  obtain ⟨left, hleft⟩ : ∃ left, left = stored.set (place ++ [temporaryName record]) none := ⟨_, rfl⟩
  have hswept : swept stored directory record = left := by
    unfold swept Node.removeFile
    rw [hleft, temporaryPath, ← temporaryName, hreaches.target_file (isName_temporaryName record) hfile]
    rfl
  have hbelow : stored.look (place ++ [temporaryName record]) ≠ some .directory := by simp [hfile]
  have hlook : ∀ q, left.look q = if q = place ++ [temporaryName record] then none else stored.look q := by
    rw [hleft]
    exact Node.look_drop ⟨hreaches.directory, hbelow⟩
  have hkept' := Node.keepsDirectories_of_look hbelow hlook
  rw [hswept]
  constructor
  · refine apart_of_look hplace.enters (hkept.trans hkept') fun q => ?_
    rw [hlook]
    split_ifs with hgone
    · exact .inr ⟨by simp, temporaryName record, by simp, hgone⟩
    · rw [hstored, if_neg hgone]
      exact .inl rfl
  · have hview := (hreaches.of_directories hkept').view (isName_temporaryName record) []
    rw [hlook, if_pos rfl] at hview
    exact hview

/-- A replacement that fails leaves no temporary file, and nothing else has changed. -/
theorem replace_swept
    {tree left : Node}
    {directory : String}
    {record : RecordName}
    {octets : ByteArray}
    {e : Obstacle}
    (h : replace tree directory record octets = ⟨.error e, left⟩) :
    Apart tree (swept left directory record) (Path.ofString directory) [temporaryName record] ∧
      ∀ file, (swept left directory record).view (temporaryPath directory record) [] ≠ some (.file file) := by
  unfold replace at h
  simp only at h
  split at h
  · next hstore =>
    cases h
    -- nothing has been written, and there is no file that could have been written to
    have hfree : ∀ place file, tree.target (temporaryPath directory record) ≠ .ok (.taken place (.file file)) := by
      intro place file htarget
      rw [Node.store, htarget] at hstore
      cases hstore
    have hswept : swept tree directory record = tree := by
      unfold swept Node.removeFile
      split
      · next place file htarget => exact absurd htarget (hfree place file)
      all_goals rfl
    rw [hswept]
    refine ⟨.refl _ _ _, fun file hview => ?_⟩
    obtain ⟨place, htarget⟩ := Node.target_of_view hview
    exact hfree place file htarget
  · next stored hstore =>
    cases hrename : stored.rename (temporaryPath directory record) (path directory record) with
    | ok renamed =>
        rw [hrename] at h
        cases h
    | error e =>
        rw [hrename] at h
        cases h
        obtain ⟨hapart, hgone⟩ := swept_of_stored hstore
        refine ⟨hapart, fun file hview => ?_⟩
        have hfile := hgone.symm.trans hview
        cases hfile

/-- A replacement fails only where a directory is in the way. -/
theorem replace_obstructed
    {tree left : Node}
    {directory : String}
    {record : RecordName}
    {octets : ByteArray}
    {e : Obstacle}
    (h : replace tree directory record octets = ⟨.error e, left⟩)
    {place : Place}
    (hplace : tree.Reaches (Path.ofString directory) (temporaryName record) place) :
    tree.look (place ++ [fileName record]) = some .directory ∨
      tree.look (place ++ [temporaryName record]) = some .directory := by
  by_contra hfree
  rw [not_or] at hfree
  obtain ⟨stored, hstore⟩ := Node.exists_store hplace (isName_temporaryName record) hfree.2 octets
  obtain ⟨goal, hgoal, hkept, hlook⟩ := Node.store_eq_ok (isName_temporaryName record) hstore
  obtain rfl := hplace.unique hgoal
  have hsource := hplace.of_directories hkept
  have hfile := (hlook (goal ++ [temporaryName record])).trans (if_pos rfl)
  have hne : goal ++ [fileName record] ≠ goal ++ [temporaryName record] := by
    simp [fileName_ne_temporaryName record record]
  have hrecord : stored.look (goal ++ [fileName record]) ≠ some .directory := by
    rw [hlook, if_neg hne]
    exact hfree.1
  have hvalid : Path.Valid (Path.ofString directory ++ [fileName record]) :=
    Path.Valid.of_longer ⟨hplace.uncut, hplace.short⟩
  obtain ⟨renamed, hrename⟩ := Node.exists_rename hsource (isName_temporaryName record) hfile
    ⟨hvalid.uncut, hvalid.short, hsource.follow, hsource.directory⟩ (isName_fileName record) hrecord
  unfold replace temporaryPath path at h
  unfold temporaryName at hstore hrename
  simp only [hstore, hrename] at h
  cases h

/-! ## Writing a record -/

/-- Making a directory does not change where paths behind it lead: it is there already, or its path never goes up. -/
def Steady (tree : Node) (path : Path) : Prop :=
  tree.hasDirectory path = true ∨ ".." ∉ path

/-- A tree after a write that has left alone what does not have one of the names in the data directory. The places
that have none of the names are as before, or directories made on the way to the data directory, and the paths of
the records that have none of the names show what they showed. -/
structure Spares (tree tree' : Node) (directory : String) (names : List String) : Prop where
  places : ∀ q, (∀ name ∈ names, ¬ IsAt tree' (Path.ofString directory) name q) →
    AsBefore tree tree' (Path.ofString directory) q
  records : Steady tree (Path.ofString directory) → ∀ record, fileName record ∉ names →
    ∀ below, tree'.view (path directory record) below = tree.view (path directory record) below

theorem Apart.isAt
    {tree tree' : Node}
    {path : Path}
    {names : List String}
    (h : Apart tree tree' path names)
    {name : String}
    {q : Place}
    (hq : IsAt tree path name q) :
    IsAt tree' path name q := by
  obtain ⟨place, hplace, heq⟩ := hq
  exact ⟨place, hplace.mono h.kept, heq⟩

theorem Apart.spares
    {tree made tree' : Node}
    {directory : String}
    {names : List String}
    (h : Apart made tree' (Path.ofString directory) names)
    (hmade : tree.makeAll (Path.ofString directory) = ⟨.ok (), made⟩)
    (hgrown : Grown tree made (Path.ofString directory)) :
    Spares tree tree' directory names := by
  constructor
  · intro q hq
    exact (hgrown q).of_look h.kept (h.elsewhere q fun name hname hat => hq name hname (h.isAt hat))
  · intro hsteady record hother below
    refine (h.view_eq (isName_fileName record) hother below).trans ?_
    rcases hsteady with hthere | hup
    · rw [Node.makeAll_of_hasDirectory hthere] at hmade
      cases hmade
      rfl
    · exact hgrown.view_eq hup (isName_fileName record) below

/-- How writing a record goes: the record has been replaced and no temporary file is left, or the data directory has
not been made, or it has been made and the record has not been replaced, since a directory is in the way or the
path of the temporary file cannot be asked for. What such a path would lead to is not touched. -/
inductive Goes
    (tree : Node)
    (directory : String)
    (record : RecordName)
    (octets : ByteArray) :
    Saved → Prop where
  | replaced
      {tree' : Node}
      (there : read tree' directory record = .ok (some octets))
      (cleared : ∀ below, tree'.view (temporaryPath directory record) below = none)
      (made : tree'.hasDirectory (Path.ofString directory) = true)
      (spared : Spares tree tree' directory [fileName record, temporaryName record]) :
      Goes tree directory record octets ⟨.ok (), tree'⟩
  | unmade
      {tree' : Node}
      {cause : String}
      (missing : tree'.hasDirectory (Path.ofString directory) = false)
      (same : ∀ record below, tree'.view (path directory record) below = tree.view (path directory record) below)
      (spared : Spares tree tree' directory []) :
      Goes tree directory record octets ⟨.error (.createDirectory directory cause), tree'⟩
  | unwritten
      {tree' : Node}
      {cause : String}
      (made : Path.ofString directory ≠ [] → tree'.hasDirectory (Path.ofString directory) = true)
      (obstructed : ∀ place, tree'.Reaches (Path.ofString directory) (temporaryName record) place →
        tree'.look (place ++ [fileName record]) = some .directory ∨
          tree'.look (place ++ [temporaryName record]) = some .directory)
      (cleared : ∀ file, tree'.view (temporaryPath directory record) [] ≠ some (.file file))
      (spared : Spares tree tree' directory [temporaryName record]) :
      Goes tree directory record octets ⟨.error (.write (writtenPath directory record) cause), tree'⟩

/-- A record is replaced as a whole or not at all. -/
theorem record_replaced_or_kept
    (tree : Node)
    (directory : String)
    (record : RecordName)
    (octets : ByteArray) :
    Goes tree directory record octets (write tree directory record octets) := by
  obtain ⟨saved, hsaved⟩ : ∃ saved, write tree directory record octets = saved := ⟨_, rfl⟩
  have hread : (write tree directory record octets).result = .ok () →
      read (write tree directory record octets).tree directory record = .ok (some octets) := read_write
  have hmakes := tree.makeAll_made (Path.ofString directory)
  rw [hsaved] at hread ⊢
  unfold write at hsaved
  split at hsaved
  · next e left hmade =>
    subst hsaved
    rw [hmade] at hmakes
    cases hmakes with
    | failed grown missing =>
        have hsame : ∀ record below,
            left.view (path directory record) below = tree.view (path directory record) below := by
          intro record below
          refine view_eq_of_reaches grown.keepsDirectories (isName_fileName record) fun place hreaches => ?_
          exact absurd hreaches.enters (missing place)
        refine .unmade ?_ hsame ⟨fun q _ => grown q, fun _ record _ => hsame record⟩
        rw [← Bool.not_eq_true, Node.hasDirectory_iff, not_exists]
        exact missing
  · next made hmade =>
    rw [hmade] at hmakes
    cases hmakes with
    | made grown there =>
        split at hsaved
        · next tree' hreplaced =>
          subst hsaved
          obtain ⟨hapart, hthere, hcleared⟩ := replace_apart hreplaced
          exact .replaced (hread rfl) hcleared hthere (hapart.spares hmade grown)
        · next e left hfailed =>
          subst hsaved
          obtain ⟨hapart, hcleared⟩ := replace_swept hfailed
          refine .unwritten (fun hroot => ?_) (fun place hplace => ?_) hcleared (hapart.spares hmade grown)
          · obtain ⟨place, hplace⟩ := there.resolve_left hroot
            exact Node.hasDirectory_iff.2 ⟨place, hplace.mono hapart.kept⟩
          · have hobstacle := replace_obstructed hfailed (hplace.of_directories hapart.no_more)
            exact hobstacle.imp (hapart.kept _) (hapart.kept _)

/-- A data directory that goes up again from where the record would be. -/
def backDirectory : String :=
  "tournament.json/.."

theorem ofString_backDirectory : Path.ofString backDirectory = ["tournament.json", ".."] := by
  rw [Path.ofString_eq]
  rfl

/-- A directory in place of the record. -/
def recordMade : Node :=
  .directory [("tournament.json", .empty)]

theorem makeAll_backDirectory : Node.empty.makeAll ["tournament.json", ".."] = ⟨.ok (), recordMade⟩ := by
  have hpath : Path.parent ["tournament.json", ".."] = ["tournament.json"] := by decide
  have hmissing : Node.empty.ensureDirectory ["tournament.json", ".."] = ⟨.error .missing, .empty⟩ := rfl
  have hmade : Node.empty.ensureDirectory ["tournament.json"] = ⟨.ok (), recordMade⟩ := rfl
  have hthere : recordMade.ensureDirectory ["tournament.json", ".."] = ⟨.ok (), recordMade⟩ := rfl
  have hparent : Node.empty.makeAll ["tournament.json"] = ⟨.ok (), recordMade⟩ := by
    rw [Node.makeAll, hmade]
    rfl
  rw [Node.makeAll, hmissing]
  simp only [hpath, hparent, hthere]
  rfl

theorem replace_backDirectory (octets : ByteArray) :
    ∃ left, replace recordMade backDirectory .tournament octets = ⟨.error .isDirectory, left⟩ ∧
      swept left backDirectory .tournament = recordMade := by
  simp only [replace, swept, temporaryPath, path, ofString_backDirectory]
  exact ⟨_, rfl, rfl⟩

/-- The directory that has been made on the way is where the path of the record leads now. -/
theorem directory_where_record_was_missing :
    (write Node.empty backDirectory .tournament "new".toUTF8).result =
        .error (.write (writtenPath backDirectory .tournament) "Is a directory") ∧
      Node.empty.view (path backDirectory .tournament) [] = none ∧
      (write Node.empty backDirectory .tournament "new".toUTF8).tree.view
        (path backDirectory .tournament) [] = some .directory := by
  have hwrite : write Node.empty backDirectory .tournament "new".toUTF8 =
      ⟨.error (.write (writtenPath backDirectory .tournament) "Is a directory"), recordMade⟩ := by
    obtain ⟨left, hreplaced, hswept⟩ := replace_backDirectory "new".toUTF8
    rw [write, ofString_backDirectory, makeAll_backDirectory]
    simp only [hreplaced]
    exact congrArg (Saved.mk _) hswept
  rw [hwrite, path, ofString_backDirectory]
  exact ⟨rfl, rfl, rfl⟩

end FileStore
end Storage
end TournamentDesk
