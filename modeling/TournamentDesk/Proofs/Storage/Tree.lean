import Mathlib.Tactic.Common
import TournamentDesk.Proofs.Storage.Path
import TournamentDesk.Storage.Tree

/-!
# Places and paths

Replacing a file, or filling a free place with one, changes what stands at this one place and nothing
else, and so it changes no directory. Paths are followed through directories only: a path that leads to
a place in a directory leads to the same place after the change.

* `look_set`: what stands where after a node has been put somewhere or dropped.
* `leads_of_target`: where a path leads when it leads anywhere.
* `target_eq_ok`: where a path with a name at its end leads.
* `follow_of_directories`: paths lead where they led as long as all directories are left.
-/

namespace TournamentDesk
namespace Storage
namespace Node

/-! ## What stands at a place -/

/-- What a node is, whatever a directory holds. -/
inductive Kind where
  | file (octets : ByteArray)
  | directory

/-- Whether a node is a file or a directory. -/
def kind : Node → Kind
  | .file octets => .file octets
  | .directory _ => .directory

/-- What stands at a place, whatever a directory holds. -/
def look (root : Node) (place : Place) : Option Kind :=
  (root.get? place).map kind

theorem entry?_directory
    (entries : List (String × Node))
    (name : String) :
    Node.entry? name (directory entries) = entries.lookup name :=
  rfl

theorem look_cons
    (root : Node)
    (name : String)
    (rest : Place) :
    root.look (name :: rest) = (root.entry? name).bind fun child => child.look rest := by
  rw [look, get?]
  cases root.entry? name <;> rfl

theorem any_isDirectory_iff
    {root : Node}
    {place : Place} :
    (root.get? place).any isDirectory = true ↔ root.look place = some .directory := by
  rw [look]
  cases root.get? place with
  | none => simp
  | some n => cases n <;> simp [isDirectory, kind]

theorem look_isSome
    (root : Node)
    (place : Place) :
    (root.look place).isSome = (root.get? place).isSome := by
  rw [look, Option.isSome_map]

theorem look_append
    (root : Node)
    (place rest : Place) :
    root.look (place ++ rest) = (root.get? place).bind fun n => n.look rest := by
  induction place generalizing root with
  | nil => rfl
  | cons name place ih =>
      rw [List.cons_append, look_cons, get?]
      cases root.entry? name with
      | none => rfl
      | some child => exact ih child

theorem look_below
    {root : Node}
    {place : Place}
    (h : root.look place = none)
    (rest : Place) :
    root.look (place ++ rest) = none := by
  rw [look_append, Option.map_eq_none_iff.1 h]
  rfl

/-- Whatever something stands below is a directory. -/
theorem look_eq_directory
    {root : Node}
    {place : Place}
    {name : String}
    {rest : Place}
    (h : root.look (place ++ name :: rest) ≠ none) :
    root.look place = some .directory := by
  rw [look_append] at h
  rw [look]
  cases hthere : root.get? place with
  | none => simp [hthere] at h
  | some n =>
      cases n with
      | file octets => simp [hthere, look_cons, entry?] at h
      | directory entries => rfl

theorem directory_above
    {root : Node}
    {place rest : Place}
    (h : root.look (place ++ rest) = some .directory) :
    root.look place = some .directory := by
  cases rest with
  | nil => rwa [List.append_nil] at h
  | cons name rest =>
      have hbelow : root.look (place ++ name :: rest) ≠ none := by simp [h]
      exact look_eq_directory hbelow

theorem kind_eq_directory
    {n : Node}
    (h : n.kind = .directory) :
    ∃ entries, n = .directory entries := by
  cases n with
  | file octets => cases h
  | directory entries => exact ⟨entries, rfl⟩

/-! ## Putting and dropping files -/

theorem lookup_setEntry
    (name key : String)
    (n : Option Node)
    (entries : List (String × Node)) :
    (setEntry name n entries).lookup key = if key = name then n else entries.lookup key := by
  have hrest : (entries.filter fun e => e.1 ≠ name).lookup key =
      if key = name then none else entries.lookup key := by
    induction entries with
    | nil => simp
    | cons e entries ih =>
        by_cases hname : e.1 = name
        · rw [List.filter_cons_of_neg (by simp [hname]), ih, List.lookup_cons]
          split
          · rfl
          · next hkey => rw [hname, beq_false_of_ne hkey]
        · rw [List.filter_cons_of_pos (by simp [hname]), List.lookup_cons, List.lookup_cons, ih]
          by_cases hkey : key = e.1
          · rw [hkey, beq_self_eq_true]
            exact (if_neg hname).symm
          · rw [beq_false_of_ne hkey]
  rw [setEntry, List.lookup_append, hrest]
  split
  · next hkey => cases n <;> simp [hkey]
  · next hkey =>
    cases n with
    | none => simp
    | some n => simp [List.lookup_cons, beq_false_of_ne hkey]

theorem set_cons
    {entries : List (String × Node)}
    {name : String}
    {child : Node}
    (hchild : entries.lookup name = some child)
    {rest : Place}
    (hrest : rest ≠ [])
    (new : Option Node) :
    (directory entries).set (name :: rest) new =
      directory (setEntry name (some (child.set rest new)) entries) := by
  obtain ⟨next, rest, rfl⟩ := List.exists_cons_of_ne_nil hrest
  simp [set, hchild]

/-- Where a file may be put or dropped: in a directory, and not in place of a directory. -/
structure Open (root : Node) (place : Place) (name : String) : Prop where
  directory : root.look place = some .directory
  nothing_below : root.look (place ++ [name]) ≠ some .directory

/-- A node with nothing below it. -/
def Bare (n : Node) : Prop :=
  ∀ key rest, n.look (key :: rest) = none

theorem bare_file (octets : ByteArray) : (file octets).Bare :=
  fun _ _ => rfl

theorem bare_empty : Node.empty.Bare :=
  fun _ _ => rfl

/-- What stands where after a node has been put into a directory, or dropped from it. -/
theorem look_setEntry
    {entries : List (String × Node)}
    {name : String}
    (h : (entries.lookup name).map kind ≠ some .directory)
    {new : Option Node}
    (hnew : ∀ n ∈ new, n.Bare)
    (q : Place) :
    (directory (setEntry name new entries)).look q =
      if q = [name] then new.map kind else (directory entries).look q := by
  cases q with
  | nil => rfl
  | cons key rest =>
      rw [look_cons, look_cons, entry?_directory, entry?_directory, lookup_setEntry]
      by_cases hkey : key = name
      · subst hkey
        rw [if_pos rfl]
        cases rest with
        | nil =>
            rw [if_pos rfl]
            cases new <;> rfl
        | cons next rest =>
            -- nothing stands below the node that was there, nor below the new one
            have hold : ((entries.lookup key).bind fun child => child.look (next :: rest)) = none := by
              cases hentry : entries.lookup key with
              | none => rfl
              | some child =>
                  rw [hentry] at h
                  cases child with
                  | file octets => rfl
                  | directory entries => exact absurd rfl h
            rw [if_neg (by simp), hold]
            cases new with
            | none => rfl
            | some n => exact hnew n rfl next rest
      · rw [if_neg hkey, if_neg (by simp [hkey])]

/-- What stands where after a node has been put somewhere, or dropped. -/
theorem look_set
    {root : Node}
    {place : Place}
    {name : String}
    (h : root.Open place name)
    {new : Option Node}
    (hnew : ∀ n ∈ new, n.Bare)
    (q : Place) :
    (root.set (place ++ [name]) new).look q =
      if q = place ++ [name] then new.map kind else root.look q := by
  induction place generalizing root q with
  | nil =>
      obtain ⟨entries, rfl⟩ := kind_eq_directory (Option.some.inj h.directory)
      have hset : (directory entries).set [name] new = directory (setEntry name new entries) := rfl
      have hentry : (entries.lookup name).map kind ≠ some .directory := by
        have hbelow := h.nothing_below
        rw [List.nil_append, look_cons, entry?_directory] at hbelow
        cases hfound : entries.lookup name with
        | none => simp
        | some child =>
            rw [hfound] at hbelow
            exact hbelow
      rw [List.nil_append, hset]
      exact look_setEntry hentry hnew q
  | cons step place ih =>
      obtain ⟨hdirectory, hbelow⟩ := h
      rw [look_cons] at hdirectory
      rw [List.cons_append, look_cons] at hbelow
      cases root with
      | file octets => cases hdirectory
      | directory entries =>
          rw [entry?_directory] at hdirectory hbelow
          obtain ⟨child, hchild, hplace⟩ := Option.bind_eq_some_iff.1 hdirectory
          rw [hchild, Option.bind_some] at hbelow
          rw [List.cons_append, set_cons hchild (by simp)]
          cases q with
          | nil => rfl
          | cons key rest =>
              rw [look_cons, look_cons, entry?_directory, entry?_directory, lookup_setEntry]
              by_cases hkey : key = step
              · subst hkey
                rw [if_pos rfl, hchild, Option.bind_some, Option.bind_some, ih ⟨hplace, hbelow⟩]
                simp
              · rw [if_neg hkey, if_neg (by simp [hkey])]

theorem look_put
    {root : Node}
    {place : Place}
    {name : String}
    (h : root.Open place name)
    (octets : ByteArray)
    (q : Place) :
    (root.set (place ++ [name]) (some (.file octets))).look q =
      if q = place ++ [name] then some (.file octets) else root.look q := by
  refine look_set h ?_ q
  rintro n ⟨⟩
  exact bare_file octets

theorem look_drop
    {root : Node}
    {place : Place}
    {name : String}
    (h : root.Open place name)
    (q : Place) :
    (root.set (place ++ [name]) none).look q = if q = place ++ [name] then none else root.look q :=
  look_set h (by simp) q

/-- All directories of a tree are directories in another one. -/
def KeepsDirectories (root root' : Node) : Prop :=
  ∀ q, root.look q = some .directory → root'.look q = some .directory

theorem KeepsDirectories.trans
    {a b c : Node}
    (hab : a.KeepsDirectories b)
    (hbc : b.KeepsDirectories c) :
    a.KeepsDirectories c :=
  fun q hq => hbc q (hab q hq)

/-- Where no directory is replaced, all directories are left. -/
theorem keepsDirectories_of_look
    {root root' : Node}
    {goal : Place}
    {new : Option Kind}
    (hgoal : root.look goal ≠ some .directory)
    (hlook : ∀ q, root'.look q = if q = goal then new else root.look q) :
    root.KeepsDirectories root' := by
  intro q hq
  rw [hlook, if_neg]
  · exact hq
  · rintro rfl
    exact hgoal hq

/-- A file is moved by dropping it and putting it where it belongs. -/
theorem look_move
    {root : Node}
    {source goal : Place}
    {old new : String}
    (hsource : root.Open source old)
    (hgoal : root.Open goal new)
    (octets : ByteArray) :
    root.KeepsDirectories ((root.set (source ++ [old]) none).set (goal ++ [new]) (some (.file octets))) ∧
      ∀ q, ((root.set (source ++ [old]) none).set (goal ++ [new]) (some (.file octets))).look q =
        if q = goal ++ [new] then some (.file octets)
        else if q = source ++ [old] then none
        else root.look q := by
  obtain ⟨dropped, hdropped⟩ : ∃ dropped, dropped = root.set (source ++ [old]) none := ⟨_, rfl⟩
  have hlook : ∀ q, dropped.look q = if q = source ++ [old] then none else root.look q := by
    rw [hdropped]
    exact look_drop hsource
  have hkept := keepsDirectories_of_look hsource.nothing_below hlook
  have hopen : dropped.Open goal new := by
    refine ⟨hkept goal hgoal.directory, ?_⟩
    rw [hlook]
    split
    · simp
    · exact hgoal.nothing_below
  have hput := look_put hopen octets
  rw [← hdropped]
  refine ⟨hkept.trans (keepsDirectories_of_look hopen.nothing_below hput), fun q => ?_⟩
  rw [← hlook]
  exact hput q

/-! ## Following paths -/

theorem follow_append
    (root : Node)
    (place : Place)
    (path rest : Path) :
    root.follow place (path ++ rest) =
      match root.follow place path with
      | .ok goal => root.follow goal rest
      | .error e => .error e := by
  induction path generalizing place with
  | nil => rfl
  | cons part path ih =>
      simp only [List.cons_append, follow]
      split_ifs
      all_goals first | exact ih _ | rfl

/-- A path that goes on to a directory goes through one. -/
theorem directory_of_follow
    {root : Node}
    {place goal : Place}
    {path : Path}
    (h : root.follow place path = .ok goal)
    (hgoal : root.look goal = some .directory) :
    root.look place = some .directory := by
  cases path with
  | nil =>
      cases h
      exact hgoal
  | cons part path =>
      rw [follow] at h
      split at h
      · next hplace => exact any_isDirectory_iff.1 hplace
      · cases h

/-- As long as all directories are left, a path to a directory leads there still. -/
theorem follow_of_directories
    {root root' : Node}
    (hkept : root.KeepsDirectories root')
    {place goal : Place}
    {path : Path}
    (h : root.follow place path = .ok goal)
    (hgoal : root.look goal = some .directory) :
    root'.follow place path = .ok goal := by
  induction path generalizing place with
  | nil => exact h
  | cons part path ih =>
      have hplace := directory_of_follow h hgoal
      rw [follow, if_pos (any_isDirectory_iff.2 hplace)] at h
      rw [follow, if_pos (any_isDirectory_iff.2 (hkept place hplace))]
      split at h
      · next hhere =>
        rw [if_pos hhere]
        exact ih h
      split at h
      · next hhere hup =>
        rw [if_neg hhere, if_pos hup]
        exact ih h
      split at h
      · cases h
      split at h
      · next hhere hup hshort hthere =>
        have hnext := hkept _ (directory_of_follow h hgoal)
        rw [if_neg hhere, if_neg hup, if_neg hshort, if_pos]
        · exact ih h
        · rw [← look_isSome, hnext]
          rfl
      · cases h

/-! ## Where paths lead -/

/-- Where a path leads when it leads anywhere: to something that is there, or by the name at its end to a free place
in a directory. -/
inductive Leads (root : Node) (path : Path) : Target → Prop where
  | taken
      {place : Place}
      {n : Node}
      (follow : root.follow [] path = .ok place)
      (there : root.get? place = some n) :
      Leads root path (.taken place n)
  | free
      {front : Path}
      {name : String}
      {place : Place}
      (path_eq : path = front ++ [name])
      (entry : isEntryName name = true)
      (missing : root.follow [] path = .error .missing)
      (follow : root.follow [] front = .ok place)
      (directory : (root.get? place).any isDirectory = true) :
      Leads root path (.free (place ++ [name]))

theorem leads_of_target
    {root : Node}
    {path : Path}
    {target : Target}
    (h : root.target path = .ok target) :
    path.Valid ∧ root.Leads path target := by
  unfold Node.target at h
  split at h
  · cases h
  split at h
  · cases h
  next huncut hshort =>
  refine ⟨⟨by simpa using huncut, by simpa using hshort⟩, ?_⟩
  split at h
  · next place hfollow =>
    split at h
    · next n hthere =>
      cases h
      exact .taken hfollow hthere
    · cases h
  · next hmissing =>
    split at h
    · next name hname =>
      obtain ⟨front, rfl⟩ := List.getLast?_eq_some_iff.1 hname
      rw [List.dropLast_concat] at h
      split at h
      · next hentry =>
        split at h
        · next place hfollow =>
          split at h
          · next hdirectory =>
            cases h
            exact .free rfl hentry hmissing hfollow hdirectory
          · cases h
        · cases h
      · cases h
    · cases h
  · cases h

/-! ## Paths with a name at their end -/

/-- A name that can be given to an entry. -/
def IsName (name : String) : Prop :=
  isEntryName name = true ∧ isTooLong name = false

/-- A path leads to a place in a directory, where something may stand or not. -/
structure Reaches (root : Node) (path : Path) (name : String) (place : Place) : Prop where
  uncut : Path.isCut (path ++ [name]) = false
  short : Path.isTooLong (path ++ [name]) = false
  follow : root.follow [] path = .ok place
  directory : root.look place = some .directory

/-- Where a path leads that leads to a place. -/
def targetAt (root : Node) (place : Place) : Target :=
  match root.get? place with
  | some n => .taken place n
  | none => .free place

theorem follow_name
    {root : Node}
    {place : Place}
    {name : String}
    (hname : IsName name) :
    root.follow place [name] =
      if (root.get? place).any isDirectory then
        if (root.get? (place ++ [name])).isSome then .ok (place ++ [name]) else .error .missing
      else .error .notDirectory := by
  obtain ⟨hentry, hshort⟩ := hname
  simp only [isEntryName, Bool.and_eq_true, ne_eq, decide_eq_true_eq] at hentry
  simp only [follow, if_neg hentry.1, if_neg hentry.2, hshort, Bool.false_eq_true, if_false]

theorem Reaches.target
    {root : Node}
    {path : Path}
    {name : String}
    {place : Place}
    (h : root.Reaches path name place)
    (hname : IsName name) :
    root.target (path ++ [name]) = .ok (root.targetAt (place ++ [name])) := by
  obtain ⟨huncut, hshort, hfollow, hdirectory⟩ := h
  have hplace := any_isDirectory_iff.2 hdirectory
  unfold Node.target
  rw [huncut, hshort, follow_append, hfollow]
  simp only [Bool.false_eq_true, if_false, follow_name hname, hplace, if_true, targetAt]
  cases hthere : root.get? (place ++ [name]) with
  | some n => simp [hthere]
  | none => simp [hname.1, hfollow, hplace]

theorem target_eq_ok
    {root : Node}
    {path : Path}
    {name : String}
    (hname : IsName name)
    {target : Target}
    (h : root.target (path ++ [name]) = .ok target) :
    ∃ place, root.Reaches path name place ∧ target = root.targetAt (place ++ [name]) := by
  obtain ⟨⟨huncut, hshort⟩, hleads⟩ := leads_of_target h
  have hplace : ∃ place, root.follow [] path = .ok place ∧ root.look place = some .directory := by
    cases hleads with
    | taken follow there =>
        -- whatever a name leads on from is a directory
        rw [follow_append] at follow
        split at follow
        · next place hfollow =>
          rw [follow_name hname] at follow
          split at follow
          · next hdirectory => exact ⟨place, hfollow, any_isDirectory_iff.1 hdirectory⟩
          · cases follow
        · cases follow
    | free path_eq entry missing follow directory =>
        obtain ⟨rfl, -⟩ := List.append_inj' path_eq rfl
        exact ⟨_, follow, any_isDirectory_iff.1 directory⟩
  obtain ⟨place, hfollow, hdirectory⟩ := hplace
  have hreaches : root.Reaches path name place := ⟨huncut, hshort, hfollow, hdirectory⟩
  exact ⟨place, hreaches, Except.ok.inj (h.symm.trans (hreaches.target hname))⟩

theorem Reaches.of_directories
    {root root' : Node}
    {path : Path}
    {name : String}
    {place : Place}
    (h : root.Reaches path name place)
    (hkept : root.KeepsDirectories root') :
    root'.Reaches path name place :=
  ⟨h.uncut, h.short, follow_of_directories hkept h.follow h.directory, hkept place h.directory⟩

/-- A path leads to one directory, whatever name stands behind it. -/
theorem Reaches.unique
    {root : Node}
    {path : Path}
    {name name' : String}
    {place place' : Place}
    (h : root.Reaches path name place)
    (h' : root.Reaches path name' place') :
    place' = place :=
  Except.ok.inj (h'.follow.symm.trans h.follow)

theorem targetAt_cases
    (root : Node)
    (place : Place) :
    (∃ entries, root.targetAt place = .taken place (.directory entries) ∧
        root.look place = some .directory) ∨
      (∃ octets, root.targetAt place = .taken place (.file octets) ∧
        root.look place = some (.file octets)) ∨
      root.targetAt place = .free place ∧ root.look place = none := by
  unfold targetAt look
  cases root.get? place with
  | none => exact .inr (.inr ⟨rfl, rfl⟩)
  | some n =>
      cases n with
      | file octets => exact .inr (.inl ⟨octets, rfl, rfl⟩)
      | directory entries => exact .inl ⟨entries, rfl, rfl⟩

/-! ## Operations -/

theorem Reaches.target_file
    {root : Node}
    {path : Path}
    {name : String}
    {place : Place}
    (h : root.Reaches path name place)
    (hname : IsName name)
    {octets : ByteArray}
    (hfile : root.look (place ++ [name]) = some (.file octets)) :
    root.target (path ++ [name]) = .ok (.taken (place ++ [name]) (.file octets)) := by
  rw [h.target hname]
  rcases root.targetAt_cases (place ++ [name]) with
    ⟨entries, htarget, hlook⟩ | ⟨octets', htarget, hlook⟩ | ⟨htarget, hlook⟩
  · rw [hlook] at hfile
    cases hfile
  · rw [hlook] at hfile
    cases hfile
    rw [htarget]
  · rw [hlook] at hfile
    cases hfile

theorem fetch_of_file
    {root : Node}
    {path : Path}
    {name : String}
    {place : Place}
    (h : root.Reaches path name place)
    (hname : IsName name)
    {octets : ByteArray}
    (hfile : root.look (place ++ [name]) = some (.file octets)) :
    root.fetch (path ++ [name]) = .ok octets := by
  rw [fetch, h.target_file hname hfile]

/-- A file is written unless a directory is in the way. -/
theorem exists_store
    {root : Node}
    {path : Path}
    {name : String}
    {place : Place}
    (h : root.Reaches path name place)
    (hname : IsName name)
    (hfree : root.look (place ++ [name]) ≠ some .directory)
    (octets : ByteArray) :
    ∃ root', root.store (path ++ [name]) octets = .ok root' := by
  unfold store
  rw [h.target hname]
  rcases root.targetAt_cases (place ++ [name]) with
    ⟨entries, htarget, hlook⟩ | ⟨octets', htarget, hlook⟩ | ⟨htarget, hlook⟩
  · exact absurd hlook hfree
  all_goals
    rw [htarget]
    exact ⟨_, rfl⟩

/-- A file is moved unless a directory is in the way. -/
theorem exists_rename
    {root : Node}
    {path path' : Path}
    {old new : String}
    {source goal : Place}
    (hsource : root.Reaches path old source)
    (hold : IsName old)
    {octets : ByteArray}
    (hfile : root.look (source ++ [old]) = some (.file octets))
    (hgoal : root.Reaches path' new goal)
    (hnew : IsName new)
    (hfree : root.look (goal ++ [new]) ≠ some .directory) :
    ∃ root', root.rename (path ++ [old]) (path' ++ [new]) = .ok root' := by
  unfold rename
  rw [hsource.target_file hold hfile, hgoal.target hnew]
  rcases root.targetAt_cases (goal ++ [new]) with
    ⟨entries, htarget, hlook⟩ | ⟨octets', htarget, hlook⟩ | ⟨htarget, hlook⟩
  · exact absurd hlook hfree
  all_goals
    rw [htarget]
    exact ⟨_, rfl⟩

/-- What stands where after a file has been written. -/
theorem store_eq_ok
    {root root' : Node}
    {path : Path}
    {name : String}
    (hname : IsName name)
    {octets : ByteArray}
    (h : root.store (path ++ [name]) octets = .ok root') :
    ∃ place, root.Reaches path name place ∧ root.KeepsDirectories root' ∧
      ∀ q, root'.look q = if q = place ++ [name] then some (.file octets) else root.look q := by
  have hset : ∃ place, root.Reaches path name place ∧ root.Open place name ∧
      root' = root.set (place ++ [name]) (some (.file octets)) := by
    unfold store at h
    cases htarget : root.target (path ++ [name]) with
    | error e =>
        rw [htarget] at h
        cases h
    | ok target =>
        obtain ⟨place, hreaches, rfl⟩ := target_eq_ok hname htarget
        rw [htarget] at h
        rcases root.targetAt_cases (place ++ [name]) with
          ⟨entries, hat, hlook⟩ | ⟨octets', hat, hlook⟩ | ⟨hat, hlook⟩
        · rw [hat] at h
          cases h
        all_goals
          rw [hat] at h
          refine ⟨place, hreaches, ⟨hreaches.directory, ?_⟩, (Except.ok.inj h).symm⟩
          rw [hlook]
          simp
  obtain ⟨place, hreaches, hopen, rfl⟩ := hset
  have hput := look_put hopen octets
  exact ⟨place, hreaches, keepsDirectories_of_look hopen.nothing_below hput, hput⟩

/-- What stands where after a file has been moved. -/
theorem rename_eq_ok
    {root root' : Node}
    {path path' : Path}
    {old new : String}
    (hold : IsName old)
    (hnew : IsName new)
    (h : root.rename (path ++ [old]) (path' ++ [new]) = .ok root') :
    ∃ source goal octets, root.Reaches path old source ∧ root.look (source ++ [old]) = some (.file octets) ∧
      root.Reaches path' new goal ∧ root.KeepsDirectories root' ∧
      ∀ q, root'.look q =
        if q = goal ++ [new] then some (.file octets)
        else if q = source ++ [old] then none
        else root.look q := by
  have hmove : ∃ source goal octets, root.Reaches path old source ∧
      root.look (source ++ [old]) = some (.file octets) ∧ root.Reaches path' new goal ∧
      root.Open goal new ∧
      root' = (root.set (source ++ [old]) none).set (goal ++ [new]) (some (.file octets)) := by
    unfold rename at h
    cases htarget : root.target (path ++ [old]) with
    | error e =>
        rw [htarget] at h
        cases h
    | ok target =>
        obtain ⟨source, hsource, rfl⟩ := target_eq_ok hold htarget
        rw [htarget] at h
        rcases root.targetAt_cases (source ++ [old]) with
          ⟨entries, hat, hfile⟩ | ⟨octets, hat, hfile⟩ | ⟨hat, hfile⟩
        · rw [hat] at h
          cases h
        · rw [hat] at h
          cases htarget' : root.target (path' ++ [new]) with
          | error e =>
              rw [htarget'] at h
              cases h
          | ok target' =>
              obtain ⟨goal, hgoal, rfl⟩ := target_eq_ok hnew htarget'
              rw [htarget'] at h
              rcases root.targetAt_cases (goal ++ [new]) with
                ⟨entries, hat', hlook⟩ | ⟨octets', hat', hlook⟩ | ⟨hat', hlook⟩
              · rw [hat'] at h
                cases h
              all_goals
                rw [hat'] at h
                refine ⟨source, goal, octets, hsource, hfile, hgoal, ⟨hgoal.directory, ?_⟩,
                  (Except.ok.inj h).symm⟩
                rw [hlook]
                simp
        · rw [hat] at h
          cases h
  obtain ⟨source, goal, octets, hsource, hfile, hgoal, hopen, rfl⟩ := hmove
  have hopen' : root.Open source old := by
    refine ⟨hsource.directory, ?_⟩
    rw [hfile]
    simp
  exact ⟨source, goal, octets, hsource, hfile, hgoal, look_move hopen' hopen octets⟩

end Node
end Storage
end TournamentDesk
