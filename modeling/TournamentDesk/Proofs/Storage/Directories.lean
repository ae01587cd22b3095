import Mathlib.Tactic.Common
import TournamentDesk.Proofs.Storage.Tree

/-!
# Making directories

Making a directory with all directories on the way to it adds directories to a tree and changes nothing else,
whether it succeeds or not. Each new directory is one that a front part of the path leads to. Where the path never
goes up again, these are the directories above the one that it leads to.

* `Grown`: a tree after directories have been made on the way.
* `makeAll_made`: what making a directory with all directories on the way does.
* `Grown.view_eq`: what is behind a path that never goes up is not changed by making directories on the way.
-/

namespace TournamentDesk
namespace Storage
namespace Node

/-! ## Paths to directories -/

/-- A path leads to a directory. -/
structure Enters (root : Node) (path : Path) (place : Place) : Prop where
  valid : path.Valid
  follow : root.follow [] path = .ok place
  directory : root.look place = some .directory

theorem target_eq_taken
    {root : Node}
    {path : Path}
    {place : Place}
    {n : Node} :
    root.target path = .ok (.taken place n) ↔
      path.Valid ∧ root.follow [] path = .ok place ∧ root.get? place = some n := by
  constructor
  · intro h
    obtain ⟨hvalid, hleads⟩ := leads_of_target h
    cases hleads with
    | taken follow there => exact ⟨hvalid, follow, there⟩
  · rintro ⟨⟨huncut, hshort⟩, hfollow, hthere⟩
    unfold target
    simp only [huncut, hshort, hfollow, hthere, Bool.false_eq_true, if_false]

theorem hasDirectory_iff
    {root : Node}
    {path : Path} :
    root.hasDirectory path = true ↔ ∃ place, root.Enters path place := by
  constructor
  · intro h
    unfold hasDirectory at h
    split at h
    · next place n htarget =>
      obtain ⟨hvalid, hfollow, hthere⟩ := target_eq_taken.1 htarget
      refine ⟨place, hvalid, hfollow, any_isDirectory_iff.1 ?_⟩
      rw [hthere]
      exact h
    · cases h
  · rintro ⟨place, hvalid, hfollow, hdirectory⟩
    have hplace := any_isDirectory_iff.2 hdirectory
    cases hthere : root.get? place with
    | none =>
        rw [hthere] at hplace
        cases hplace
    | some n =>
        rw [hthere] at hplace
        unfold hasDirectory
        rw [target_eq_taken.2 ⟨hvalid, hfollow, hthere⟩]
        exact hplace

/-- Whatever a directory is reached through is a directory. -/
theorem Enters.of_prefix
    {root : Node}
    {path front : Path}
    {place : Place}
    (h : root.Enters path place)
    (hfront : front <+: path) :
    ∃ goal, root.Enters front goal := by
  obtain ⟨rest, rfl⟩ := hfront
  have hfollow := h.follow
  rw [follow_append] at hfollow
  split at hfollow
  · next goal hgoal =>
    exact ⟨goal, h.valid.of_prefix (List.prefix_append _ _), hgoal, directory_of_follow hfollow h.directory⟩
  · cases hfollow

theorem Reaches.enters
    {root : Node}
    {path : Path}
    {name : String}
    {place : Place}
    (h : root.Reaches path name place) :
    root.Enters path place :=
  ⟨Path.Valid.of_prefix ⟨h.uncut, h.short⟩ (List.prefix_append _ _), h.follow, h.directory⟩

theorem Enters.mono
    {root root' : Node}
    {path : Path}
    {place : Place}
    (h : root.Enters path place)
    (hkept : root.KeepsDirectories root') :
    root'.Enters path place :=
  ⟨h.valid, follow_of_directories hkept h.follow h.directory, hkept place h.directory⟩

/-! ## Directories made on the way -/

/-- A front part of a path leads to a place. -/
def OnTheWay (root : Node) (path : Path) (q : Place) : Prop :=
  ∃ front, front <+: path ∧ root.follow [] front = .ok q

/-- What stands at a place is what stood there before, or a directory that has been made on the way of a path. -/
def AsBefore (root root' : Node) (path : Path) (q : Place) : Prop :=
  root'.look q = root.look q ∨
    root.look q = none ∧ root'.look q = some .directory ∧ root'.OnTheWay path q

/-- A tree after directories have been made on the way of a path, and nothing else has been done. -/
def Grown (root root' : Node) (path : Path) : Prop :=
  ∀ q, AsBefore root root' path q

theorem Grown.refl (root : Node) (path : Path) : Grown root root path :=
  fun _ => .inl rfl

theorem Grown.keepsDirectories
    {root root' : Node}
    {path : Path}
    (h : Grown root root' path) :
    root.KeepsDirectories root' := by
  intro q hq
  rcases h q with hsame | ⟨hnone, -, -⟩
  · exact hsame.trans hq
  · rw [hnone] at hq
    cases hq

/-- What is as before stays so as long as it is not touched and all directories are left. -/
theorem AsBefore.of_look
    {root mid root' : Node}
    {path : Path}
    {q : Place}
    (h : AsBefore root mid path q)
    (hkept : mid.KeepsDirectories root')
    (hlook : root'.look q = mid.look q) :
    AsBefore root root' path q := by
  rcases h with hsame | ⟨hnone, hmade, front, hfront, hfollow⟩
  · exact .inl (hlook.trans hsame)
  · exact .inr ⟨hnone, hlook.trans hmade, front, hfront, follow_of_directories hkept hfollow hmade⟩

theorem Grown.of_prefix
    {root root' : Node}
    {path front : Path}
    (h : Grown root root' front)
    (hfront : front <+: path) :
    Grown root root' path := by
  intro q
  rcases h q with hsame | ⟨hnone, hmade, part, hpart, hfollow⟩
  · exact .inl hsame
  · exact .inr ⟨hnone, hmade, part, hpart.trans hfront, hfollow⟩

theorem Grown.trans
    {root mid root' : Node}
    {path : Path}
    (h : Grown root mid path)
    (h' : Grown mid root' path) :
    Grown root root' path := by
  intro q
  rcases h' q with hsame | ⟨hnone, hmade, hway⟩
  · exact (h q).of_look h'.keepsDirectories hsame
  · rcases h q with hsame | ⟨-, hmade', -⟩
    · exact .inr ⟨hsame.symm.trans hnone, hmade, hway⟩
    · rw [hmade'] at hnone
      cases hnone

/-! ## Making a directory -/

/-- A path that leads to a free place has a name at its end. -/
theorem target_eq_free
    {root : Node}
    {path : Path}
    {goal : Place}
    (h : root.target path = .ok (.free goal)) :
    ∃ front name place,
      path = front ++ [name] ∧ IsName name ∧ root.Reaches front name place ∧
        goal = place ++ [name] ∧ root.look goal = none := by
  have hlast : ∃ front name, path = front ++ [name] ∧ IsName name := by
    obtain ⟨-, hleads⟩ := leads_of_target h
    cases hleads with
    | @free front name place path_eq entry missing follow directory =>
        subst path_eq
        refine ⟨front, name, rfl, entry, ?_⟩
        -- a name that is too long would have been refused as such
        rw [follow_append, follow] at missing
        simp only [isEntryName, Bool.and_eq_true, ne_eq, decide_eq_true_eq] at entry
        simp only [Node.follow, if_pos directory, if_neg entry.1, if_neg entry.2] at missing
        split at missing
        · cases missing
        · next hshort => simpa using hshort
  obtain ⟨front, name, rfl, hname⟩ := hlast
  obtain ⟨place, hreaches, htarget⟩ := target_eq_ok hname h
  rcases root.targetAt_cases (place ++ [name]) with
    ⟨entries, hat, -⟩ | ⟨octets, hat, -⟩ | ⟨hat, hlook⟩
  · rw [hat] at htarget
    cases htarget
  · rw [hat] at htarget
    cases htarget
  · rw [hat] at htarget
    cases htarget
    exact ⟨front, name, place, rfl, hname, hreaches, rfl, hlook⟩

/-- A directory that has been made is where its path leads. -/
theorem makeDirectory_eq_ok
    {root root' : Node}
    {path : Path}
    (h : root.makeDirectory path = .ok root') :
    Grown root root' path ∧ ∃ place, root'.Enters path place := by
  unfold makeDirectory at h
  split at h
  · cases h
  · next goal htarget =>
    obtain ⟨front, name, place, rfl, hname, hreaches, rfl, hnone⟩ := target_eq_free htarget
    obtain rfl := Except.ok.inj h
    have hnew : ∀ n ∈ some empty, n.Bare := by
      rintro n ⟨⟩
      exact bare_empty
    have hbelow : root.look (place ++ [name]) ≠ some .directory := by simp [hnone]
    have hlook := look_set ⟨hreaches.directory, hbelow⟩ hnew
    have hreaches' := hreaches.of_directories (keepsDirectories_of_look hbelow hlook)
    obtain ⟨root', hroot'⟩ : ∃ root', root' = root.set (place ++ [name]) (some empty) := ⟨_, rfl⟩
    rw [← hroot'] at hlook hreaches' ⊢
    have hmade : root'.look (place ++ [name]) = some .directory := (hlook _).trans (if_pos rfl)
    have hfollow : root'.follow [] (front ++ [name]) = .ok (place ++ [name]) := by
      rw [follow_append, hreaches'.follow]
      simp only [follow_name hname, any_isDirectory_iff.2 hreaches'.directory, if_true, ← look_isSome, hmade,
        Option.isSome_some]
    constructor
    · intro q
      by_cases hq : q = place ++ [name]
      · subst hq
        exact .inr ⟨hnone, hmade, front ++ [name], List.prefix_rfl, hfollow⟩
      · exact .inl ((hlook q).trans (if_neg hq))
    · exact ⟨place ++ [name], ⟨hreaches.uncut, hreaches.short⟩, hfollow, hmade⟩
  · cases h

/-- How making a directory with all directories on the way goes. The root need not be made, and it is not asked
what it is. -/
inductive Made (root : Node) (path : Path) : Attempt → Prop where
  | made
      {tree : Node}
      (grown : Grown root tree path)
      (there : path = [] ∨ ∃ place, tree.Enters path place) :
      Made root path ⟨.ok (), tree⟩
  | failed
      {tree : Node}
      {e : Obstacle}
      (grown : Grown root tree path)
      (missing : ∀ place, ¬ tree.Enters path place) :
      Made root path ⟨.error e, tree⟩

theorem ensureDirectory_made
    (root : Node)
    (path : Path) :
    Made root path (root.ensureDirectory path) := by
  unfold ensureDirectory
  split
  · next tree hmade =>
    obtain ⟨hgrown, hthere⟩ := makeDirectory_eq_ok hmade
    exact .made hgrown (.inr hthere)
  · split
    · next hthere => exact .made (.refl root path) (.inr (hasDirectory_iff.1 hthere))
    · next hmissing =>
      refine .failed (.refl root path) fun place hplace => ?_
      exact hmissing (hasDirectory_iff.2 ⟨place, hplace⟩)

theorem Made.of_grown
    {root mid : Node}
    {path : Path}
    (hgrown : Grown root mid path)
    {attempt : Attempt}
    (h : Made mid path attempt) :
    Made root path attempt := by
  cases h with
  | made grown there => exact .made (hgrown.trans grown) there
  | failed grown missing => exact .failed (hgrown.trans grown) missing

theorem makeAll_made
    (root : Node)
    (path : Path) :
    Made root path (root.makeAll path) := by
  fun_induction makeAll root path with
  | case1 => exact .made (.refl _ _) (.inl rfl)
  | case2 path hpath _ _ tree hparent ih =>
      rw [hparent] at ih
      cases ih with
      | made grown there => exact (tree.ensureDirectory_made path).of_grown (grown.of_prefix path.parent_prefix)
  | case3 path hpath _ _ hfailed ih =>
      obtain ⟨failed, hparent⟩ : ∃ failed, failed = root.makeAll path.parent := ⟨_, rfl⟩
      rw [← hparent] at ih hfailed ⊢
      cases ih with
      | made grown there => exact absurd rfl (hfailed _)
      | failed grown missing =>
          refine .failed (grown.of_prefix path.parent_prefix) fun place hplace => ?_
          obtain ⟨above, habove⟩ := hplace.of_prefix path.parent_prefix
          exact missing above habove
  | case4 path hpath hdone => exact root.ensureDirectory_made path

/-- A directory that is there need not be made. -/
theorem makeAll_of_hasDirectory
    {root : Node}
    {path : Path}
    (h : root.hasDirectory path = true) :
    root.makeAll path = ⟨.ok (), root⟩ := by
  have hensured : root.ensureDirectory path = ⟨.ok (), root⟩ := by
    obtain ⟨place, hvalid, hfollow, hdirectory⟩ := hasDirectory_iff.1 h
    have hthere : (root.get? place).isSome = true := by
      rw [← look_isSome, hdirectory]
      rfl
    obtain ⟨n, hn⟩ := Option.isSome_iff_exists.1 hthere
    unfold ensureDirectory makeDirectory
    rw [target_eq_taken.2 ⟨hvalid, hfollow, hn⟩]
    simp only [h, if_true]
  rw [makeAll]
  split
  · rfl
  · rw [hensured]

/-! ## Paths that never go up -/

/-- Where a path leads that never goes up. -/
theorem goal_eq_of_follow
    {root : Node}
    {place goal : Place}
    {path : Path}
    (hup : ".." ∉ path)
    (h : root.follow place path = .ok goal) :
    goal = place ++ path.filter fun part => part ≠ "." := by
  induction path generalizing place with
  | nil =>
      cases h
      simp
  | cons part path ih =>
      rw [List.mem_cons, not_or] at hup
      rw [follow] at h
      split at h
      · split at h
        · next hhere =>
          rw [ih hup.2 h, hhere]
          simp
        · next hhere =>
          rw [if_neg (Ne.symm hup.1)] at h
          split at h
          · cases h
          split at h
          · rw [ih hup.2 h, List.filter_cons_of_pos (by simp [hhere])]
            simp
          · cases h
      · cases h

/-- A path that never goes up leads to a directory as soon as that is there. -/
theorem follow_of_goal
    {root root' : Node}
    {place goal : Place}
    {path : Path}
    (hup : ".." ∉ path)
    (h : root'.follow place path = .ok goal)
    (hgoal : root.look goal = some .directory) :
    root.follow place path = .ok goal := by
  induction path generalizing place with
  | nil => exact h
  | cons part path ih =>
      have hplace : root.look place = some .directory := by
        rw [goal_eq_of_follow hup h] at hgoal
        exact directory_above hgoal
      rw [List.mem_cons, not_or] at hup
      rw [follow, if_pos (any_isDirectory_iff.2 hplace)]
      rw [follow] at h
      split at h
      · split at h
        · next hhere =>
          rw [if_pos hhere]
          exact ih hup.2 h
        · next hhere =>
          rw [if_neg (Ne.symm hup.1)] at h
          rw [if_neg hhere, if_neg (Ne.symm hup.1)]
          split at h
          · cases h
          · next hshort =>
            split at h
            · have hthere : root.look (place ++ [part]) = some .directory := by
                rw [goal_eq_of_follow hup.2 h] at hgoal
                exact directory_above hgoal
              rw [if_neg hshort, if_pos]
              · exact ih hup.2 h
              · rw [← look_isSome, hthere]
                rfl
            · cases h
      · cases h

/-- Nothing that has been made on the way of a path that never goes up is behind the path. -/
theorem AsBefore.behind
    {root root' : Node}
    {path : Path}
    (hup : ".." ∉ path)
    {place : Place}
    (hplace : root'.Enters path place)
    {name : String}
    {rest : Place}
    (h : AsBefore root root' path (place ++ name :: rest)) :
    root'.look (place ++ name :: rest) = root.look (place ++ name :: rest) := by
  rcases h with hsame | ⟨-, -, front, ⟨back, rfl⟩, hfollow⟩
  · exact hsame
  · have hfront : ".." ∉ front := fun h => hup (List.mem_append_left _ h)
    have hgoal := goal_eq_of_follow hfront hfollow
    rw [goal_eq_of_follow hup hplace.follow, List.filter_append] at hgoal
    have hlength := congrArg List.length hgoal
    simp only [List.nil_append, List.length_append, List.length_cons] at hlength
    omega

/-! ## What a path shows -/

/-- What stands where a path leads, and below that. -/
def view (root : Node) (path : Path) (below : Place) : Option Kind :=
  match root.target path with
  | .ok (.taken place _) => root.look (place ++ below)
  | _ => none

theorem Reaches.view
    {root : Node}
    {path : Path}
    {name : String}
    {place : Place}
    (h : root.Reaches path name place)
    (hname : IsName name)
    (below : Place) :
    root.view (path ++ [name]) below = root.look (place ++ name :: below) := by
  rw [Node.view, h.target hname, targetAt, List.append_cons place name below]
  cases hthere : root.get? (place ++ [name]) with
  | some n => rfl
  | none =>
      rw [look_append, hthere]
      rfl

/-- A path that leads nowhere shows nothing. -/
theorem view_eq_none
    {root : Node}
    {path : Path}
    {name : String}
    (hname : IsName name)
    (h : ∀ place, ¬ root.Reaches path name place)
    (below : Place) :
    root.view (path ++ [name]) below = none := by
  unfold Node.view
  split
  · next place n htarget =>
    obtain ⟨above, hreaches, -⟩ := target_eq_ok hname htarget
    exact absurd hreaches (h above)
  · rfl

theorem target_of_view
    {root : Node}
    {path : Path}
    {octets : ByteArray}
    (h : root.view path [] = some (.file octets)) :
    ∃ place, root.target path = .ok (.taken place (.file octets)) := by
  unfold Node.view at h
  split at h
  · next place n htarget =>
    rw [List.append_nil, look, (target_eq_taken.1 htarget).2.2] at h
    cases n with
    | file octets' =>
        cases h
        exact ⟨place, htarget⟩
    | directory entries => cases h
  · cases h

/-- As long as all directories are left, a path that led nowhere shows nothing unless it leads somewhere now. -/
theorem view_eq_of_reaches
    {root root' : Node}
    (hkept : root.KeepsDirectories root')
    {path : Path}
    {name : String}
    (hname : IsName name)
    {below : Place}
    (h : ∀ place, root'.Reaches path name place →
      root'.look (place ++ name :: below) = root.view (path ++ [name]) below) :
    root'.view (path ++ [name]) below = root.view (path ++ [name]) below := by
  by_cases hreaches : ∃ place, root'.Reaches path name place
  · obtain ⟨place, hreaches⟩ := hreaches
    rw [hreaches.view hname, h place hreaches]
  · rw [not_exists] at hreaches
    rw [view_eq_none hname hreaches, view_eq_none hname fun place h => hreaches place (h.of_directories hkept)]

/-- Making directories on the way of a path that never goes up changes nothing of what is behind the path. -/
theorem Grown.view_eq
    {root root' : Node}
    {path : Path}
    (h : Grown root root' path)
    (hup : ".." ∉ path)
    {name : String}
    (hname : IsName name)
    (below : Place) :
    root'.view (path ++ [name]) below = root.view (path ++ [name]) below := by
  refine view_eq_of_reaches h.keepsDirectories hname fun place hreaches => ?_
  have hsame := (h (place ++ name :: below)).behind hup hreaches.enters
  by_cases hthere : root.look place = some .directory
  · have hreached : root.Reaches path name place :=
      ⟨hreaches.uncut, hreaches.short, follow_of_goal hup hreaches.follow hthere, hthere⟩
    rw [hsame, hreached.view hname]
  · -- the directory is new, and there was nothing where it is now
    have hnone : root.look (place ++ name :: below) = none := by
      by_contra hsome
      exact hthere (look_eq_directory hsome)
    rw [hsame, hnone, view_eq_none hname]
    intro goal hgoal
    obtain rfl := hreaches.unique (hgoal.of_directories h.keepsDirectories)
    exact hthere hgoal.directory

end Node
end Storage
end TournamentDesk
