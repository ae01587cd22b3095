import TournamentDesk.Proofs.Swiss.Search

/-!
# The search against plain backtracking

Plain backtracking lets the first player of a field meet the earliest opponent for whom the others can be
paired in the same way, and tries every opponent before it gives up. The search for a pairing also gives up
a field in which somebody has nobody to meet, and it ends once its budget is spent. Neither changes what
is found: a field with a stranded player has no tables, and after an opponent who was given up for want of
budget no other is tried.

* `plainPairing`: plain backtracking, which finds tables whenever there are some.
* `pairWithin_agrees`: a search that is decided ends as plain backtracking does.
* `pairUp_conclusive`, `pairWithBye_conclusive`: with budget left, no tables means that there are none.
* `pairUp_agrees_with_plainPairing`: what it means that a search found tables, or found none.
-/

namespace TournamentDesk
namespace Swiss

/-! ## Who may meet -/

/-- Who has met, by the couples that have. -/
def metIn (met : Std.HashSet (PlayerId × PlayerId)) : Rule :=
  fun a b => met.contains (couple a b)

/-- Who may meet: everybody if rematches are allowed, and otherwise those who have not met. -/
def allowed (haveMet : Rule) (allowRematch : Bool) : Rule :=
  fun a b => allowRematch || !haveMet a b

theorem metIn_symm (met : Std.HashSet (PlayerId × PlayerId)) (a b : PlayerId) :
    metIn met a b = metIn met b a := by
  rw [metIn, metIn, (couple_eq_couple_iff a b b a).2 (.inr ⟨rfl, rfl⟩)]

theorem allowed_symm
    {haveMet : Rule}
    (hsymm : ∀ a b, haveMet a b = haveMet b a)
    (allowRematch : Bool)
    (a b : PlayerId) :
    allowed haveMet allowRematch a b = allowed haveMet allowRematch b a := by
  rw [allowed, allowed, hsymm a b]

theorem metIn_ofList (couples : List (PlayerId × PlayerId)) :
    metIn (Std.HashSet.ofList couples) = fun a b => couples.contains (couple a b) := by
  funext a b
  rw [metIn, Std.HashSet.contains_ofList]

/-! ## One player and the rest -/

theorem Pairs.of_perm
    {mayMeet : Rule}
    {field others : List PlayerId}
    {tables : List Table}
    (h : Pairs mayMeet field tables)
    (hperm : field.Perm others) :
    Pairs mayMeet others tables :=
  ⟨h.seats.trans hperm, h.fresh, h.allowed⟩

section Meetings

variable {mayMeet : Rule} (hsymm : ∀ a b, mayMeet a b = mayMeet b a)
include hsymm

/-- Everybody in a field that can be paired has somebody else to meet. -/
theorem Pairs.partner
    {field : List PlayerId}
    {tables : List Table}
    (h : Pairs mayMeet field tables)
    {a : PlayerId}
    (ha : a ∈ field) :
    ∃ b others,
      mayMeet a b = true ∧
        field.Perm (a :: b :: others) ∧
        ∃ rest, Pairs mayMeet others rest := by
  obtain ⟨t, ht, hseat⟩ := List.mem_flatMap.1 (h.seats.mem_iff.2 ha)
  obtain ⟨before, after, rfl⟩ := List.append_of_mem ht
  -- the other tables seat everybody but the two at this one
  have hsplit : field.Perm (t.first :: t.second :: (before ++ after).flatMap Table.seats) := by
    refine h.seats.symm.trans ?_
    rw [List.flatMap_append, List.flatMap_cons, List.flatMap_append]
    exact List.perm_append_comm_assoc _ _ _
  have hallowed := h.allowed t ht
  have hrest : Pairs mayMeet ((before ++ after).flatMap Table.seats) (before ++ after) := by
    refine ⟨.refl _, ?_, ?_⟩
    · intro u hu
      refine h.fresh u ?_
      rcases List.mem_append.1 hu with hu | hu <;> simp [hu]
    · intro u hu
      refine h.allowed u ?_
      rcases List.mem_append.1 hu with hu | hu <;> simp [hu]
  simp only [Table.seats, List.mem_cons, List.not_mem_nil, or_false] at hseat
  rcases hseat with rfl | rfl
  · exact ⟨t.second, _, hallowed, hsplit, _, hrest⟩
  · rw [hsymm] at hallowed
    exact ⟨t.first, _, hallowed, hsplit.trans (.swap _ _ _), _, hrest⟩

/-- The first player of a field that can be paired has an opponent, without whom the others can be paired
too. -/
theorem Pairs.opponent
    {first : PlayerId}
    {rest : List PlayerId}
    {tables : List Table}
    (h : Pairs mayMeet (first :: rest) tables) :
    ∃ b ∈ rest, mayMeet first b = true ∧ ∃ others, Pairs mayMeet (rest.erase b) others := by
  obtain ⟨b, others, hb, hperm, left, hleft⟩ := h.partner hsymm List.mem_cons_self
  have hrest : (b :: others).Perm rest := hperm.cons_inv.symm
  obtain ⟨hmem, hothers⟩ := List.cons_perm_iff_perm_erase.1 hrest
  exact ⟨b, hmem, hb, left, hleft.of_perm hothers⟩

/-- A field with a stranded player cannot be paired. -/
theorem not_pairs_of_hasStranded
    {field : List PlayerId}
    (hnodup : field.Nodup)
    (h : hasStranded mayMeet field = true) :
    ¬ ∃ tables, Pairs mayMeet field tables := by
  rintro ⟨tables, hpairs⟩
  obtain ⟨a, ha, hnobody⟩ := List.any_eq_true.1 h
  obtain ⟨b, others, hb, hperm, -⟩ := hpairs.partner hsymm ha
  have hne : a ≠ b := by
    rintro rfl
    simpa using hperm.nodup_iff.1 hnodup
  have hmem : b ∈ field := hperm.mem_iff.2 (by simp)
  rw [Bool.not_eq_true', List.any_eq_false] at hnobody
  exact hnobody b hmem (by simp [hne, hb])

end Meetings

/-! ## Plain backtracking -/

theorem erase_middle
    {before after : List PlayerId}
    {b : PlayerId}
    (hnodup : (before ++ b :: after).Nodup) :
    (before ++ b :: after).erase b = before ++ after := by
  have hothers : b ∉ before ++ after := (List.nodup_cons.1 (List.perm_middle.nodup_iff.1 hnodup)).1
  have hbefore : b ∉ before := fun hmem => hothers (List.mem_append_left after hmem)
  rw [List.erase_append_right _ hbefore, List.erase_cons_head]

/-- Pairs a field by plain backtracking. The first player meets the earliest opponent it may meet for whom
the others can be paired in the same way. -/
def plainPairing (mayMeet : Rule) : List PlayerId → Option (List Table)
  | [] => some []
  | first :: rest =>
    rest.findSome? fun b =>
      if mayMeet first b then
        (plainPairing mayMeet (rest.erase b)).map fun others => Table.fresh first b :: others
      else none
termination_by field => field.length
decreasing_by exact Nat.lt_succ_of_le List.length_erase_le

/-- Whoever comes before the opponent that is met leaves others who are not paired. -/
theorem plainPairing_cons_eq_some
    {mayMeet : Rule}
    {first : PlayerId}
    {rest : List PlayerId}
    {tables : List Table}
    (h : plainPairing mayMeet (first :: rest) = some tables) :
    ∃ before b after others,
      rest = before ++ b :: after ∧
        mayMeet first b = true ∧
        plainPairing mayMeet (rest.erase b) = some others ∧
        tables = Table.fresh first b :: others ∧
        ∀ c ∈ before, mayMeet first c = true → plainPairing mayMeet (rest.erase c) = none := by
  rw [plainPairing, List.findSome?_eq_some_iff] at h
  obtain ⟨before, b, after, hrest, hfound, hpast⟩ := h
  rw [Option.ite_none_right_eq_some, Option.map_eq_some_iff] at hfound
  obtain ⟨hb, others, hothers, rfl⟩ := hfound
  refine ⟨before, b, after, others, hrest, hb, hothers, rfl, ?_⟩
  intro c hc hmeet
  have hnone := hpast c hc
  rwa [if_pos hmeet, Option.map_eq_none_iff] at hnone

/-- What plain backtracking finds are tables for the field. -/
theorem plainPairing_pairs
    {mayMeet : Rule}
    {field : List PlayerId}
    {tables : List Table}
    (h : plainPairing mayMeet field = some tables) :
    Pairs mayMeet field tables := by
  induction field using plainPairing.induct generalizing tables with
  | case1 =>
      rw [plainPairing] at h
      cases h
      exact Pairs.nil mayMeet
  | case2 first rest ih =>
      obtain ⟨before, b, after, others, hrest, hb, hothers, rfl, -⟩ := plainPairing_cons_eq_some h
      have hmem : b ∈ rest := hrest ▸ List.mem_append_right before List.mem_cons_self
      obtain ⟨l, r, -, hsplit, herase⟩ := List.exists_erase_eq hmem
      have hpairs := ih b hothers
      rw [herase] at hpairs
      rw [hsplit]
      exact hpairs.cons hb

/-- Plain backtracking finds tables whenever there are some. -/
theorem plainPairing_eq_none_iff
    {mayMeet : Rule}
    (hsymm : ∀ a b, mayMeet a b = mayMeet b a)
    {field : List PlayerId} :
    plainPairing mayMeet field = none ↔ ¬ ∃ tables, Pairs mayMeet field tables := by
  constructor
  · rintro hnone ⟨tables, hpairs⟩
    induction field using plainPairing.induct generalizing tables with
    | case1 =>
        rw [plainPairing] at hnone
        cases hnone
    | case2 first rest ih =>
        obtain ⟨b, hmem, hb, others, hothers⟩ := hpairs.opponent hsymm
        rw [plainPairing, List.findSome?_eq_none_iff] at hnone
        have hleft := hnone b hmem
        rw [if_pos hb, Option.map_eq_none_iff] at hleft
        exact ih b hleft others hothers
  · intro hnothing
    rw [Option.eq_none_iff_forall_ne_some]
    intro tables hfound
    exact hnothing ⟨tables, plainPairing_pairs hfound⟩

/-! ## Searches that are decided -/

/-- An outcome that is right by a plain answer, if it is decided. -/
def Outcome.Agrees (out : Outcome) (plain : Option (List Table)) : Prop :=
  out.Decided → out.tables = plain

/-- Trying opponents in turn looks for the first one for whom the others are paired, as long as there is
budget. -/
theorem tryOpponents_agrees
    {mayMeet : Rule}
    {pair : List PlayerId → Nat → Outcome}
    {first : PlayerId}
    {rest : List PlayerId}
    (hnodup : rest.Nodup)
    (hpair : ∀ b ∈ rest, ∀ budget,
      (pair (rest.erase b) budget).Agrees (plainPairing mayMeet (rest.erase b)))
    {passed opponents : List PlayerId}
    (hrest : rest = passed.reverse ++ opponents)
    (budget : Nat) :
    (tryOpponents mayMeet pair first passed opponents budget).Agrees
      (opponents.findSome? fun b =>
        if mayMeet first b then
          (plainPairing mayMeet (rest.erase b)).map fun others => Table.fresh first b :: others
        else none) := by
  induction opponents generalizing passed budget with
  | nil => exact fun _ => rfl
  | cons b later ih =>
      have hmem : b ∈ rest := hrest ▸ List.mem_append_right _ List.mem_cons_self
      have herase : passed.reverse ++ later = rest.erase b := by
        rw [hrest, erase_middle (hrest ▸ hnodup)]
      -- an opponent that is passed over moves to the end of `passed.reverse`, and `rest` stays the same
      have hlater : rest = (b :: passed).reverse ++ later := by
        rw [hrest, List.reverse_cons, List.append_assoc, List.singleton_append]
      intro hdecided
      have htrial := tryOpponents_trial mayMeet pair first passed b later budget
      generalize tryOpponents mayMeet pair first passed (b :: later) budget = out
        at hdecided htrial ⊢
      rw [List.findSome?_cons]
      cases htrial with
      | barred hb =>
          rw [if_neg (Bool.eq_false_iff.1 hb)]
          exact ih hlater budget hdecided
      | spent hb => exact absurd hdecided Outcome.not_decided_spent
      | @seated given left others hb htried =>
          rw [herase] at htried
          have hothers := hpair b hmem given
          rw [htried] at hothers
          rw [if_pos hb, ← hothers (.inl (Option.some_ne_none _))]
          rfl
      | @failed given left hb htried =>
          -- the search came to something, so that this opponent was not given up for want of budget
          rw [herase] at htried
          have hnone := hpair b hmem given
          rw [htried] at hnone
          rw [if_pos hb, ← hnone (.inr (tryOpponents_decided_pos hdecided))]
          exact ih hlater left hdecided

/-- A search that is decided ends as plain backtracking does, with or without giving up fields in which
somebody is stranded. -/
theorem pairWithin_agrees
    {mayMeet : Rule}
    (hsymm : ∀ a b, mayMeet a b = mayMeet b a)
    (prune : Bool)
    {size : Nat}
    {field : List PlayerId}
    (hnodup : field.Nodup)
    (hsize : field.length ≤ size)
    (budget : Nat) :
    (pairWithin mayMeet prune size field budget).Agrees (plainPairing mayMeet field) := by
  induction size generalizing field budget with
  | zero =>
      obtain rfl : field = [] := List.length_eq_zero_iff.1 (Nat.le_zero.1 hsize)
      intro _
      rw [plainPairing]
      rfl
  | succ size ih =>
      cases field with
      | nil =>
          intro _
          rw [plainPairing]
          rfl
      | cons first rest =>
          rw [pairWithin]
          split
          · next hpruned =>
            -- the field is given up, and has no tables
            rw [Bool.and_eq_true] at hpruned
            have hnothing := not_pairs_of_hasStranded hsymm hnodup hpruned.2
            exact fun _ => ((plainPairing_eq_none_iff hsymm).2 hnothing).symm
          · have hothers := (List.nodup_cons.1 hnodup).2
            rw [plainPairing]
            refine tryOpponents_agrees hothers ?_ rfl budget
            intro b _ budget
            have hshorter : (rest.erase b).length ≤ size :=
              Nat.le_trans List.length_erase_le (Nat.le_of_succ_le_succ hsize)
            exact ih (hothers.erase b) hshorter budget

/-! ## Without tables and with budget left -/

/-- An outcome that can be relied on: without tables and with budget left, there are no tables. -/
def Outcome.Conclusive (out : Outcome) (mayMeet : Rule) (field : List PlayerId) : Prop :=
  out.tables = none → 0 < out.left → ¬ ∃ tables, Pairs mayMeet field tables

theorem pairWithin_conclusive
    {mayMeet : Rule}
    (hsymm : ∀ a b, mayMeet a b = mayMeet b a)
    (prune : Bool)
    {size : Nat}
    {field : List PlayerId}
    (hnodup : field.Nodup)
    (hsize : field.length ≤ size)
    (budget : Nat) :
    (pairWithin mayMeet prune size field budget).Conclusive mayMeet field := by
  intro hnone hpos
  rw [← plainPairing_eq_none_iff hsymm, ← hnone]
  exact (pairWithin_agrees hsymm prune hnodup hsize budget (.inr hpos)).symm

theorem pairUp_conclusive
    {haveMet : Rule}
    (hsymm : ∀ a b, haveMet a b = haveMet b a)
    (allowRematch : Bool)
    {field : List PlayerId}
    (hnodup : field.Nodup)
    (budget : Nat) :
    (pairUp haveMet allowRematch field budget).Conclusive
      (fun a b => allowRematch || !haveMet a b) field :=
  pairWithin_conclusive (allowed_symm hsymm allowRematch) _ hnodup (Nat.le_refl _) budget

/-- When no bye led to tables and budget is left, the rest cannot be paired without any of those players. -/
theorem pairWithBye_conclusive
    {haveMet : Rule}
    (hsymm : ∀ a b, haveMet a b = haveMet b a)
    {allowRematch : Bool}
    {field byes : List PlayerId}
    (hnodup : field.Nodup)
    {budget : Nat}
    (hnone : (pairWithBye haveMet allowRematch field byes budget).tables = none)
    (hpos : 0 < (pairWithBye haveMet allowRematch field byes budget).left)
    {bye : PlayerId}
    (hbye : bye ∈ byes) :
    ¬ ∃ tables, Pairs (fun a b => allowRematch || !haveMet a b)
      (field.filter fun id => id ≠ bye) tables := by
  induction byes generalizing budget with
  | nil => cases hbye
  | cons other others ih =>
      unfold pairWithBye at hnone hpos
      split at hnone
      · cases hnone
      · next left htried =>
        simp only [htried] at hpos
        rcases List.mem_cons.1 hbye with rfl | hbye
        · have hlater := pairWithBye_left_le haveMet allowRematch field others left
          refine pairUp_conclusive hsymm allowRematch (hnodup.filter _) budget (by rw [htried]) ?_
          rw [htried]
          exact Nat.lt_of_lt_of_le hpos hlater
        · exact ih hnone hpos hbye

/-! ## What the outcome of a search means -/

/-- A search for distinct players, whoever has met, ends as plain backtracking does. The tables it finds seat
everybody once, only players who may meet, and are the first that plain backtracking comes to. When it finds
none and budget is left, there are none. With more budget than it can spend it always has the answer. -/
theorem pairUp_agrees_with_plainPairing
    (met : Std.HashSet (PlayerId × PlayerId))
    (allowRematch : Bool)
    {field : List PlayerId}
    (hnodup : field.Nodup)
    (budget : Nat) :
    let mayMeet := allowed (metIn met) allowRematch
    let out := pairUp (metIn met) allowRematch field budget
    (∀ tables, out.tables = some tables →
      Pairs mayMeet field tables ∧ plainPairing mayMeet field = some tables) ∧
      (out.tables = none → 0 < out.left → ¬ ∃ tables, Pairs mayMeet field tables) ∧
      (mostTries field.length < budget → out.tables = plainPairing mayMeet field) := by
  intro mayMeet out
  have hsymm : ∀ a b, mayMeet a b = mayMeet b a := allowed_symm (metIn_symm met) allowRematch
  have hagrees : out.Agrees (plainPairing mayMeet field) :=
    pairWithin_agrees hsymm _ hnodup (Nat.le_refl _) budget
  refine ⟨?_, ?_, ?_⟩
  · intro tables hfound
    have hplain := hagrees (.inl (hfound ▸ Option.some_ne_none _))
    exact ⟨pairUp_pairs hfound, hplain ▸ hfound⟩
  · intro hnone hpos
    rw [← plainPairing_eq_none_iff hsymm, ← hagrees (.inr hpos)]
    exact hnone
  · intro henough
    have hspent : budget ≤ out.left + mostTries field.length :=
      pairUp_spends (metIn met) allowRematch (Nat.le_refl _) budget
    exact hagrees (.inr (by omega))

/-- Only the players 3 and 4 have met. -/
def threeAndFour : Std.HashSet (PlayerId × PlayerId) :=
  .ofList [(3, 4)]

/-- If the players 1 and 2 met, the two who have met would be left over, so that 1 meets 3. -/
theorem pairUp_agrees_with_plainPairing_threeAndFour :
    let mayMeet := allowed (metIn threeAndFour) false
    let four : List PlayerId := [1, 2, 3, 4]
    let two : List PlayerId := [3, 4]
    four.Nodup ∧
      pairUp (metIn threeAndFour) false four 10 = ⟨some [.fresh 1 3, .fresh 2 4], 7⟩ ∧
      Pairs mayMeet four [.fresh 1 3, .fresh 2 4] ∧
      mostTries four.length < 10 ∧
      plainPairing mayMeet four = some [.fresh 1 3, .fresh 2 4] ∧
      two.Nodup ∧
      pairUp (metIn threeAndFour) false two 10 = ⟨none, 10⟩ ∧
      ¬ ∃ tables, Pairs mayMeet two tables := by
  intro mayMeet four two
  have hfour : four.Nodup := by decide
  have htwo : two.Nodup := by decide
  have hfound : pairUp (metIn threeAndFour) false four 10 = ⟨some [.fresh 1 3, .fresh 2 4], 7⟩ := by
    rw [threeAndFour, metIn_ofList]
    rfl
  have hnone : pairUp (metIn threeAndFour) false two 10 = ⟨none, 10⟩ := by
    rw [threeAndFour, metIn_ofList]
    rfl
  obtain ⟨htables, -, henough⟩ := pairUp_agrees_with_plainPairing threeAndFour false hfour 10
  obtain ⟨-, hconclusive, -⟩ := pairUp_agrees_with_plainPairing threeAndFour false htwo 10
  rw [hfound] at htables henough
  rw [hnone] at hconclusive
  have hfew : mostTries four.length < 10 := by decide
  exact ⟨hfour, hfound, (htables _ rfl).1, hfew, (henough hfew).symm, htwo, hnone,
    hconclusive rfl (by decide)⟩

end Swiss
end TournamentDesk
