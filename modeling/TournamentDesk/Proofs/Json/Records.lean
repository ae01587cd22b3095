import Mathlib.Data.List.Forall2
import TournamentDesk.Json.Record
import TournamentDesk.Proofs.Json.RoundTrip

/-!
# Records and back

An object whose members stand in the order of the fields is read field by field: members never get in
each other's way, since their names differ. A field that may be left out has its own value then.

* `readRecord_of_holds`: an object that holds values is read as these values.
* `holds_of_readRecord`: an object with all members holds what is read out of it.
* `readBytes_render`: the octets of a value are read as its reading is.
-/

namespace TournamentDesk
namespace Json

/-! ## Single values -/

theorem readInt_intNumeral
    {low high i : Int}
    (hlow : low ≤ i)
    (hhigh : i ≤ high)
    (hleast : -(Decimal.negativeLimit : Int) ≤ low)
    (hgreatest : high ≤ Decimal.significandLimit) :
    readInt low high (Value.int i).reading = .ok i := by
  rw [Value.reading, intNumeral_eq (hleast.trans hlow) (hhigh.trans hgreatest)]
  exact if_pos ⟨hlow, hhigh⟩

theorem readNat_intNumeral
    {high n : Nat}
    (hn : n ≤ high)
    (hgreatest : high ≤ Decimal.significandLimit) :
    readNat high (Value.int n).reading = .ok n := by
  have hleast : -(Decimal.negativeLimit : Int) ≤ 0 := by decide
  rw [readNat, readInt_intNumeral (Int.natCast_nonneg n) (by exact_mod_cast hn) hleast
    (by exact_mod_cast hgreatest)]
  rfl

theorem readInt_eq_ok
    {low high i j : Int}
    (h : readInt low high (Value.int i).reading = .ok j) :
    j = i ∧ low ≤ i ∧ i ≤ high := by
  rw [Value.reading] at h
  unfold readInt at h
  split at h
  · next k hk =>
    have := eq_of_intNumeral (Reading.number.inj hk)
    subst this
    split at h
    · next hbounds =>
      cases h
      exact ⟨rfl, hbounds⟩
    · cases h
  · cases h

theorem readNat_eq_ok
    {high n m : Nat}
    (h : readNat high (Value.int n).reading = .ok m) :
    m = n ∧ n ≤ high := by
  unfold readNat at h
  cases hread : readInt 0 high (Value.int n).reading with
  | error fault =>
      rw [hread] at h
      cases h
  | ok i =>
      obtain ⟨rfl, -, hhigh⟩ := readInt_eq_ok hread
      rw [hread] at h
      cases h
      exact ⟨rfl, by exact_mod_cast hhigh⟩

theorem readText_string (s : String) : readText (Value.string s).reading = .ok s :=
  rfl

theorem readBool_bool (b : Bool) : readBool (Value.bool b).reading = .ok b :=
  rfl

theorem readOption_string
    {α : Type}
    {read : Reader α}
    {s : String}
    {a : α}
    (h : read (Value.string s).reading = .ok a) :
    readOption read (Value.string s).reading = .ok (some a) := by
  have hoption : readOption read (Value.string s).reading =
      (read (Value.string s).reading).map some := by
    simp only [Value.reading, readOption]
  rw [hoption, h]
  rfl

theorem readWord_string
    {α : Type}
    {words : List (String × α)}
    {s : String}
    {a : α}
    (h : words.lookup s = some a) :
    readWord words (Value.string s).reading = .ok a := by
  simp [Value.reading, readWord, h]

/-- Items that are read one by one; each may come back changed. -/
theorem readList_array
    {α β : Type}
    {read : Reader β}
    {toValue : α → Value}
    {R : α → β → Prop}
    {items : List α}
    (h : ∀ a ∈ items, ∃ b, read (toValue a).reading = .ok b ∧ R a b) :
    ∃ bs, readList read (Value.array (items.map toValue)).reading = .ok bs ∧
      List.Forall₂ R items bs := by
  have hitems : ∃ bs, readItems read (itemsReading (items.map toValue)) = .ok bs ∧
      List.Forall₂ R items bs := by
    induction items with
    | nil => exact ⟨[], rfl, .nil⟩
    | cons a items ih =>
        obtain ⟨b, hb, hback⟩ := h a List.mem_cons_self
        obtain ⟨bs, hbs, hall⟩ := ih fun a ha => h a (List.mem_cons_of_mem _ ha)
        refine ⟨b :: bs, ?_, .cons hback hall⟩
        rw [List.map_cons, itemsReading, readItems, hb]
        simp only [hbs]
        rfl
  obtain ⟨bs, hbs, hall⟩ := hitems
  exact ⟨bs, by rw [Value.reading, readList, hbs], hall⟩

/-- Items that come back as they are. -/
theorem readList_array_eq
    {α : Type}
    {read : Reader α}
    {toValue : α → Value}
    {items : List α}
    (h : ∀ a ∈ items, read (toValue a).reading = .ok a) :
    readList read (Value.array (items.map toValue)).reading = .ok items := by
  obtain ⟨bs, hbs, hall⟩ := readList_array (R := Eq) fun a ha => ⟨a, h a ha, rfl⟩
  rw [List.forall₂_eq_eq_eq] at hall
  rw [hbs, hall]

/-! ## Members -/

/-- Members that hold the values of fields, in the order of the fields. -/
inductive Holds : (fs : List Field) → List (String × Value) → Values fs → Prop
  | nil : Holds [] [] ()
  | cons
      {f : Field} {fs : List Field} {v : Value} {a : f.Carrier}
      {members : List (String × Value)} {vs : Values fs}
      (hread : f.read v.reading = .ok a)
      (hrest : Holds fs members vs) :
      Holds (f :: fs) ((f.name, v) :: members) (a, vs)
  | absent
      {f : Field} {fs : List Field} {a : f.Carrier}
      {members : List (String × Value)} {vs : Values fs}
      (habsent : f.absent = some a)
      (hrest : Holds fs members vs) :
      Holds (f :: fs) members (a, vs)

theorem Holds.names
    {fs : List Field}
    {members : List (String × Value)}
    {vs : Values fs}
    (h : Holds fs members vs) :
    ∀ m ∈ members, m.1 ∈ fs.map Field.name := by
  induction h with
  | nil =>
      intro m hm
      cases hm
  | cons hread hrest ih =>
      intro m hm
      rcases List.mem_cons.1 hm with rfl | hm
      · exact List.mem_cons_self
      · exact List.mem_cons_of_mem _ (ih m hm)
  | absent habsent hrest ih => exact fun m hm => List.mem_cons_of_mem _ (ih m hm)

/-- A field that is not among those read has none of the members. -/
theorem Holds.other_names
    {f : Field}
    {fs : List Field}
    {members : List (String × Value)}
    {vs : Values fs}
    (h : Holds fs members vs)
    (hfresh : f.name ∉ fs.map Field.name) :
    ∀ m ∈ members, f.name ≠ m.1 := by
  intro m hm heq
  rw [heq] at hfresh
  exact hfresh (h.names m hm)

/-- Members with other names pass a field by. -/
theorem takeAll_passing
    {f : Field}
    {fs : List Field}
    {members : List (String × Value)}
    (h : ∀ m ∈ members, f.name ≠ m.1)
    (v : Option f.Carrier)
    (d : Draft fs) :
    Draft.takeAll (f :: fs) (membersReading members) (v, d) =
      (Draft.takeAll fs (membersReading members) d).map fun d => (v, d) := by
  induction members generalizing d with
  | nil => rfl
  | cons m members ih =>
      obtain ⟨name, value⟩ := m
      have hname : f.name ≠ name := h _ List.mem_cons_self
      have hrest := ih fun m hm => h m (List.mem_cons_of_mem _ hm)
      simp only [membersReading, Draft.takeAll, Draft.take, if_neg hname]
      cases Draft.take name value.reading fs d with
      | error fault => rfl
      | ok d => exact hrest d

theorem takeAll_of_holds
    {fs : List Field}
    {members : List (String × Value)}
    {vs : Values fs}
    (h : Holds fs members vs)
    (hnames : (fs.map Field.name).Nodup) :
    ∃ d, Draft.takeAll fs (membersReading members) (Draft.blank fs) = .ok d ∧
      Draft.finish fs d = .ok vs := by
  induction h with
  | nil => exact ⟨(), rfl, rfl⟩
  | @cons f fs v a members vs hread hrest ih =>
      obtain ⟨hfresh, hnames⟩ := List.nodup_cons.1 hnames
      obtain ⟨d, hd, hfinish⟩ := ih hnames
      refine ⟨(some a, d), ?_, ?_⟩
      · have hpass := takeAll_passing (hrest.other_names hfresh) (some a) (Draft.blank fs)
        rw [hd] at hpass
        rw [membersReading, Draft.takeAll, Draft.blank, Draft.take, if_pos rfl, hread]
        exact hpass
      · rw [Draft.finish]
        simp only [Option.some_or, hfinish]
        rfl
  | @absent f fs a members vs habsent hrest ih =>
      obtain ⟨hfresh, hnames⟩ := List.nodup_cons.1 hnames
      obtain ⟨d, hd, hfinish⟩ := ih hnames
      refine ⟨(none, d), ?_, ?_⟩
      · rw [Draft.blank, takeAll_passing (hrest.other_names hfresh), hd]
        rfl
      · rw [Draft.finish]
        simp only [Option.none_or, habsent, hfinish]
        rfl

theorem readRecord_of_holds
    {α : Type}
    {fs : List Field}
    {members : List (String × Value)}
    {vs : Values fs}
    (h : Holds fs members vs)
    (hnames : (fs.map Field.name).Nodup)
    (build : Values fs → α) :
    readRecord fs build (Value.object members).reading = .ok (build vs) := by
  obtain ⟨d, hd, hfinish⟩ := takeAll_of_holds h hnames
  rw [Value.reading, readRecord, readValues, hd]
  simp only [hfinish]
  rfl

/-- What has been taken out of an object with all members was there, member by member. -/
theorem holds_of_takeAll
    {fs : List Field}
    {members : List (String × Value)}
    {d : Draft fs}
    (hnames : (fs.map Field.name).Nodup)
    (hall : members.map Prod.fst = fs.map Field.name)
    (h : Draft.takeAll fs (membersReading members) (Draft.blank fs) = .ok d) :
    ∃ vs, Holds fs members vs ∧ Draft.finish fs d = .ok vs := by
  induction fs generalizing members with
  | nil =>
      obtain rfl := List.map_eq_nil_iff.1 hall
      exact ⟨(), .nil, rfl⟩
  | cons f fs ih =>
      obtain ⟨⟨name, v⟩, members, rfl, hname, hrest⟩ := List.map_eq_cons_iff.1 hall
      obtain rfl : name = f.name := hname
      obtain ⟨hfresh, hnames⟩ := List.nodup_cons.1 hnames
      have hother : ∀ m ∈ members, f.name ≠ m.1 := by
        intro m hm heq
        have hin := List.mem_map_of_mem (f := Prod.fst) hm
        rw [hrest, ← heq] at hin
        exact hfresh hin
      rw [membersReading, Draft.takeAll, Draft.blank, Draft.take, if_pos rfl] at h
      cases hread : f.read v.reading with
      | error fault =>
          rw [hread] at h
          cases h
      | ok a =>
          rw [hread] at h
          have hpass := takeAll_passing hother (some a) (Draft.blank fs)
          change Draft.takeAll (f :: fs) (membersReading members) (some a, Draft.blank fs) = .ok d at h
          rw [hpass] at h
          cases htake : Draft.takeAll fs (membersReading members) (Draft.blank fs) with
          | error fault =>
              rw [htake] at h
              cases h
          | ok rest =>
              rw [htake] at h
              cases h
              obtain ⟨vs, hholds, hfinish⟩ := ih hnames hrest htake
              refine ⟨(a, vs), .cons hread hholds, ?_⟩
              rw [Draft.finish]
              simp only [Option.some_or, hfinish]
              rfl

theorem holds_of_readRecord
    {α : Type}
    {fs : List Field}
    {members : List (String × Value)}
    {build : Values fs → α}
    {a : α}
    (hnames : (fs.map Field.name).Nodup)
    (hall : members.map Prod.fst = fs.map Field.name)
    (h : readRecord fs build (Value.object members).reading = .ok a) :
    ∃ vs, Holds fs members vs := by
  rw [Value.reading, readRecord, readValues] at h
  split at h
  · cases h
  · next d hd =>
    obtain ⟨vs, hholds, -⟩ := holds_of_takeAll hnames hall hd
    exact ⟨vs, hholds⟩

/-! ## Whole texts -/

theorem readBytes_render
    {α : Type}
    {read : Reader α}
    {v : Value}
    {a : α}
    (h : read v.reading = .ok a)
    (style : Style) :
    readBytes read (v.render style).toUTF8 = .ok a := by
  rw [readBytes, ofBytes_render]
  simp [h]

theorem readBytes_render_eq_ok
    {α : Type}
    {read : Reader α}
    {v : Value}
    {a : α}
    {style : Style}
    (h : readBytes read (v.render style).toUTF8 = .ok a) :
    read v.reading = .ok a := by
  rw [readBytes, ofBytes_render] at h
  simp only at h
  split at h
  · cases h
  · next b hb =>
    cases h
    exact hb

/-- A record is what is put together from some values of its fields. -/
theorem readBytes_readRecord
    {α : Type}
    {fs : List Field}
    {build : Values fs → α}
    {b : ByteArray}
    {a : α}
    (h : readBytes (readRecord fs build) b = .ok a) :
    ∃ vs, build vs = a := by
  unfold readBytes readRecord at h
  cases hvalues : readValues fs (Document.ofBytes b).body with
  | error fault => simp [hvalues, Except.map] at h
  | ok vs =>
      simp only [hvalues, Except.map] at h
      split at h <;> cases h
      exact ⟨vs, rfl⟩

end Json
end TournamentDesk
