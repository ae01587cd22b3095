import Mathlib.Data.List.Infix
import TournamentDesk.Proofs.Http.Requests
import TournamentDesk.Proofs.Text.Symbols

/-!
# Requests without the token

Whoever does not have the token is turned away from every endpoint of the organizer before anything is
looked at, and can do no more than ask to play: however many requests are made, all that comes of them are
new entries that wait at the end of the queue.

* `Request.presents_of_bears`: an endpoint of the organizer is open only to the exact token.
* `handle_without_token`: what one request without the token comes to.
* `handleAll_without_token`: what any number of them come to.
-/

namespace TournamentDesk
namespace Http

open Registration (Entrant)
open Storage (Records)
open Swiss (Tournament)

/-! ## The token -/

/-- The first field for it in a request holds exactly the word and a token. -/
def Request.Presents (r : Request) (token : String) : Prop :=
  ∃ h, r.header? "authorization" = some h ∧ h.value = (bearerWord ++ token).toUTF8

instance
    (r : Request)
    (token : String) :
    Decidable (r.Presents token) :=
  @decidable_of_iff _ ((r.header? "authorization").map Header.value = some (bearerWord ++ token).toUTF8)
    Option.map_eq_some_iff (@Option.instDecidableEq _ ByteArray.instDecidableEq _ _)

theorem octet_lt_of_isPlainOctet
    {o : UInt8}
    (h : isPlainOctet o = true) :
    o.toNat < 0x80 := by
  simp only [isPlainOctet, Bool.or_eq_true, Bool.and_eq_true, decide_eq_true_eq] at h
  rcases h with ⟨-, hlt⟩ | rfl
  · exact Nat.lt_trans (UInt8.lt_iff_toNat_lt.1 hlt) (by decide)
  · decide

/-- What can be read of a field are its octets, one character for each, if all of them are plain. -/
theorem Header.text?_eq_some_iff
    (h : Header)
    (cs : List Char) :
    h.text? = some cs ↔
      (∀ o ∈ h.value.data.toList, isPlainOctet o = true) ∧
        h.value.data.toList.map (fun o => Char.ofNat o.toNat) = cs := by
  rw [Header.text?, Option.ite_none_right_eq_some, List.all_eq_true, Option.some.injEq]

/-- A field that can be read as a text holds the octets of the text. -/
theorem Header.value_of_text
    {h : Header}
    {s : String}
    (htext : h.text? = some s.toList) :
    h.value = s.toUTF8 := by
  obtain ⟨hplain, htext⟩ := (h.text?_eq_some_iff s.toList).1 htext
  have hsmall : ∀ o ∈ h.value.data.toList, o.toNat < 0x80 :=
    fun o ho => octet_lt_of_isPlainOctet (hplain o ho)
  have hencoded := Text.utf8Encode_octets hsmall
  rw [htext, String.utf8Encode_toList] at hencoded
  rw [String.toUTF8, hencoded]
  exact ByteArray.ext (by simp)

theorem Request.bears_iff
    (r : Request)
    (token : String) :
    r.bears token = true ↔
      ∃ h, r.header? "authorization" = some h ∧ h.text? = some (bearerWord ++ token).toList := by
  rw [Request.bears, decide_eq_true_iff, Request.headerText?, Option.bind_eq_some_iff]

theorem Request.presents_of_bears
    {r : Request}
    {token : String}
    (h : r.bears token = true) :
    r.Presents token := by
  obtain ⟨field, hfield, htext⟩ := (r.bears_iff token).1 h
  exact ⟨field, hfield, Header.value_of_text htext⟩

/-! ## What is asked for -/

/-- The entry that a request to play asks for. -/
def Request.asked? (r : Request) (c : Circumstances) : Option Entrant :=
  if r.method = .post ∧ Endpoint.at? r.resource = some .register then
    (r.readBody readName).toOption.map fun name => ⟨name, .pending, some c.now⟩
  else none

/-- The entries that requests ask for, in their order. -/
def asked (log : List (Circumstances × Request)) : List Entrant :=
  log.filterMap fun x => x.2.asked? x.1

/-- All that has changed are entries that were asked for, at the end of the queue and perhaps in its
record. -/
structure Service.OnlyAsked (s : Service) (es : List Entrant) (s' : Service) : Prop where
  token : s'.token = s.token
  policy : s'.office.policy = s.office.policy
  tournament : s'.office.tournament = s.office.tournament
  tournamentRecord : s'.office.records.tournament = s.office.records.tournament
  queue : ∃ new : List Entrant, new.Sublist es ∧ s'.office.queue.entries = s.office.queue.entries ++ new ∧
    (s'.office.records.queue = s.office.records.queue ∨
      ∃ saved, saved <+: new ∧
        s'.office.records.queue =
          some (Registration.entrantsRecord (s.office.queue.entries ++ saved)))

namespace Service

theorem OnlyAsked.refl
    (s : Service)
    (es : List Entrant) :
    s.OnlyAsked es s :=
  ⟨rfl, rfl, rfl, rfl, [], List.nil_sublist es, (List.append_nil _).symm, .inl rfl⟩

theorem OnlyAsked.trans
    {s s' s'' : Service}
    {es es' : List Entrant}
    (h : s.OnlyAsked es s')
    (h' : s'.OnlyAsked es' s'') :
    s.OnlyAsked (es ++ es') s'' := by
  obtain ⟨new, hnew, hentries, hrecord⟩ := h.queue
  obtain ⟨new', hnew', hentries', hrecord'⟩ := h'.queue
  refine ⟨h'.token.trans h.token, h'.policy.trans h.policy, h'.tournament.trans h.tournament,
    h'.tournamentRecord.trans h.tournamentRecord, new ++ new', hnew.append hnew', ?_, ?_⟩
  · rw [hentries', hentries, List.append_assoc]
  · rcases hrecord' with hsame' | ⟨saved', hsaved', hwritten'⟩
    · rcases hrecord with hsame | ⟨saved, hsaved, hwritten⟩
      · exact .inl (hsame'.trans hsame)
      · exact .inr ⟨saved, hsaved.trans (List.prefix_append new new'), hsame'.trans hwritten⟩
    · refine .inr ⟨new ++ saved', (List.prefix_append_right_inj new).2 hsaved', ?_⟩
      rw [hwritten', hentries, List.append_assoc]

/-! ## One request -/

/-- Asking to play adds an entry that waits, or nothing. -/
theorem submit_onlyAsked
    (s : Service)
    (c : Circumstances)
    (name : String) :
    s.OnlyAsked [⟨name, .pending, some c.now⟩]
      { s with office := (s.office.submit c.trouble c.now name).office } := by
  rcases s.office.submit_cases c.trouble c.now name with ⟨refusal, -, heq⟩ | ⟨-, heq⟩
  · rw [heq]
    exact .refl s _
  · rw [heq]
    cases htrouble : c.trouble .queue with
    | none =>
        rw [(s.office.settle_saved htrouble _).2]
        exact ⟨rfl, rfl, rfl, rfl, _, List.Sublist.refl _, rfl, .inr ⟨_, List.prefix_refl _, rfl⟩⟩
    | some fault =>
        rcases s.office.settle_unsaved htrouble (s.office.queue.push name c.now) with hundone | hkept
        · rw [hundone]
          exact .refl s _
        · rw [hkept]
          exact ⟨rfl, rfl, rfl, rfl, _, List.Sublist.refl _, rfl, .inl rfl⟩

/-- Actions of endpoints that are open to everybody show something, or take in a request to play. -/
theorem action_of_everybody
    {e : Endpoint}
    (he : e.audience = .everybody)
    {r : Request}
    {a : Action}
    (ha : e.action r = .ok a) :
    (∀ o c, (act o c a).office = o) ∨
      ∃ name, e = .register ∧ a = .register name ∧ r.readBody readName = .ok name := by
  cases e with
  | register =>
      cases hname : r.readBody readName with
      | error d =>
          rw [Endpoint.action, hname] at ha
          cases ha
      | ok name =>
          rw [Endpoint.action, hname] at ha
          cases ha
          exact .inr ⟨name, rfl, rfl, rfl⟩
  | health | tournament | pairings | standings =>
      cases ha
      exact .inl fun _ _ => rfl
  | _ => cases he

/-- Without the token, a request can do no more than ask to play. -/
theorem handle_without_token
    {s : Service}
    {r : Request}
    (h : ¬ r.Presents s.token)
    (c : Circumstances) :
    s.OnlyAsked (r.asked? c).toList (s.handle c r).2 := by
  rcases s.handle_cases c r with heq | ⟨e, a, hat, hopen, hallowed, ha, heq⟩
  · rw [heq]
    exact .refl s _
  · have he : e.audience = .everybody := by
      cases haudience : e.audience with
      | everybody => rfl
      | organizer =>
          rw [Endpoint.isOpenTo, haudience] at hopen
          exact absurd (Request.presents_of_bears hopen) h
    rw [heq]
    rcases action_of_everybody he ha with hshown | ⟨name, rfl, rfl, hname⟩
    · rw [hshown]
      exact .refl s _
    · have hmethod : r.method = .post := by
        cases hm : r.method <;> rw [hm] at hallowed <;> first | rfl | cases hallowed
      have hasked : r.asked? c = some ⟨name, .pending, some c.now⟩ := by
        rw [Request.asked?, if_pos ⟨hmethod, hat⟩, hname]
        rfl
      rw [hasked, act, Served.ofOutcome_office]
      exact s.submit_onlyAsked c name

/-- Without the token, every endpoint of the organizer gives one and the same answer. -/
theorem handle_organizer
    {s : Service}
    {r : Request}
    (h : ¬ r.Presents s.token)
    (hmethod : r.method ≠ .options)
    {e : Endpoint}
    (he : e.audience = .organizer)
    (hpath : r.resource = e.path)
    (c : Circumstances) :
    s.handle c r = (⟨some (r.id c.freshId), .bare .unauthorized⟩, s) := by
  have hclosed : e.isOpenTo s.token r = false := by
    rw [Endpoint.isOpenTo, he]
    by_contra hbears
    exact h (Request.presents_of_bears (by simpa using hbears))
  exact handle_of_closed hmethod hpath hclosed c

/-! ## Any number of requests -/

theorem handleAll_onlyAsked
    {s : Service}
    {log : List (Circumstances × Request)}
    (h : ∀ x ∈ log, ¬ x.2.Presents s.token) :
    s.OnlyAsked (asked log) (s.handleAll log).2 := by
  induction log generalizing s with
  | nil => exact .refl s _
  | cons x log ih =>
      obtain ⟨c, r⟩ := x
      have hfirst := handle_without_token (h _ List.mem_cons_self) c
      have hrest := ih (s := (s.handle c r).2) fun x hx => by
        rw [handle_token]
        exact h x (List.mem_cons_of_mem _ hx)
      have hasked : asked ((c, r) :: log) = (r.asked? c).toList ++ asked log := by
        rw [asked, List.filterMap_cons]
        cases r.asked? c <;> rfl
      rw [handleAll_cons, hasked]
      exact hfirst.trans hrest

/-- Without the token nothing of the organizer's can be done or seen, by any number of requests. Each one
to an endpoint of the organizer gets the same answer, whatever the office holds, and changes nothing; and all
that comes of the others are entries that wait. -/
theorem handleAll_without_token
    {s : Service}
    {log : List (Circumstances × Request)}
    (h : ∀ x ∈ log, ¬ x.2.Presents s.token) :
    (∀ before c r rest e, log = before ++ (c, r) :: rest → r.method ≠ .options →
      e.audience = .organizer → r.resource = Endpoint.path e →
        (s.handleAll log).1[before.length]? = some ⟨some (r.id c.freshId), .bare .unauthorized⟩ ∧
          (s.handleAll (before ++ [(c, r)])).2 = (s.handleAll before).2) ∧
      s.OnlyAsked (asked log) (s.handleAll log).2 := by
  refine ⟨?_, handleAll_onlyAsked h⟩
  rintro before c r rest e rfl hmethod he hpath
  have hr : ¬ r.Presents (s.handleAll before).2.token := by
    rw [handleAll_token]
    exact h (c, r) (by simp)
  have hanswer := handle_organizer hr hmethod he hpath c
  constructor
  · rw [handleAll_append, List.getElem?_append_right (by rw [handleAll_length]), handleAll_length,
      Nat.sub_self, handleAll_cons, hanswer]
    rfl
  · rw [handleAll_append, handleAll_cons, hanswer]
    rfl

/-- A service with a request that waits. -/
def annAtTheDoor : Service :=
  ⟨⟨Tournament.empty, ⟨[⟨"Ann", .pending, none⟩]⟩, .uniform, Records.empty⟩, "secret"⟩

/-- A request to accept Ann without a token, one for the dashboard with a token that is not quite right, and
one to play. -/
def threeRequests : List (Circumstances × Request) :=
  [(calm, unsigned "/api/v1/admin/accept" "Ann"),
    (calm, ⟨.get, "/api/v1/admin/dashboard", [⟨"Authorization", "bearer secret".toUTF8⟩], ByteArray.empty⟩),
    (calm, unsigned "/api/v1/register" "Bob")]

theorem handleAll_without_token_bob :
    (∀ x ∈ threeRequests, ¬ x.2.Presents annAtTheDoor.token) ∧
      (annAtTheDoor.handleAll threeRequests).1[0]? = some ⟨some "1", .bare .unauthorized⟩ ∧
      annAtTheDoor.OnlyAsked [⟨"Bob", .pending, some calm.now⟩] (annAtTheDoor.handleAll threeRequests).2 := by
  have hnone : ∀ x ∈ threeRequests, ¬ x.2.Presents annAtTheDoor.token := by decide +kernel
  have hasked : asked threeRequests = [⟨"Bob", .pending, some calm.now⟩] := by decide +kernel
  have hid : (unsigned "/api/v1/admin/accept" "Ann").id calm.freshId = "1" := by decide +kernel
  obtain ⟨hanswers, honly⟩ := handleAll_without_token hnone
  obtain ⟨hfirst, -⟩ := hanswers [] calm (unsigned "/api/v1/admin/accept" "Ann") _ .accept rfl
    (by decide) rfl (by decide +kernel)
  rw [hid] at hfirst
  rw [hasked] at honly
  exact ⟨hnone, hfirst, honly⟩

end Service

end Http
end TournamentDesk
