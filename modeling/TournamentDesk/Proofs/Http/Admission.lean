import TournamentDesk.CommandLine
import TournamentDesk.Proofs.Http.Access

/-!
# Who gets in with the token

Settings are checked before a service starts, and the token is compared when a request comes. The check asks
only that the token is not blank, while a header field can be read as a text only if it is made of plain
characters. So a service starts with a token that nobody can present: the organizer is let in exactly when the
token is plain, and otherwise no request is let in at all.

* `Header.text?_toUTF8_iff`: a field holds a text that can be read exactly when the text is plain.
* `Request.bears_iff_isPlain`: when a request with nothing but the token is let in.
* `organizer_admitted_iff`: a started service with a plain token, and one with any other.
-/

namespace TournamentDesk

namespace Http

/-! ## Plain characters -/

/-- Every character can be seen and is of ASCII, or is a space or a tab. -/
def IsPlain (cs : List Char) : Prop :=
  ∀ c ∈ cs, c = '\t' ∨ ' ' ≤ c ∧ c ≤ '~'

instance (cs : List Char) : Decidable (IsPlain cs) :=
  List.decidableBAll (fun c => c = '\t' ∨ ' ' ≤ c ∧ c ≤ '~') cs

theorem isPlain_append (cs ds : List Char) : IsPlain (cs ++ ds) ↔ IsPlain cs ∧ IsPlain ds :=
  List.forall_mem_append

theorem plain_iff_toNat (c : Char) :
    c = '\t' ∨ ' ' ≤ c ∧ c ≤ '~' ↔ c.toNat = 0x9 ∨ 0x20 ≤ c.toNat ∧ c.toNat < 0x7F := by
  have htab : c = '\t' ↔ c.toNat = 0x9 := by
    rw [← Char.toNat_inj]
    rfl
  have hlow : ' ' ≤ c ↔ 0x20 ≤ c.toNat := by
    rw [Char.le_def, UInt32.le_iff_toNat_le]
    rfl
  have hhigh : c ≤ '~' ↔ c.toNat < 0x7F := by
    rw [Char.le_def, UInt32.le_iff_toNat_le, ← Nat.lt_succ_iff]
    rfl
  rw [htab, hlow, hhigh]

theorem isPlainOctet_iff_toNat (o : UInt8) :
    isPlainOctet o = true ↔ o.toNat = 0x9 ∨ 0x20 ≤ o.toNat ∧ o.toNat < 0x7F := by
  have htab : o = 0x9 ↔ o.toNat = 0x9 := by
    rw [← UInt8.toNat_inj]
    rfl
  have hlow : (0x20 : UInt8) ≤ o ↔ 0x20 ≤ o.toNat := UInt8.le_iff_toNat_le
  have hhigh : o < 0x7F ↔ o.toNat < 0x7F := UInt8.lt_iff_toNat_lt
  rw [isPlainOctet, Bool.or_eq_true, Bool.and_eq_true, decide_eq_true_iff, decide_eq_true_iff,
    decide_eq_true_iff, htab, hlow, hhigh, or_comm]

/-- The octets of a text, if it is plain. -/
def plainOctets (cs : List Char) : List UInt8 :=
  cs.map fun c => UInt8.ofNat c.toNat

theorem toNat_plainOctet
    {c : Char}
    (h : c = '\t' ∨ ' ' ≤ c ∧ c ≤ '~') :
    (UInt8.ofNat c.toNat).toNat = c.toNat := by
  rw [plain_iff_toNat] at h
  rw [UInt8.toNat_ofNat', Nat.mod_eq_of_lt (by omega)]

/-! ## Fields -/

/-- What can be read of a field is plain. -/
theorem Header.isPlain_of_text
    {h : Header}
    {cs : List Char}
    (htext : h.text? = some cs) :
    IsPlain cs := by
  obtain ⟨hplain, rfl⟩ := (h.text?_eq_some_iff cs).1 htext
  intro c hc
  obtain ⟨o, ho, rfl⟩ := List.mem_map.1 hc
  have hoctet := hplain o ho
  rw [plain_iff_toNat, Text.toNat_octet (octet_lt_of_isPlainOctet hoctet)]
  exact (isPlainOctet_iff_toNat o).1 hoctet

/-- A field holds a text that can be read exactly when the text is plain. -/
theorem Header.text?_toUTF8_iff (name s : String) :
    (Header.mk name s.toUTF8).text? = some s.toList ↔ IsPlain s.toList := by
  constructor
  · exact Header.isPlain_of_text
  · intro hplain
    have hback : (plainOctets s.toList).map (fun o => Char.ofNat o.toNat) = s.toList := by
      rw [plainOctets, List.map_map]
      refine (List.map_congr_left fun c hc => ?_).trans (List.map_id _)
      rw [Function.comp_apply, toNat_plainOctet (hplain c hc), Char.ofNat_toNat, id]
    have hplainOctets : ∀ o ∈ plainOctets s.toList, isPlainOctet o = true := by
      intro o ho
      obtain ⟨c, hc, rfl⟩ := List.mem_map.1 ho
      rw [isPlainOctet_iff_toNat, toNat_plainOctet (hplain c hc), ← plain_iff_toNat]
      exact hplain c hc
    have hsmall : ∀ o ∈ plainOctets s.toList, o.toNat < 0x80 :=
      fun o ho => octet_lt_of_isPlainOctet (hplainOctets o ho)
    -- each character is written as one octet
    have hvalue : s.toUTF8 = (plainOctets s.toList).toByteArray := by
      rw [← Text.utf8Encode_octets hsmall, hback, String.utf8Encode_toList]
      rfl
    have hoctets : s.toUTF8.data.toList = plainOctets s.toList := by
      rw [hvalue]
      simp
    rw [Header.text?_eq_some_iff, hoctets]
    exact ⟨hplainOctets, hback⟩

/-! ## Requests -/

/-- A request in which the field for it, with the word and the token, is the only one. -/
def Request.PresentsOnly (r : Request) (token : String) : Prop :=
  ∃ name : String, name.toLower = "authorization" ∧ r.headers = [⟨name, (bearerWord ++ token).toUTF8⟩]

theorem isPlain_bearer (token : String) :
    IsPlain (bearerWord ++ token).toList ↔ IsPlain token.toList := by
  have hword : IsPlain bearerWord.toList := by decide
  rw [String.toList_append, isPlain_append]
  exact and_iff_right hword

/-- Only plain tokens can be borne. -/
theorem Request.isPlain_of_bears
    {r : Request}
    {token : String}
    (h : r.bears token = true) :
    IsPlain token.toList := by
  obtain ⟨field, -, hfield⟩ := (r.bears_iff token).1 h
  exact (isPlain_bearer token).1 (Header.isPlain_of_text hfield)

/-- A request with nothing but the token bears it exactly when the token is plain. -/
theorem Request.bears_iff_isPlain
    {r : Request}
    {token : String}
    (h : r.PresentsOnly token) :
    r.bears token = true ↔ IsPlain token.toList := by
  obtain ⟨name, hname, hheaders⟩ := h
  have hfield : r.header? "authorization" = some ⟨name, (bearerWord ++ token).toUTF8⟩ := by
    simp [Request.header?, hheaders, hname]
  rw [Request.bears_iff, hfield, ← isPlain_bearer, ← Header.text?_toUTF8_iff name]
  simp

namespace Service

/-- A service that was started with settings that have been checked, whatever its records held. -/
structure Started (settings : Settings) (s : Service) : Prop where
  checked : settings.check = .ok ()
  launched : ∃ read canTake, CommandLine.launch settings read canTake = .ok s

theorem Started.token
    {settings : Settings}
    {s : Service}
    (h : Started settings s) :
    s.token = settings.token := by
  obtain ⟨read, canTake, hlaunch⟩ := h.launched
  simp only [CommandLine.launch] at hlaunch
  split at hlaunch
  · cases hlaunch
  · split at hlaunch <;> cases hlaunch
    rfl

/-- Whoever knows a plain token is let in to every endpoint of the organizer, at any time, and whoever knows
any other token to none: of a service that was started, a request that presents nothing but the token is let in
exactly when the token is plain. If it is, the endpoint serves the request. If it is not, every request to an
endpoint of the organizer is turned away, whatever it presents. -/
theorem organizer_admitted_iff
    {settings : Settings}
    {s : Service}
    (h : Started settings s)
    (log : List (Circumstances × Request)) :
    (∀ (e : Endpoint) (r : Request), e.audience = .organizer → r.PresentsOnly settings.token →
      (e.isOpenTo (s.handleAll log).2.token r = true ↔ IsPlain settings.token.toList)) ∧
    (IsPlain settings.token.toList →
      ∀ (e : Endpoint) (r : Request) (c : Circumstances), r.resource = e.path →
        e.purpose.allows r.method = true → r.PresentsOnly settings.token →
          (s.handleAll log).2.answer c r = e.serve (s.handleAll log).2.office c r) ∧
    (¬ IsPlain settings.token.toList →
      ∀ (e : Endpoint) (r : Request) (c : Circumstances), e.audience = .organizer →
        r.resource = e.path → r.method ≠ .options →
          (s.handleAll log).2.handle c r =
            (⟨some (r.id c.freshId), .bare .unauthorized⟩, (s.handleAll log).2)) := by
  have htoken : (s.handleAll log).2.token = settings.token := by
    rw [handleAll_token, h.token]
  refine ⟨?_, ?_, ?_⟩
  · intro e r he hpresents
    rw [htoken, Endpoint.isOpenTo, he]
    exact Request.bears_iff_isPlain hpresents
  · intro hplain e r c hpath hallowed hpresents
    have hbears := (Request.bears_iff_isPlain hpresents).2 hplain
    rw [← htoken] at hbears
    exact answer_of_open hpath (e.isOpenTo_of_bears hbears) hallowed c
  · intro hnot e r c he hpath hmethod
    have hclosed : e.isOpenTo (s.handleAll log).2.token r = false := by
      rw [htoken, Endpoint.isOpenTo, he]
      by_contra hbears
      exact hnot (Request.isPlain_of_bears (by simpa using hbears))
    exact handle_of_closed hmethod hpath hclosed c

/-- Settings with a token, and defaults for all else. -/
def withToken (token : String) : Settings :=
  ⟨Settings.defaultAddress, Storage.defaultDirectory, token, Settings.defaultPolicy⟩

/-- A service on no records. -/
def newService (token : String) : Service :=
  ⟨⟨Swiss.Tournament.empty, Registration.Queue.empty, .uniform, Storage.Records.empty⟩, token⟩

/-- A request for the list of those who wait, with a token. -/
def presenting (token : String) : Request :=
  ⟨.get, "/api/v1/admin/pending", [⟨"Authorization", (bearerWord ++ token).toUTF8⟩], ByteArray.empty⟩

theorem presenting_presentsOnly (token : String) : (presenting token).PresentsOnly token :=
  ⟨"Authorization", by decide +kernel, rfl⟩

theorem newService_started
    {token : String}
    (h : Text.isBlank token = false) :
    Started (withToken token) (newService token) := by
  constructor
  · have hdirectory : Storage.defaultDirectory ≠ "" := by decide
    simp [Settings.check, withToken, h, hdirectory]
  · exact ⟨fun _ => .ok none, fun _ => true, rfl⟩

/-- A token with a space, a tab and a tilde gets the organizer in. -/
theorem organizer_admitted_iff_tilde :
    Started (withToken "my\tto ken~") (newService "my\tto ken~") ∧
      (presenting "my\tto ken~").PresentsOnly "my\tto ken~" ∧
      (newService "my\tto ken~").answer calm (presenting "my\tto ken~") =
        ⟨.ok (.array []), (newService "my\tto ken~").office⟩ := by
  have hstarted : Started (withToken "my\tto ken~") (newService "my\tto ken~") :=
    newService_started (by decide +kernel)
  have hpresents := presenting_presentsOnly "my\tto ken~"
  have hserved := (organizer_admitted_iff hstarted []).2.1 (by decide +kernel) .pending
    (presenting "my\tto ken~") calm (by decide +kernel) rfl hpresents
  exact ⟨hstarted, hpresents, hserved⟩

/-- A service starts with a token that has an accent in it, and turns away whoever presents it. -/
theorem accented_token_locks_out :
    Started (withToken "tök") (newService "tök") ∧
      (presenting "tök").PresentsOnly "tök" ∧
      (newService "tök").handle calm (presenting "tök") =
        (⟨some "1", .bare .unauthorized⟩, newService "tök") := by
  have hclosed : Endpoint.pending.isOpenTo (newService "tök").token (presenting "tök") = false := by
    rw [← Bool.not_eq_true]
    intro hbears
    exact absurd (Request.isPlain_of_bears hbears) (by decide +kernel)
  have hid : (presenting "tök").id calm.freshId = "1" := by decide +kernel
  have hturned := handle_of_closed (by decide) (by decide +kernel) hclosed calm
  rw [hid] at hturned
  exact ⟨newService_started (by decide +kernel), presenting_presentsOnly "tök", hturned⟩

end Service

end Http
end TournamentDesk
