import TournamentDesk.Settings.Basic

/-!
# Where settings come from

A setting is what is given outright, or else what is read from its variable if that is set, or else the
default. A text that cannot be read is refused. Octets that are no text are not: the variable counts as if it
were unset, so the default stands although the variable says something else, also for the token.

* `choose_eq_ok_iff`, `choose_eq_error_iff`: one setting, in the environment with the texts alone.
* `Comes.iff_of_legible`: the rule holds in the environment itself unless the variable was passed over.
* `settings_by_rule_iff`: what an environment and what is given outright come to, and when that is by the rule.
-/

namespace TournamentDesk
namespace Settings

/-! ## Octets that are no text -/

theorem fromUTF8?_eq_some_iff (octets : ByteArray) (text : String) :
    String.fromUTF8? octets = some text ↔ octets = text.toUTF8 := by
  constructor
  · intro h
    simp only [String.fromUTF8?] at h
    split at h
    · rw [← Option.some.inj h]
      rfl
    · cases h
  · rintro rfl
    rw [String.fromUTF8?, String.toUTF8_eq_toByteArray, dif_pos text.isValidUTF8]
    rfl

namespace Environment

/-- A name stands for octets, but for no text. -/
def Garbled (env : Environment) (name : String) : Prop :=
  ∃ octets, env name = some octets ∧ ∀ text : String, text.toUTF8 ≠ octets

/-- The environment in which a name stands for the text that it has, and for nothing if it has none. -/
def legible (env : Environment) : Environment := fun name =>
  (env.text? name).map String.toUTF8

theorem not_garbled_of_eq_some
    {env : Environment}
    {name text : String}
    (h : env name = some text.toUTF8) :
    ¬ env.Garbled name := by
  rintro ⟨octets, hoctets, hnoText⟩
  exact hnoText text (Option.some.inj (h.symm.trans hoctets))

theorem text?_eq_some_iff
    (env : Environment)
    (name text : String) :
    env.text? name = some text ↔ env name = some text.toUTF8 := by
  simp only [text?, Option.bind_eq_some_iff, fromUTF8?_eq_some_iff, exists_eq_right]

theorem text?_eq_none_iff
    (env : Environment)
    (name : String) :
    env.text? name = none ↔ env name = none ∨ env.Garbled name := by
  rw [Option.eq_none_iff_forall_ne_some]
  simp only [ne_eq, text?_eq_some_iff]
  cases hname : env name with
  | none =>
    simp
  | some octets =>
    simp [Garbled, hname, eq_comm]

theorem legible_eq_some_iff
    (env : Environment)
    (name text : String) :
    env.legible name = some text.toUTF8 ↔ env name = some text.toUTF8 := by
  rw [← text?_eq_some_iff env name text]
  simp [legible, String.toByteArray_inj]

theorem legible_eq_none_iff
    (env : Environment)
    (name : String) :
    env.legible name = none ↔ env name = none ∨ env.Garbled name := by
  rw [← text?_eq_none_iff env name]
  simp [legible]

theorem setting?_eq_some_iff
    (env : Environment)
    (v : Variable)
    (text : String) :
    env.setting? v = some text ↔ env v.name = some text.toUTF8 :=
  env.text?_eq_some_iff v.name text

theorem setting?_eq_none_iff
    (env : Environment)
    (v : Variable) :
    env.setting? v = none ↔ env v.name = none ∨ env.Garbled v.name :=
  env.text?_eq_none_iff v.name

end Environment

/-! ## One setting -/

/-- The rule for the setting of a variable: it is what is given outright, or else what is read from the text of
the variable if that is set, or else the default. -/
inductive Comes
    {α : Type}
    (env : Environment)
    (v : Variable)
    (given : Option α)
    (read : String → Except Flaw α)
    (default : α) :
    α → Prop
  | given
      {a : α}
      (hgiven : given = some a) :
      Comes env v given read default a
  | text
      {text : String}
      {a : α}
      (hgiven : given = none)
      (hset : env v.name = some text.toUTF8)
      (hread : read text = .ok a) :
      Comes env v given read default a
  | default
      (hgiven : given = none)
      (hunset : env v.name = none) :
      Comes env v given read default default

section Comes

variable {α : Type}
variable {given : Option α}
variable {read : String → Except Flaw α}
variable {default a : α}

/-- The setting follows the rule in the environment with the texts alone. -/
theorem choose_eq_ok_iff
    (env : Environment)
    (v : Variable) :
    choose given (env.setting? v) read default = .ok a ↔
      Comes env.legible v given read default a := by
  constructor
  · intro h
    cases given with
    | some b =>
      rw [choose, Except.ok.injEq] at h
      exact .given (congrArg some h)
    | none =>
      cases htext : env.setting? v with
      | none =>
        rw [htext, choose, Option.elim_none, Except.ok.injEq] at h
        rw [Environment.setting?_eq_none_iff, ← Environment.legible_eq_none_iff] at htext
        rw [← h]
        exact .default rfl htext
      | some text =>
        rw [htext, choose, Option.elim_some] at h
        rw [Environment.setting?_eq_some_iff, ← Environment.legible_eq_some_iff] at htext
        exact .text rfl htext h
  · intro h
    cases h with
    | given hgiven =>
      rw [hgiven, choose]
    | text hgiven hset hread =>
      rw [Environment.legible_eq_some_iff, ← Environment.setting?_eq_some_iff] at hset
      rw [hgiven, hset, choose, Option.elim_some, hread]
    | default hgiven hunset =>
      rw [Environment.legible_eq_none_iff, ← Environment.setting?_eq_none_iff] at hunset
      rw [hgiven, hunset, choose, Option.elim_none]

/-- Only a text that cannot be read is refused. -/
theorem choose_eq_error_iff
    (env : Environment)
    (v : Variable)
    (f : Flaw) :
    choose given (env.setting? v) read default = .error f ↔
      given = none ∧ ∃ text : String, env v.name = some text.toUTF8 ∧ read text = .error f := by
  simp only [← Environment.setting?_eq_some_iff]
  cases given with
  | some b =>
    simp [choose]
  | none =>
    cases env.setting? v with
    | none =>
      simp [choose]
    | some text =>
      simp [choose]

/-- The rule holds in the environment itself unless the variable counts and its octets are no text. -/
theorem Comes.iff_of_legible
    {env : Environment}
    {v : Variable}
    (h : Comes env.legible v given read default a) :
    Comes env v given read default a ↔ (given = none → ¬ env.Garbled v.name) := by
  constructor
  · rintro (hgiven | ⟨-, hset, -⟩ | ⟨-, hunset⟩) hnone
    · rw [hgiven] at hnone
      cases hnone
    · exact Environment.not_garbled_of_eq_some hset
    · rintro ⟨octets, hoctets, -⟩
      rw [hunset] at hoctets
      cases hoctets
  · intro hclear
    cases h with
    | given hgiven =>
      exact .given hgiven
    | text hgiven hset hread =>
      exact .text hgiven ((env.legible_eq_some_iff _ _).1 hset) hread
    | default hgiven hunset =>
      refine .default hgiven ?_
      exact ((env.legible_eq_none_iff _).1 hunset).resolve_right (hclear hgiven)

end Comes

/-- A text that is taken as it stands is the default if the variable is unset, spells the default, or is passed
over. -/
theorem Comes.eq_default_iff
    {env : Environment}
    {v : Variable}
    {default text : String}
    (h : Comes env.legible v none .ok default text) :
    text = default ↔
      env v.name = none ∨ env v.name = some default.toUTF8 ∨ env.Garbled v.name := by
  cases h with
  | given hgiven =>
    cases hgiven
  | text _ hset hread =>
    rw [env.legible_eq_some_iff] at hset
    obtain rfl := Except.ok.inj hread
    simp [hset, Environment.not_garbled_of_eq_some hset, String.toByteArray_inj]
  | default _ hunset =>
    rw [env.legible_eq_none_iff] at hunset
    exact iff_of_true rfl (hunset.imp_right Or.inr)

/-! ## All settings -/

/-- All settings follow the rule. -/
structure ByRule (env : Environment) (given : Overrides) (s : Settings) : Prop where
  address : Comes env .address given.address readAddress defaultAddress s.address
  directory : Comes env .directory given.directory .ok Storage.defaultDirectory s.directory
  token : Comes env .token none .ok defaultToken s.token
  policy : Comes env .policy none readPolicy defaultPolicy s.policy

/-- What is given outright leaves the setting of a variable to the environment. -/
def Overrides.LeavesOpen (given : Overrides) : Variable → Prop
  | .address => given.address = none
  | .directory => given.directory = none
  | .token => True
  | .policy => True

/-- What is refused: a text that is no address where that counts, and, if there is an address, a text that is no
policy. -/
inductive Refused (env : Environment) (given : Overrides) : Flaw → Prop
  | address
      {text : String}
      (hgiven : given.address = none)
      (hset : env Variable.address.name = some text.toUTF8)
      (hread : Address.parse? text = none) :
      Refused env given (.notAddress text)
  | policy
      {address : Address}
      {text : String}
      (haddress : Comes env.legible .address given.address readAddress defaultAddress address)
      (hset : env Variable.policy.name = some text.toUTF8)
      (hread : policyWords.lookup (Text.normalForm text) = none) :
      Refused env given (.notPolicy (Text.normalForm text))

theorem readAddress_eq_error_iff (text : String) (f : Flaw) :
    readAddress text = .error f ↔ Address.parse? text = none ∧ f = .notAddress text := by
  rw [readAddress]
  cases Address.parse? text with
  | none =>
    simp [eq_comm]
  | some a =>
    simp

theorem readPolicy_eq_error_iff (text : String) (f : Flaw) :
    readPolicy text = .error f ↔
      policyWords.lookup (Text.normalForm text) = none ∧ f = .notPolicy (Text.normalForm text) := by
  rw [readPolicy]
  cases policyWords.lookup (Text.normalForm text) with
  | none =>
    simp [eq_comm]
  | some p =>
    simp

/-- A setting that is not read but taken as it stands. -/
theorem choose_ok (given text : Option String) (default : String) :
    choose given text .ok default = .ok ((given.or text).getD default) := by
  cases given with
  | some a =>
    rfl
  | none =>
    cases text <;> rfl

/-- The settings are those that the rule gives in the environment with the texts alone. -/
theorem ofEnvironment_eq_ok_iff
    (env : Environment)
    (given : Overrides)
    (s : Settings) :
    ofEnvironment env given = .ok s ↔ ByRule env.legible given s := by
  constructor
  · intro h
    simp only [ofEnvironment] at h
    split at h
    · cases h
    · next address haddress =>
      split at h
      · cases h
      · next policy hpolicy =>
        rw [← Except.ok.inj h]
        exact
          { address := (choose_eq_ok_iff env .address).1 haddress
            directory := (choose_eq_ok_iff env .directory).1 (choose_ok _ _ _)
            token := (choose_eq_ok_iff env .token).1 (choose_ok none _ _)
            policy := (choose_eq_ok_iff env .policy).1 hpolicy }
  · intro h
    have haddress := (choose_eq_ok_iff env .address).2 h.address
    have hdirectory := (choose_eq_ok_iff env .directory).2 h.directory
    have htoken := (choose_eq_ok_iff env .token).2 h.token
    have hpolicy := (choose_eq_ok_iff env .policy).2 h.policy
    rw [choose_ok, Except.ok.injEq] at hdirectory htoken
    rw [Option.none_or] at htoken
    simp only [ofEnvironment, haddress, hpolicy, hdirectory, htoken]

/-- Only a text that cannot be read keeps settings from being made. -/
theorem ofEnvironment_eq_error_iff
    (env : Environment)
    (given : Overrides)
    (f : Flaw) :
    ofEnvironment env given = .error f ↔ Refused env given f := by
  constructor
  · intro h
    simp only [ofEnvironment] at h
    split at h
    · next flaw haddress =>
      obtain rfl := Except.error.inj h
      obtain ⟨hgiven, text, hset, hread⟩ := (choose_eq_error_iff env .address _).1 haddress
      obtain ⟨hnone, rfl⟩ := (readAddress_eq_error_iff text flaw).1 hread
      exact .address hgiven hset hnone
    · next address haddress =>
      split at h
      · next flaw hpolicy =>
        obtain rfl := Except.error.inj h
        obtain ⟨-, text, hset, hread⟩ := (choose_eq_error_iff env .policy _).1 hpolicy
        obtain ⟨hnone, rfl⟩ := (readPolicy_eq_error_iff text flaw).1 hread
        exact .policy ((choose_eq_ok_iff env .address).1 haddress) hset hnone
      · cases h
  · intro h
    cases h with
    | @address text hgiven hset hnone =>
      have hread := (readAddress_eq_error_iff text _).2 ⟨hnone, rfl⟩
      have haddress : choose given.address (env.setting? .address) readAddress defaultAddress = _ :=
        (choose_eq_error_iff env .address _).2 ⟨hgiven, text, hset, hread⟩
      simp only [ofEnvironment, haddress]
    | @policy address text haddress hset hnone =>
      have hread := (readPolicy_eq_error_iff text _).2 ⟨hnone, rfl⟩
      have hpolicy : choose none (env.setting? .policy) readPolicy defaultPolicy = _ :=
        (choose_eq_error_iff env .policy _).2 ⟨rfl, text, hset, hread⟩
      simp only [ofEnvironment, (choose_eq_ok_iff env .address).2 haddress, hpolicy]

/-- The settings follow the rule in the environment itself unless a variable that counts was passed over. -/
theorem ByRule.iff_of_legible
    {env : Environment}
    {given : Overrides}
    {s : Settings}
    (h : ByRule env.legible given s) :
    ByRule env given s ↔ ∀ v, given.LeavesOpen v → ¬ env.Garbled v.name := by
  constructor
  · intro hrule v
    cases v with
    | address =>
      exact h.address.iff_of_legible.1 hrule.address
    | directory =>
      exact h.directory.iff_of_legible.1 hrule.directory
    | token =>
      exact fun _ => h.token.iff_of_legible.1 hrule.token rfl
    | policy =>
      exact fun _ => h.policy.iff_of_legible.1 hrule.policy rfl
  · intro hclear
    exact
      { address := h.address.iff_of_legible.2 (hclear .address)
        directory := h.directory.iff_of_legible.2 (hclear .directory)
        token := h.token.iff_of_legible.2 fun _ => hclear .token trivial
        policy := h.policy.iff_of_legible.2 fun _ => hclear .policy trivial }

/-- What an environment and what is given outright come to. A text that cannot be read is refused, and nothing
else is. Otherwise the settings are those that the rule gives once octets that are no text are taken out of the
environment. So they follow the rule in the environment itself exactly when all variables that count are unset
or have a text, and the default token stands also if the variable for it is set to octets that are no text. -/
theorem settings_by_rule_iff
    (env : Environment)
    (given : Overrides) :
    (∀ f, ofEnvironment env given = .error f ↔ Refused env given f) ∧
    (∀ s, ofEnvironment env given = .ok s ↔ ByRule env.legible given s) ∧
    (∀ s, ofEnvironment env given = .ok s →
      (ByRule env given s ↔ ∀ v, given.LeavesOpen v → ¬ env.Garbled v.name)) ∧
    (∀ s, ofEnvironment env given = .ok s →
      (s.token = defaultToken ↔
        env Variable.token.name = none ∨ env Variable.token.name = some defaultToken.toUTF8 ∨
          env.Garbled Variable.token.name)) := by
  refine ⟨ofEnvironment_eq_error_iff env given, ofEnvironment_eq_ok_iff env given, ?_, ?_⟩
  · intro s hs
    exact ((ofEnvironment_eq_ok_iff env given s).1 hs).iff_of_legible
  · intro s hs
    exact ((ofEnvironment_eq_ok_iff env given s).1 hs).token.eq_default_iff

/-- The environment that gives octets to some variables. -/
def Environment.ofBindings (bindings : List (Variable × ByteArray)) : Environment := fun name =>
  (bindings.find? fun b => b.1.name = name).map Prod.snd

/-- An octet that begins no character. -/
def strayOctet : ByteArray :=
  ⟨#[0xFF]⟩

theorem ne_strayOctet (text : String) : text.toUTF8 ≠ strayOctet := by
  intro h
  have htext := (fromUTF8?_eq_some_iff strayOctet text).2 h.symm
  rw [show String.fromUTF8? strayOctet = none by decide] at htext
  cases htext

/-- A token, a policy in another spelling, and an address of which no text can be made. -/
def guarded : Environment :=
  .ofBindings
    [(.address, strayOctet), (.token, "s3cret".toUTF8), (.policy, " Accept-Only ".toUTF8)]

/-- The address does not count if one is given outright. -/
theorem settings_by_rule_iff_guarded :
    ofEnvironment guarded ⟨some defaultAddress, none⟩ =
        .ok ⟨defaultAddress, "data", "s3cret", .acceptOnly⟩ ∧
      ByRule guarded ⟨some defaultAddress, none⟩ ⟨defaultAddress, "data", "s3cret", .acceptOnly⟩ := by
  have hsettings : ofEnvironment guarded ⟨some defaultAddress, none⟩ =
      .ok ⟨defaultAddress, "data", "s3cret", .acceptOnly⟩ := by
    rfl
  refine ⟨hsettings, ((settings_by_rule_iff guarded _).2.2.1 _ hsettings).2 ?_⟩
  intro v hopen
  cases v with
  | address =>
    cases hopen
  | directory =>
    rintro ⟨octets, hoctets, -⟩
    cases hoctets
  | token =>
    exact Environment.not_garbled_of_eq_some (show guarded _ = some "s3cret".toUTF8 from rfl)
  | policy =>
    exact Environment.not_garbled_of_eq_some (show guarded _ = some " Accept-Only ".toUTF8 from rfl)

/-- A token of which no text can be made gives way to the default token. -/
theorem stray_token_is_passed_over :
    ofEnvironment (.ofBindings [(.token, strayOctet)]) ⟨none, none⟩ =
        .ok ⟨defaultAddress, Storage.defaultDirectory, defaultToken, defaultPolicy⟩ ∧
      ¬ ByRule (.ofBindings [(.token, strayOctet)]) ⟨none, none⟩
        ⟨defaultAddress, Storage.defaultDirectory, defaultToken, defaultPolicy⟩ := by
  have hsettings : ofEnvironment (.ofBindings [(.token, strayOctet)]) ⟨none, none⟩ =
      .ok ⟨defaultAddress, Storage.defaultDirectory, defaultToken, defaultPolicy⟩ := by
    rfl
  have hlegible := (ofEnvironment_eq_ok_iff _ _ _).1 hsettings
  refine ⟨hsettings, fun hrule => ?_⟩
  exact hlegible.iff_of_legible.1 hrule .token trivial ⟨strayOctet, rfl, ne_strayOctet⟩

end Settings
end TournamentDesk
