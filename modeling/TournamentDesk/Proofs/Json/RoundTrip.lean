import TournamentDesk.Json.Reading
import TournamentDesk.Proofs.Json.Doubles
import TournamentDesk.Proofs.Json.Strings
import TournamentDesk.Proofs.Text.Symbols

/-!
# Values and back

A written value is cut into the same tokens in both styles, and the machine puts them together again.
The two halves meet at the list of tokens of a value.

* `tokens_text`: the tokens of a written value, whatever stands behind it.
* `run_tokens`: the machine delivers the value and goes on with what stands behind it.
* `ofBytes_render`: the octets of a value read as the value, with nothing behind it.
-/

namespace TournamentDesk
namespace Json

open Text (Symbol)

/-! ## What a value reads as -/

/-- The token of a written double. -/
def floatToken (x : Float) : Token :=
  (floatSpelling? x).elim .null fun w => .number (w.literal (Decimal.isNegative x.toBits)).value

/-- What a written double reads as. -/
def floatReading (x : Float) : Reading :=
  (floatSpelling? x).elim .null fun w => .number (w.literal (Decimal.isNegative x.toBits)).value

mutual

/-- What a written value reads as. -/
def Value.reading : Value → Reading
  | .null => .null
  | .bool b => .bool b
  | .int i => .number (intNumeral i)
  | .float x => floatReading x
  | .string s => .string (some s)
  | .array items => .array (itemsReading items)
  | .object members => .object (membersReading members)

/-- What written items read as. -/
def itemsReading : List Value → List Reading
  | [] => []
  | v :: rest => v.reading :: itemsReading rest

/-- What written members read as. -/
def membersReading : List (String × Value) → List (Option String × Reading)
  | [] => []
  | (name, v) :: rest => (some name, v.reading) :: membersReading rest

end

mutual

/-- The tokens of a written value. -/
def Value.tokens : Value → List Token
  | .null => [.null]
  | .bool b => [.bool b]
  | .int i => [.number (intNumeral i)]
  | .float x => [floatToken x]
  | .string s => [.string (some s)]
  | .array [] => [.arrayStart, .arrayEnd]
  | .array (v :: rest) => .arrayStart :: v.tokens ++ itemsTokens rest ++ [.arrayEnd]
  | .object [] => [.objectStart, .objectEnd]
  | .object ((name, v) :: rest) =>
    .objectStart :: .string (some name) :: .colon :: v.tokens ++ membersTokens rest ++ [.objectEnd]

/-- The tokens of the items behind the first. -/
def itemsTokens : List Value → List Token
  | [] => []
  | v :: rest => .comma :: v.tokens ++ itemsTokens rest

/-- The tokens of the members behind the first. -/
def membersTokens : List (String × Value) → List Token
  | [] => []
  | (name, v) :: rest => .comma :: .string (some name) :: .colon :: v.tokens ++ membersTokens rest

end

/-! ## Cutting a written value -/

theorem tokens_space
    {c : Char}
    (hc : isSpace c = true)
    (rest : List Symbol) :
    tokens (some c :: rest) = tokens rest := by
  rw [tokens.eq_def]
  simp [hc]

theorem tokens_cut
    {c : Char}
    (hc : isSpace c = false)
    (rest : List Symbol) :
    tokens (some c :: rest) = (cut c rest).1 :: tokens (cut c rest).2 := by
  rw [tokens.eq_def]
  simp [hc]

/-- A mark is a token by itself. -/
theorem tokens_mark
    {c : Char}
    {t : Token}
    (hspace : isSpace c = false)
    (hcut : ∀ rest, cut c rest = (t, rest))
    (rest : List Symbol) :
    tokens (some c :: rest) = t :: tokens rest := by
  rw [tokens_cut hspace, hcut]

theorem tokens_spaces
    (n : Nat)
    (rest : List Symbol) :
    tokens ((List.replicate n ' ').map some ++ rest) = tokens rest := by
  induction n with
  | zero => rfl
  | succ n ih =>
      rw [List.replicate_succ, List.map_cons, List.cons_append, tokens_space (by decide), ih]

theorem tokens_lineBreak
    (style : Style)
    (level : Nat)
    (rest : List Symbol) :
    tokens ((style.lineBreak level).map some ++ rest) = tokens rest := by
  cases style with
  | compact => rfl
  | indented =>
      rw [Style.lineBreak, List.map_cons, List.cons_append, tokens_space (by decide), tokens_spaces]

theorem tokens_colon
    (style : Style)
    (rest : List Symbol) :
    tokens (style.colon.map some ++ rest) = .colon :: tokens rest := by
  cases style with
  | compact => exact tokens_cut (by decide) rest
  | indented =>
      rw [Style.colon, List.map_cons, List.cons_append, tokens_cut (by decide)]
      exact congrArg _ (tokens_spaces 1 rest)

theorem tokens_stringText
    (s : String)
    (rest : List Symbol) :
    tokens ((stringText s).map some ++ rest) = .string (some s) :: tokens rest := by
  have hcut : cut '"' ((s.toList.flatMap escapeChar).map some ++ some '"' :: rest) =
      (.string (some s), rest) :=
    stringToken_text s rest
  simp only [stringText, List.map_append, List.map_cons, List.cons_append, List.append_assoc,
    List.map_nil, List.nil_append]
  rw [tokens_cut (by decide), hcut]

theorem tokens_null (rest : List Symbol) :
    tokens (['n', 'u', 'l', 'l'].map some ++ rest) = .null :: tokens rest := by
  have hcut : cut 'n' (['u', 'l', 'l'].map some ++ rest) = (.null, rest) := by
    simp [cut, word]
  rw [List.map_cons, List.cons_append, tokens_cut (by decide), hcut]

theorem tokens_bool
    (style : Style)
    (level : Nat)
    (b : Bool)
    (rest : List Symbol) :
    tokens (((Value.bool b).text style level).map some ++ rest) = .bool b :: tokens rest := by
  cases b with
  | true =>
      have hcut : cut 't' (['r', 'u', 'e'].map some ++ rest) = (.bool true, rest) := by
        simp [cut, word]
      rw [Value.text, List.map_cons, List.cons_append, tokens_cut (by decide), hcut]
  | false =>
      have hcut : cut 'f' (['a', 'l', 's', 'e'].map some ++ rest) = (.bool false, rest) := by
        simp [cut, word]
      rw [Value.text, List.map_cons, List.cons_append, tokens_cut (by decide), hcut]

theorem tokens_floatText
    (x : Float)
    {rest : List Symbol}
    (hrest : Stops rest) :
    tokens ((floatText x).map some ++ rest) = floatToken x :: tokens rest := by
  cases hw : floatSpelling? x with
  | none =>
      rw [floatText_eq, floatToken, hw]
      exact tokens_null rest
  | some w =>
      rw [tokens_float hw hrest, floatToken, hw]
      rfl

/-! ## What may stand behind a number -/

theorem stops_nil : Stops [] := by
  rintro c ⟨⟩

theorem stops_cons
    {c : Char}
    (hc : c ∈ [',', '\n', ']', '}'])
    (rest : List Symbol) :
    Stops (some c :: rest) := by
  rintro _ ⟨⟩
  simp only [List.mem_cons, List.not_mem_nil, or_false] at hc
  rcases hc with rfl | rfl | rfl | rfl <;> decide

theorem stops_lineBreak
    (style : Style)
    (level : Nat)
    {rest : List Symbol}
    (hrest : Stops rest) :
    Stops ((style.lineBreak level).map some ++ rest) := by
  cases style with
  | compact => exact hrest
  | indented => exact stops_cons (by decide) _

theorem stops_itemsText
    (style : Style)
    (level : Nat)
    (items : List Value)
    {rest : List Symbol}
    (hrest : Stops rest) :
    Stops ((itemsText style level items).map some ++ rest) := by
  cases items with
  | nil => exact hrest
  | cons v items => exact stops_cons (by decide) _

theorem stops_membersText
    (style : Style)
    (level : Nat)
    (members : List (String × Value))
    {rest : List Symbol}
    (hrest : Stops rest) :
    Stops ((membersText style level members).map some ++ rest) := by
  cases members with
  | nil => exact hrest
  | cons m members => exact stops_cons (by decide) _

mutual

/-- A written value is cut into its tokens, and what stands behind it is left. -/
theorem tokens_text
    (style : Style)
    (level : Nat)
    (v : Value)
    {rest : List Symbol}
    (hrest : Stops rest) :
    tokens ((v.text style level).map some ++ rest) = v.tokens ++ tokens rest := by
  cases v with
  | null => exact tokens_null rest
  | bool b => exact tokens_bool style level b rest
  | int i => exact tokens_int i hrest
  | float x => exact tokens_floatText x hrest
  | string s => exact tokens_stringText s rest
  | array items =>
      cases items with
      | nil =>
          simp only [Value.text, Value.tokens, List.map_cons, List.map_nil, List.cons_append,
            List.nil_append]
          rw [tokens_mark (t := .arrayStart) (by decide) fun _ => rfl,
            tokens_mark (t := .arrayEnd) (by decide) fun _ => rfl]
      | cons v items =>
          have hend := stops_lineBreak style level (stops_cons (c := ']') (by decide) rest)
          simp only [Value.text, Value.tokens, List.map_cons, List.map_nil, List.map_append,
            List.cons_append, List.nil_append, List.append_assoc]
          rw [tokens_mark (t := .arrayStart) (by decide) fun _ => rfl, tokens_lineBreak, tokens_text style (level + 1) v (stops_itemsText _ _ _ hend),
            tokens_itemsText style (level + 1) items hend, tokens_lineBreak,
            tokens_mark (t := .arrayEnd) (by decide) fun _ => rfl]
  | object members =>
      cases members with
      | nil =>
          simp only [Value.text, Value.tokens, List.map_cons, List.map_nil, List.cons_append,
            List.nil_append]
          rw [tokens_mark (t := .objectStart) (by decide) fun _ => rfl,
            tokens_mark (t := .objectEnd) (by decide) fun _ => rfl]
      | cons m members =>
          obtain ⟨name, v⟩ := m
          have hend := stops_lineBreak style level (stops_cons (c := '}') (by decide) rest)
          simp only [Value.text, Value.tokens, List.map_cons, List.map_nil, List.map_append,
            List.cons_append, List.nil_append, List.append_assoc]
          rw [tokens_mark (t := .objectStart) (by decide) fun _ => rfl, tokens_lineBreak, tokens_stringText, tokens_colon,
            tokens_text style (level + 1) v (stops_membersText _ _ _ hend),
            tokens_membersText style (level + 1) members hend, tokens_lineBreak,
            tokens_mark (t := .objectEnd) (by decide) fun _ => rfl]

theorem tokens_itemsText
    (style : Style)
    (level : Nat)
    (items : List Value)
    {rest : List Symbol}
    (hrest : Stops rest) :
    tokens ((itemsText style level items).map some ++ rest) = itemsTokens items ++ tokens rest := by
  cases items with
  | nil => rfl
  | cons v items =>
      simp only [itemsText, itemsTokens, List.map_cons, List.map_append, List.cons_append,
        List.append_assoc]
      rw [tokens_mark (t := .comma) (by decide) fun _ => rfl, tokens_lineBreak, tokens_text style level v (stops_itemsText _ _ _ hrest),
        tokens_itemsText style level items hrest]

theorem tokens_membersText
    (style : Style)
    (level : Nat)
    (members : List (String × Value))
    {rest : List Symbol}
    (hrest : Stops rest) :
    tokens ((membersText style level members).map some ++ rest) =
      membersTokens members ++ tokens rest := by
  cases members with
  | nil => rfl
  | cons m members =>
      obtain ⟨name, v⟩ := m
      simp only [membersText, membersTokens, List.map_cons, List.map_append, List.cons_append,
        List.append_assoc]
      rw [tokens_mark (t := .comma) (by decide) fun _ => rfl, tokens_lineBreak, tokens_stringText, tokens_colon,
        tokens_text style level v (stops_membersText _ _ _ hrest),
        tokens_membersText style level members hrest]

end

/-! ## Putting a value together -/

theorem run_cons
    {m n : Machine}
    {t : Token}
    (h : m.step? t = some n)
    (ts : List Token) :
    m.run (t :: ts) = n.run ts := by
  rw [Machine.run, h]

/-- A value begins its array as it would begin behind a comma. -/
theorem run_firstItem
    (v : Value)
    (frames : List Frame)
    (ts : List Token) :
    Machine.run ⟨frames, .firstItem⟩ (v.tokens ++ ts) =
      Machine.run ⟨.array [] :: frames, .value⟩ (v.tokens ++ ts) := by
  have hstep : ∀ (t : Token) (ts : List Token), t ≠ .arrayEnd →
      Machine.run ⟨frames, .firstItem⟩ (t :: ts) =
        Machine.run ⟨.array [] :: frames, .value⟩ (t :: ts) := by
    intro t ts ht
    rw [Machine.run, Machine.run]
    cases t with
    | arrayEnd => exact absurd rfl ht
    | _ => rfl
  cases v with
  | array items => cases items <;> exact hstep _ _ (by simp)
  | object members => cases members <;> exact hstep _ _ (by simp)
  | float x =>
      refine hstep _ _ ?_
      unfold floatToken
      cases floatSpelling? x <;> simp
  | _ => exact hstep _ _ (by simp)

mutual

/-- The machine reads a value and hands it to the innermost open container. -/
theorem run_tokens
    (v : Value)
    (frames : List Frame)
    (ts : List Token) :
    Machine.run ⟨frames, .value⟩ (v.tokens ++ ts) = (deliver frames v.reading).run ts := by
  cases v with
  | null => exact run_cons rfl ts
  | bool b => exact run_cons rfl ts
  | int i => exact run_cons rfl ts
  | float x =>
      refine run_cons ?_ ts
      rw [Value.reading, floatToken, floatReading]
      cases floatSpelling? x <;> rfl
  | string s => exact run_cons rfl ts
  | array items =>
      cases items with
      | nil =>
          rw [Value.tokens, List.cons_append, run_cons rfl]
          exact run_cons rfl ts
      | cons v items =>
          simp only [Value.tokens, List.cons_append, List.append_assoc, List.nil_append]
          rw [run_cons (n := ⟨frames, .firstItem⟩) rfl, run_firstItem, run_tokens v]
          exact run_itemsTokens items [v.reading] frames ts
  | object members =>
      cases members with
      | nil =>
          rw [Value.tokens, List.cons_append, run_cons rfl]
          exact run_cons rfl ts
      | cons m members =>
          obtain ⟨name, v⟩ := m
          simp only [Value.tokens, List.cons_append, List.append_assoc, List.nil_append]
          rw [run_cons rfl, run_cons rfl, run_cons rfl]
          refine (run_tokens v (.object [] (some name) :: frames) _).trans ?_
          exact run_membersTokens members [(some name, v.reading)] frames ts

theorem run_itemsTokens
    (items : List Value)
    (done : List Reading)
    (frames : List Frame)
    (ts : List Token) :
    Machine.run ⟨frames, .nextItem done⟩ (itemsTokens items ++ .arrayEnd :: ts) =
      (deliver frames (.array (done.reverse ++ itemsReading items))).run ts := by
  cases items with
  | nil =>
      rw [itemsReading, List.append_nil]
      exact run_cons rfl ts
  | cons v items =>
      simp only [itemsTokens, List.cons_append, List.append_assoc]
      rw [run_cons (n := ⟨.array done :: frames, .value⟩) rfl, run_tokens v]
      refine (run_itemsTokens items (v.reading :: done) frames ts).trans ?_
      rw [itemsReading, List.reverse_cons, List.append_assoc, List.singleton_append]

theorem run_membersTokens
    (members : List (String × Value))
    (done : List (Option String × Reading))
    (frames : List Frame)
    (ts : List Token) :
    Machine.run ⟨frames, .nextMember done⟩ (membersTokens members ++ .objectEnd :: ts) =
      (deliver frames (.object (done.reverse ++ membersReading members))).run ts := by
  cases members with
  | nil =>
      rw [membersReading, List.append_nil]
      exact run_cons rfl ts
  | cons m members =>
      obtain ⟨name, v⟩ := m
      simp only [membersTokens, List.cons_append, List.append_assoc]
      rw [run_cons (n := ⟨frames, .name done⟩) rfl,
        run_cons (n := ⟨frames, .colon done (some name)⟩) rfl,
        run_cons (n := ⟨.object done (some name) :: frames, .value⟩) rfl, run_tokens v]
      refine (run_membersTokens members ((some name, v.reading) :: done) frames ts).trans ?_
      rw [membersReading, List.reverse_cons, List.append_assoc, List.singleton_append]

end

/-! ## Whole texts -/

/-- The octets of a value read as the value, and nothing stands behind it. -/
theorem ofBytes_render
    (style : Style)
    (v : Value) :
    Document.ofBytes (v.render style).toUTF8 = ⟨v.reading, true⟩ := by
  have htokens := tokens_text style 0 v stops_nil
  rw [List.append_nil] at htokens
  rw [Document.ofBytes, Text.symbols_toUTF8, Value.render, String.toList_ofList, htokens]
  refine (run_tokens v [] (tokens [])).trans ?_
  rw [tokens]
  rfl

end Json
end TournamentDesk
