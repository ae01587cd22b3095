import TournamentDesk.Text.Symbols

/-!
# Texts as octets and back

A text that is written as octets reads back as its characters, one symbol for each.

* `symbols_toUTF8`: the symbols of an encoded text are its characters.
* `utf8Encode_octets`: octets below 128 encode the characters with their numbers.
-/

namespace TournamentDesk
namespace Text

theorem utf8DecodeChar?_middle
    (before : ByteArray)
    (c : Char)
    (rest : List Char) :
    (before ++ (c :: rest).utf8Encode).utf8DecodeChar? before.size = some c := by
  rw [ByteArray.utf8DecodeChar?_eq_utf8DecodeChar?_extract]
  have hextract :
      (before ++ (c :: rest).utf8Encode).extract before.size
          (before ++ (c :: rest).utf8Encode).size =
        (c :: rest).utf8Encode :=
    ByteArray.extract_append_eq_right rfl ByteArray.size_append
  rw [hextract]
  exact List.utf8DecodeChar?_utf8Encode_cons

/-- Behind any octets, encoded characters are read one by one. -/
theorem symbolsFrom_utf8Encode
    (before : ByteArray)
    (cs : List Char) :
    symbolsFrom (before ++ cs.utf8Encode) before.size = cs.map some := by
  induction cs generalizing before with
  | nil =>
      rw [symbolsFrom]
      simp
  | cons c rest ih =>
      have hsize : before.size < (before ++ (c :: rest).utf8Encode).size := by
        have hpos := c.utf8Size_pos
        rw [List.utf8Encode_cons, List.utf8Encode_singleton]
        simp
        omega
      rw [symbolsFrom, if_pos hsize, utf8DecodeChar?_middle]
      -- the character just read joins the octets before the rest
      have hshift : before ++ (c :: rest).utf8Encode = (before ++ [c].utf8Encode) ++ rest.utf8Encode := by
        rw [List.utf8Encode_cons, ByteArray.append_assoc]
      have hnext : before.size + c.utf8Size = (before ++ [c].utf8Encode).size := by
        rw [List.utf8Encode_singleton]
        simp
      simp only [List.map_cons]
      rw [hshift, hnext, ih]

theorem symbols_toUTF8 (s : String) : symbols s.toUTF8 = s.toList.map some := by
  have hbytes : s.toUTF8 = ByteArray.empty ++ s.toList.utf8Encode := by
    rw [ByteArray.empty_append]
    exact (String.utf8Encode_toList).symm
  rw [symbols, hbytes]
  exact symbolsFrom_utf8Encode ByteArray.empty s.toList

theorem toNat_octet
    {o : UInt8}
    (h : o.toNat < 0x80) :
    (Char.ofNat o.toNat).toNat = o.toNat := by
  have hvalid : o.toNat.isValidChar := .inl (Nat.lt_trans h (by decide))
  rw [Char.ofNat, dif_pos hvalid]
  rfl

/-- An octet below 128 is the code of the character with its number. -/
theorem utf8Encode_octet
    {o : UInt8}
    (h : o.toNat < 0x80) :
    [Char.ofNat o.toNat].utf8Encode = [o].toByteArray := by
  have hnumber : (Char.ofNat o.toNat).val.toNat = o.toNat := toNat_octet h
  have hsmall : o.toNat ≤ 127 := Nat.le_of_lt_succ h
  rw [List.utf8Encode_singleton, String.utf8EncodeChar]
  simp only [hnumber, if_pos hsmall, UInt8.ofNat_toNat]

theorem utf8Encode_octets
    {os : List UInt8}
    (h : ∀ o ∈ os, o.toNat < 0x80) :
    (os.map fun o => Char.ofNat o.toNat).utf8Encode = os.toByteArray := by
  induction os with
  | nil => rfl
  | cons o os ih =>
      rw [List.map_cons, List.utf8Encode_cons, utf8Encode_octet (h o List.mem_cons_self),
        ih fun o ho => h o (List.mem_cons_of_mem _ ho)]
      exact List.toByteArray_append.symm

end Text
end TournamentDesk
