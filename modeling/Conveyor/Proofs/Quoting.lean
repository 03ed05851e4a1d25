import Conveyor.Json.Printer
import Conveyor.Json.Reader
import Conveyor.Text.Utf8

namespace Conveyor
open Text

namespace Text.Utf8

theorem encode_append (s t : String) : encode (s ++ t) = encode s ++ encode t := by
  simp [encode]

theorem encode_eq (s : String) : encode s = s.toList.flatMap String.utf8EncodeChar := by
  have h : s.toByteArray = s.toList.utf8Encode := by
    rw [← String.toByteArray_ofList, String.ofList_toList]
  simp [encode, h, List.utf8Encode]

theorem encode_ofList (cs : List Char) :
    encode (String.ofList cs) = cs.flatMap String.utf8EncodeChar := by
  rw [encode_eq, String.toList_ofList]

theorem encode_join (parts : List String) : encode (String.join parts) = parts.flatMap encode := by
  induction parts with
  | nil => rfl
  | cons part rest ih => simp [encode_append, ih]

theorem fromUTF8?_encode (s : String) : String.fromUTF8? ⟨(encode s).toArray⟩ = some s := by
  simp [encode, String.fromUTF8?, s.isValidUTF8]
  rfl

theorem utf8EncodeChar_of_lt {c : Char} (h : c.toNat < 0x80) :
    String.utf8EncodeChar c = [UInt8.ofNat c.toNat] :=
  if_pos (Nat.le_of_lt_succ h)

theorem le_ofNat {n : Nat} (h : 0x80 ≤ n) (hlt : n < 256) : 0x80 ≤ UInt8.ofNat n := by
  rw [UInt8.le_iff_toNat_le, UInt8.toNat_ofNat', Nat.mod_eq_of_lt hlt]
  exact h

/-- Beyond ASCII no byte looks like a character of its own. -/
theorem le_of_mem_utf8EncodeChar {c : Char} {b : UInt8} (h : 0x80 ≤ c.toNat)
    (hm : b ∈ String.utf8EncodeChar c) : 0x80 ≤ b := by
  have h : ¬c.val.toNat ≤ 0x7f := Nat.not_le.mpr h
  rw [String.utf8EncodeChar, if_neg h] at hm
  split at hm
  all_goals try split at hm
  all_goals
    simp only [List.mem_cons, List.not_mem_nil, or_false] at hm
  · rcases hm with rfl | rfl <;> exact le_ofNat (by omega) (by omega)
  · rcases hm with rfl | rfl | rfl <;> exact le_ofNat (by omega) (by omega)
  · rcases hm with rfl | rfl | rfl | rfl <;> exact le_ofNat (by omega) (by omega)

end Text.Utf8

namespace Tree

/-- What is spelled inside quotes comes to the given bytes. -/
def Quotes (spelled bytes : List UInt8) : Prop :=
  ∃ found : List Piece,
    (∀ done rest, pieces done (spelled ++ rest) = pieces (found.reverse ++ done) rest) ∧
      ∀ more, Piece.bytes? (found ++ more) = (Piece.bytes? more).map (bytes ++ ·)

namespace Quotes

variable {spelled more bytes others : List UInt8}

theorem nil : Quotes [] [] := ⟨[], fun _ _ => rfl, by simp⟩

theorem append (first : Quotes spelled bytes) (second : Quotes more others) :
    Quotes (spelled ++ more) (bytes ++ others) := by
  obtain ⟨found, hfound, hbytes⟩ := first
  obtain ⟨found', hfound', hbytes'⟩ := second
  refine ⟨found ++ found', fun done rest => ?_, fun left => ?_⟩
  · rw [List.append_assoc, hfound, hfound', List.reverse_append, List.append_assoc]
  · rw [List.append_assoc, hbytes, hbytes', Option.map_map]
    simp [Function.comp_def]

theorem byte {b : UInt8}
    (h : ∀ done rest, pieces done (spelled ++ rest) = pieces (.byte b :: done) rest) :
    Quotes spelled [b] :=
  ⟨[.byte b], h, fun _ => rfl⟩

/-- A byte stands for itself unless it is a control, a quote or a backslash. -/
theorem plain {b : UInt8} (hlow : 0x20 ≤ b) (hquote : b ≠ 0x22) (hslash : b ≠ 0x5c) :
    Quotes [b] [b] := by
  refine byte fun done rest => ?_
  rw [List.singleton_append, pieces]
  · rw [if_neg]
    simp [hslash, hlow]
  · exact hquote
  · exact fun _ _ _ _ _ h => absurd h hslash
  · exact fun _ _ h => absurd h hslash

theorem escaped {e b : UInt8} (h : escaped? e = some b) : Quotes [0x5c, e] [b] := by
  refine byte fun done rest => ?_
  have hunit : escaped? 0x75 = none := rfl
  show pieces done (0x5c :: e :: rest) = _
  rw [pieces, h]
  rintro a b c d rest' rfl
  rw [hunit] at h
  cases h

theorem unit {a b c d : UInt8} {n : Nat} (h : unit? a b c d = some n) (whole : n < 0xd800) :
    Quotes [0x5c, 0x75, a, b, c, d] (String.utf8EncodeChar (Char.ofNat n)) := by
  refine ⟨[.unit n], fun done rest => ?_, fun more => ?_⟩
  · show pieces done (0x5c :: 0x75 :: a :: b :: c :: d :: rest) = _
    rw [pieces, h]
    rfl
  · rw [List.singleton_append, Piece.bytes?.eq_def]
    exact if_pos (.inl whole)

theorem all {bytes : List UInt8} (h : ∀ b ∈ bytes, 0x20 ≤ b ∧ b ≠ 0x22 ∧ b ≠ 0x5c) :
    Quotes bytes bytes := by
  induction bytes with
  | nil => exact nil
  | cons b rest ih =>
    obtain ⟨hlow, hquote, hslash⟩ := h b List.mem_cons_self
    exact (plain hlow hquote hslash).append (ih fun c hc => h c (List.mem_cons_of_mem b hc))

theorem hex?_digit : ∀ n < 16, ∃ b, String.utf8EncodeChar (Hex.digit n) = [b] ∧ hex? b = some n := by
  have every : ∀ n < 16, String.utf8EncodeChar (Hex.digit n) = [UInt8.ofNat (Hex.digit n).toNat] ∧
      hex? (UInt8.ofNat (Hex.digit n).toNat) = some n := by
    decide
  exact fun n hn => ⟨_, every n hn⟩

theorem control {c : Char} (h : c.toNat < 0x20) :
    Quotes (Utf8.encode ("\\u00" ++
      String.ofList [Hex.digit (c.toNat / 16), Hex.digit (c.toNat % 16)])) (String.utf8EncodeChar c) := by
  obtain ⟨a, ha, hhigh⟩ := hex?_digit (c.toNat / 16) (by omega)
  obtain ⟨b, hb, hlow⟩ := hex?_digit (c.toNat % 16) (by omega)
  have hzero : hex? 0x30 = some 0 := rfl
  have hprefix : Utf8.encode "\\u00" = [0x5c, 0x75, 0x30, 0x30] := rfl
  have hunit : unit? 0x30 0x30 a b = some c.toNat := by
    simp [unit?, hzero, hhigh, hlow]
    omega
  have hquotes := unit hunit (by omega)
  rw [Char.ofNat_toNat] at hquotes
  rw [Utf8.encode_append, hprefix, Utf8.encode_ofList]
  simpa [ha, hb] using hquotes

theorem bare {c : Char} (hlow : 0x20 ≤ c.toNat) (hquote : c ≠ '\x22') (hslash : c ≠ '\x5c') :
    Quotes (String.utf8EncodeChar c) (String.utf8EncodeChar c) := by
  have hne {d : Char} (h : c ≠ d) : c.toNat ≠ d.toNat := fun he => h (Char.toNat_inj.mp he)
  refine all fun b hb => ?_
  by_cases hascii : c.toNat < 0x80
  · rw [Utf8.utf8EncodeChar_of_lt hascii, List.mem_singleton] at hb
    have hb : b.toNat = c.toNat := by
      rw [hb, UInt8.toNat_ofNat', Nat.mod_eq_of_lt (by omega)]
    refine ⟨by rwa [UInt8.le_iff_toNat_le, hb], ?_, ?_⟩
    · rintro rfl
      exact hne hquote hb.symm
    · rintro rfl
      exact hne hslash hb.symm
  · have hhigh := Utf8.le_of_mem_utf8EncodeChar (Nat.not_lt.mp hascii) hb
    rw [UInt8.le_iff_toNat_le] at hhigh
    refine ⟨UInt8.le_iff_toNat_le.mpr (Nat.le_trans (by decide) hhigh), ?_, ?_⟩ <;>
      · rintro rfl
        exact absurd hhigh (by decide)

/-- Whatever way a character is escaped, it is read as itself. -/
theorem escapeChar (c : Char) :
    Quotes (Utf8.encode (Json.escapeChar c)) (String.utf8EncodeChar c) := by
  unfold Json.escapeChar
  split
  next h =>
    subst c
    exact escaped (e := 0x22) (by decide)
  next hquote =>
  split
  next h =>
    subst c
    exact escaped (e := 0x5c) (by decide)
  next hslash =>
  split
  next h =>
    subst c
    exact escaped (e := 0x62) (by decide)
  split
  next h =>
    subst c
    exact escaped (e := 0x66) (by decide)
  split
  next h =>
    subst c
    exact escaped (e := 0x6e) (by decide)
  split
  next h =>
    subst c
    exact escaped (e := 0x72) (by decide)
  split
  next h =>
    subst c
    exact escaped (e := 0x74) (by decide)
  split
  next hcontrol => exact control hcontrol
  next hcontrol =>
    rw [Utf8.encode_eq, String.toList_singleton, List.flatMap_singleton]
    exact bare (Nat.not_lt.mp hcontrol) hquote hslash

theorem escaping (cs : List Char) :
    Quotes (cs.flatMap fun c => Utf8.encode (Json.escapeChar c)) (cs.flatMap String.utf8EncodeChar) := by
  induction cs with
  | nil => exact nil
  | cons c rest ih => exact (escapeChar c).append ih

end Quotes

/-- A text in quotes is read back, and nothing behind it is touched. -/
theorem pieces_quote (s : String) :
    ∃ opened found, Utf8.encode (Json.quote s) = 0x22 :: opened ∧
      (∀ rest, pieces [] (opened ++ rest) = some (found, rest)) ∧ Piece.text? found = some s := by
  obtain ⟨found, hfound, hbytes⟩ := Quotes.escaping s.toList
  refine ⟨(s.toList.flatMap fun c => Utf8.encode (Json.escapeChar c)) ++ [0x22], found, ?_,
    fun rest => ?_, ?_⟩
  · simp only [Json.quote, Utf8.encode_append, Utf8.encode_join, List.flatMap_map]
    rfl
  · rw [List.append_assoc, hfound]
    simp [pieces]
  · have htext : Piece.bytes? found = some (Utf8.encode s) := by
      simpa [Piece.bytes?, Utf8.encode_eq] using hbytes []
    rw [Piece.text?, htext]
    exact Utf8.fromUTF8?_encode s

end Tree

end Conveyor
