import Conveyor.Proofs.Quoting
import Conveyor.Proofs.Reading

namespace Conveyor
open Text

namespace Tree

/-- A number ends before these bytes. -/
def Delimited (rest : List UInt8) : Prop :=
  ∀ b, rest.head? = some b → isDigit b = false ∧ b ≠ 0x2e ∧ b ≠ 0x65 ∧ b ≠ 0x45

section Locality

variable {bytes left rest : List UInt8}

theorem digits_append (h : Delimited rest) (bytes : List UInt8) :
    digits (bytes ++ rest) = digits bytes ∧ afterDigits (bytes ++ rest) = afterDigits bytes ++ rest := by
  unfold digits afterDigits
  induction bytes with
  | nil =>
    cases rest with
    | nil => exact ⟨rfl, rfl⟩
    | cons b rest =>
      have hb := (h b rfl).1
      simp [hb]
  | cons b more ih =>
    by_cases hb : isDigit b = true
    · simpa [hb] using ih
    · simp [hb]

theorem whole_append {found : List Nat} (h : Delimited rest) (hw : whole bytes = some (found, left)) :
    whole (bytes ++ rest) = some (found, left ++ rest) := by
  obtain ⟨hdigits, hafter⟩ := digits_append h bytes
  unfold whole at hw ⊢
  rw [hdigits, hafter]
  split at hw
  · cases hw
  · cases hw
  next hnone hzero =>
    cases hw
    rfl

theorem magnitude_append {n : Nat} (h : Delimited rest) (hm : magnitude bytes = some (n, left)) :
    magnitude (bytes ++ rest) = some (n, left ++ rest) := by
  obtain ⟨hdigits, hafter⟩ := digits_append h bytes
  unfold magnitude at hm ⊢
  rw [hdigits, hafter]
  split at hm
  · cases hm
  next hnone =>
    cases hm
    rfl

theorem fraction_of_ne (h : bytes.head? ≠ some 0x2e) : fraction bytes = some (none, bytes) := by
  unfold fraction
  split
  · cases h rfl
  · rfl

theorem fraction_append {found : Option (List Nat)} (h : Delimited rest)
    (hf : fraction bytes = some (found, left)) :
    fraction (bytes ++ rest) = some (found, left ++ rest) := by
  by_cases hpoint : bytes.head? = some 0x2e
  · obtain ⟨more, rfl⟩ := List.head?_eq_some_iff.mp hpoint
    obtain ⟨hdigits, hafter⟩ := digits_append h more
    rw [List.cons_append]
    unfold fraction at hf ⊢
    simp only [hdigits, hafter] at hf ⊢
    split at hf
    · cases hf
    · cases hf
      rfl
  · rw [fraction_of_ne hpoint] at hf
    cases hf
    refine fraction_of_ne ?_
    cases bytes with
    | nil => exact fun he => (h _ he).2.1 rfl
    | cons => exact hpoint

/-- An exponent behind its mark, and what to make of its sign. -/
def power (sign : Nat → Int) (bytes : List UInt8) : Option (Option Int × List UInt8) :=
  (magnitude bytes).map fun (n, rest) => (some (sign n), rest)

theorem power_append {sign : Nat → Int} {found : Option Int} (h : Delimited rest)
    (hp : power sign bytes = some (found, left)) :
    power sign (bytes ++ rest) = some (found, left ++ rest) := by
  obtain ⟨⟨n, after⟩, hn, hp⟩ := Option.map_eq_some_iff.mp hp
  cases hp
  rw [power, magnitude_append h hn]
  rfl

theorem exponent_of_not_mark (h : ∀ b, bytes.head? = some b → b ≠ 0x65 ∧ b ≠ 0x45) :
    exponent bytes = some (none, bytes) := by
  cases bytes with
  | nil => rfl
  | cons b more =>
    obtain ⟨hsmall, hbig⟩ := h b rfl
    rw [exponent.eq_def]
    simp [hsmall, hbig]

section Marked

variable {b : UInt8} (mark : b = 0x65 ∨ b = 0x45)

include mark

theorem exponent_minus (digits : List UInt8) :
    exponent (b :: 0x2d :: digits) = power (-·) digits := by
  rw [exponent.eq_def]
  rcases mark with rfl | rfl <;> cases h : magnitude digits <;> simp [power, h]

theorem exponent_plus (digits : List UInt8) :
    exponent (b :: 0x2b :: digits) = power Int.ofNat digits := by
  rw [exponent.eq_def]
  rcases mark with rfl | rfl <;> cases h : magnitude digits <;> simp [power, h]

theorem exponent_bare {c : UInt8} (hminus : c ≠ 0x2d) (hplus : c ≠ 0x2b) (digits : List UInt8) :
    exponent (b :: c :: digits) = power Int.ofNat (c :: digits) := by
  rw [exponent.eq_def]
  rcases mark with rfl | rfl <;> cases h : magnitude (c :: digits) <;> simp [power, h, hminus, hplus]

theorem exponent_unfinished : exponent [b] = none := by
  rcases mark with rfl | rfl <;> rfl

end Marked

theorem exponent_append {found : Option Int} (h : Delimited rest)
    (he : exponent bytes = some (found, left)) :
    exponent (bytes ++ rest) = some (found, left ++ rest) := by
  by_cases hmark : ∀ b, bytes.head? = some b → b ≠ 0x65 ∧ b ≠ 0x45
  · rw [exponent_of_not_mark hmark] at he
    cases he
    refine exponent_of_not_mark fun b hb => ?_
    cases bytes with
    | nil => exact (h b hb).2.2
    | cons => exact hmark b hb
  · obtain ⟨b, more, rfl, mark⟩ : ∃ b more, bytes = b :: more ∧ (b = 0x65 ∨ b = 0x45) := by
      simp only [not_forall] at hmark
      obtain ⟨b, hb, hmark⟩ := hmark
      obtain ⟨more, rfl⟩ := List.head?_eq_some_iff.mp hb
      exact ⟨b, more, rfl, Decidable.or_iff_not_imp_left.mpr (by simpa using hmark)⟩
    cases more with
    | nil => cases (exponent_unfinished mark).symm.trans he
    | cons c digits =>
      simp only [List.cons_append]
      by_cases hminus : c = 0x2d
      · subst c
        rw [exponent_minus mark] at he ⊢
        exact power_append h he
      by_cases hplus : c = 0x2b
      · subst c
        rw [exponent_plus mark] at he ⊢
        exact power_append h he
      rw [exponent_bare mark hminus hplus] at he ⊢
      exact power_append h he

theorem numeral_append {negative : Bool} {found : Numeral} (h : Delimited rest)
    (hn : numeral negative bytes = some (found, left)) :
    numeral negative (bytes ++ rest) = some (found, left ++ rest) := by
  obtain ⟨⟨w, after⟩, hw, hn⟩ := Option.bind_eq_some_iff.mp hn
  obtain ⟨⟨f, after'⟩, hf, hn⟩ := Option.bind_eq_some_iff.mp hn
  obtain ⟨⟨e, after''⟩, he, hn⟩ := Option.bind_eq_some_iff.mp hn
  cases hn
  rw [numeral, whole_append h hw]
  simp [fraction_append h hf, exponent_append h he]

/-- A number reads the same whatever follows it, as long as it ends there. -/
theorem number_append {tree : Tree} (h : Delimited rest) (hn : number bytes = some (tree, left)) :
    number (bytes ++ rest) = some (tree, left ++ rest) := by
  by_cases hminus : bytes.head? = some 0x2d
  · obtain ⟨more, rfl⟩ := List.head?_eq_some_iff.mp hminus
    rw [number_minus] at hn
    rw [List.cons_append, number_minus]
    obtain ⟨spelled, hspelled, hn⟩ := Option.map_eq_some_iff.mp hn
    cases hn
    rw [numeral_append h hspelled]
    rfl
  · have hne : (bytes ++ rest).head? ≠ some 0x2d := by
      cases bytes with
      | nil => cases hn
      | cons => exact hminus
    rw [number_of_ne hminus] at hn
    rw [number_of_ne hne]
    obtain ⟨spelled, hspelled, hn⟩ := Option.map_eq_some_iff.mp hn
    cases hn
    rw [numeral_append h hspelled]
    rfl

end Locality

end Tree

namespace Number

/-- Whether it is read as itself where it is written. -/
def ReadsBack (n : Number) : Prop :=
  Tree.number (Utf8.encode n.text) = some (.num (some n), [])

end Number

section Integers

/-- The decimal digits of a number, from the left. -/
def decimal (n : Nat) : List Nat :=
  if n < 10 then [n] else decimal (n / 10) ++ [n % 10]

theorem toDigits_eq (n : Nat) : Nat.toDigits 10 n = (decimal n).map Nat.digitChar := by
  induction n using decimal.induct with
  | case1 n h => rw [decimal, if_pos h, Nat.toDigits_of_lt_base h, List.map_singleton]
  | case2 n h ih =>
    rw [decimal, if_neg h, Nat.toDigits_of_base_le (by decide) (Nat.not_lt.mp h), ih,
      List.map_append, List.map_singleton]

theorem decimal_lt {n d : Nat} (h : d ∈ decimal n) : d < 10 := by
  induction n using decimal.induct with
  | case1 n hn =>
    rw [decimal, if_pos hn, List.mem_singleton] at h
    omega
  | case2 n hn ih =>
    rw [decimal, if_neg hn, List.mem_append, List.mem_singleton] at h
    rcases h with h | h
    · exact ih h
    · omega

/-- Only zero starts with a zero. -/
theorem decimal_head {n : Nat} : ∃ d rest, decimal n = d :: rest ∧ (d = 0 → rest = [] ∧ n = 0) := by
  induction n using decimal.induct with
  | case1 n hn => exact ⟨n, [], by rw [decimal, if_pos hn], fun h => ⟨rfl, h⟩⟩
  | case2 n hn ih =>
    obtain ⟨d, rest, hd, hzero⟩ := ih
    refine ⟨d, rest ++ [n % 10], by rw [decimal, if_neg hn, hd, List.cons_append], fun h => ?_⟩
    have := (hzero h).2
    omega

theorem foldl_decimal (n : Nat) : (decimal n).foldl (fun n d => n * 10 + d) 0 = n := by
  induction n using decimal.induct with
  | case1 n hn => rw [decimal, if_pos hn]; simp
  | case2 n hn ih =>
    rw [decimal, if_neg hn, List.foldl_append, ih]
    simp
    omega

/-- The byte of a digit. -/
def digitByte (d : Nat) : UInt8 := UInt8.ofNat (0x30 + d)

theorem encode_repr (n : Nat) : Utf8.encode (Nat.repr n) = (decimal n).map digitByte := by
  have every : ∀ d < 10, String.utf8EncodeChar (Nat.digitChar d) = [digitByte d] := by decide
  rw [Nat.repr_eq_ofList_toDigits, Utf8.encode_ofList, toDigits_eq, List.flatMap_map,
    List.map_eq_flatMap]
  exact List.flatMap_congr fun d hd => every d (decimal_lt hd)

theorem digitByte_spec : ∀ d < 10, Tree.isDigit (digitByte d) = true ∧ Tree.digit (digitByte d) = d ∧
    digitByte d ≠ 0x2d := by
  decide

theorem digits_map {ds : List Nat} (h : ∀ d ∈ ds, d < 10) :
    Tree.digits (ds.map digitByte) = ds ∧ Tree.afterDigits (ds.map digitByte) = [] := by
  unfold Tree.digits Tree.afterDigits
  induction ds with
  | nil => exact ⟨rfl, rfl⟩
  | cons d rest ih =>
    obtain ⟨hdigit, hvalue, -⟩ := digitByte_spec d (h d List.mem_cons_self)
    obtain ⟨htake, hdrop⟩ := ih fun e he => h e (List.mem_cons_of_mem d he)
    rw [List.map_cons, List.takeWhile_cons_of_pos hdigit, List.dropWhile_cons_of_pos hdigit,
      List.map_cons, hvalue, htake]
    exact ⟨rfl, hdrop⟩

theorem numeral_repr (negative : Bool) (n : Nat) :
    Tree.numeral negative (Utf8.encode (Nat.repr n)) = some (⟨negative, decimal n, none, none⟩, []) := by
  obtain ⟨hdigits, hafter⟩ := digits_map fun d hd => decimal_lt (n := n) hd
  have hwhole : Tree.whole (Utf8.encode (Nat.repr n)) = some (decimal n, []) := by
    obtain ⟨d, rest, hd, hzero⟩ := decimal_head (n := n)
    rw [encode_repr, Tree.whole, hdigits, hafter, hd]
    split
    next h => cases h
    next h =>
      cases h
      cases (hzero rfl).1
    · rfl
  rw [Tree.numeral, hwhole]
  rfl

theorem le_foldl (significand : Nat) (ds : List Nat) :
    significand ≤ ds.foldl (fun n d => n * 10 + d) significand := by
  induction ds generalizing significand with
  | nil => exact Nat.le_refl _
  | cons d rest ih => exact Nat.le_trans (by omega) (ih (significand * 10 + d))

/-- No digit is left over from what fits in 64 bits. -/
theorem fit_of_lt {significand : Nat} {ds : List Nat}
    (h : ds.foldl (fun n d => n * 10 + d) significand < 2 ^ 64) :
    Numeral.fit significand ds = (ds.foldl (fun n d => n * 10 + d) significand, []) := by
  induction ds generalizing significand with
  | nil => rfl
  | cons d rest ih =>
    have hfits : significand * 10 + d < 1 <<< 64 := Nat.lt_of_le_of_lt (le_foldl _ rest) h
    rw [Numeral.fit, if_pos hfits, ih h]
    rfl

theorem fit_decimal {n : Nat} (h : n < 2 ^ 64) : Numeral.fit 0 (decimal n) = (n, []) := by
  rw [fit_of_lt (by rwa [foldl_decimal]), foldl_decimal]

end Integers

namespace Number

theorem readsBack_nat {n : Nat} (h : n < 2 ^ 64) : (int n).ReadsBack := by
  have htext : (int n).text = Nat.repr n := rfl
  have hhead : (Utf8.encode (Nat.repr n)).head? ≠ some 0x2d := by
    obtain ⟨d, rest, hd, -⟩ := decimal_head (n := n)
    have hlt : d < 10 := decimal_lt (n := n) (hd ▸ List.mem_cons_self)
    rw [encode_repr, hd]
    exact fun he => (digitByte_spec d hlt).2.2 (Option.some.inj he)
  rw [ReadsBack, htext, Tree.number_of_ne hhead, numeral_repr]
  simp [Tree.ofNumeral, Numeral.value?, fit_decimal h]

theorem readsBack_neg {n : Nat} (hpos : 0 < n) (h : n ≤ 2 ^ 63) : (int (-n)).ReadsBack := by
  have htext : Utf8.encode (int (-n)).text = 0x2d :: Utf8.encode (Nat.repr n) := by
    obtain ⟨m, rfl⟩ : ∃ m, n = m + 1 := ⟨n - 1, by omega⟩
    exact Utf8.encode_append "-" (Nat.repr (m + 1))
  rw [ReadsBack, htext, Tree.number_minus, numeral_repr]
  simp [Tree.ofNumeral, Numeral.value?, fit_decimal (Nat.lt_of_le_of_lt h (by decide))]
  omega

/-- Integers of the readable range are read as they are written. -/
theorem readsBack_int {n : Int} (hlow : -2 ^ 63 ≤ n) (hhigh : n < 2 ^ 64) : (int n).ReadsBack := by
  by_cases hneg : n < 0
  · obtain ⟨m, rfl⟩ : ∃ m : Nat, n = -m := ⟨n.natAbs, by omega⟩
    exact readsBack_neg (by omega) (by omega)
  · obtain ⟨m, rfl⟩ : ∃ m : Nat, n = m := ⟨n.natAbs, by omega⟩
    exact readsBack_nat (by omega)

end Number

end Conveyor
