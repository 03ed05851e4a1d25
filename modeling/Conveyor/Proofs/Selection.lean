import Conveyor.Payment
import Mathlib.Algebra.Group.Nat.Defs

namespace Conveyor

namespace Text

variable {width n : Nat} {cs : List Char} {c : Char}

/-- A text that writes a number of so many bits: decimal digits, with a plus in front or without. -/
def Writes (width : Nat) (text : String) (n : Nat) : Prop :=
  ∃ digits : List Char, (text.toList = digits ∨ text.toList = '+' :: digits) ∧ digits ≠ [] ∧
    (∀ c ∈ digits, c.isDigit = true) ∧ Nat.ofDigitChars 10 digits 0 = n ∧ n < 2 ^ width

theorem digit?_eq (c : Char) :
    digit? c = if c.isDigit then some (c.toNat - '0'.toNat) else none := by
  simp only [digit?, Char.isDigit, Bool.and_eq_true, decide_eq_true_eq]
  rfl

theorem mapM_digit?_eq_some_iff {found : List Nat} :
    cs.mapM digit? = some found ↔
      (∀ c ∈ cs, c.isDigit = true) ∧ found = cs.map fun c => c.toNat - '0'.toNat := by
  induction cs generalizing found with
  | nil => simp [@eq_comm _ [] found]
  | cons c rest ih =>
    rw [List.mapM_cons, digit?_eq]
    cases hc : c.isDigit with
    | false => simp [hc]
    | true =>
      simp only [if_true, Option.bind_eq_bind, Option.bind_some, Option.bind_eq_some_iff, ih,
        List.forall_mem_cons, hc, true_and, List.map_cons]
      constructor
      · rintro ⟨found, ⟨digits, rfl⟩, h⟩
        exact ⟨digits, (Option.some.inj h).symm⟩
      · rintro ⟨digits, rfl⟩
        exact ⟨_, ⟨digits, rfl⟩, rfl⟩

/-- The number that characters behind a plus write. -/
def behindPlus? (width : Nat) (cs : List Char) : Option Nat := do
  let digits ← cs.mapM digit?
  if digits.isEmpty then none
  else
    let n := digits.foldl (fun n d => n * 10 + d) 0
    if n < 1 <<< width then some n else none

theorem behindPlus?_eq_some_iff :
    behindPlus? width cs = some n ↔ cs ≠ [] ∧ (∀ c ∈ cs, c.isDigit = true) ∧
      Nat.ofDigitChars 10 cs 0 = n ∧ n < 2 ^ width := by
  have value : (cs.map fun c => c.toNat - '0'.toNat).foldl (fun n d => n * 10 + d) 0 =
      Nat.ofDigitChars 10 cs 0 := by
    simp only [List.foldl_map, Nat.ofDigitChars_eq_foldl, Nat.mul_comm]
  simp only [behindPlus?, Option.bind_eq_bind, Option.bind_eq_some_iff, mapM_digit?_eq_some_iff,
    Nat.shiftLeft_eq, Nat.one_mul]
  constructor
  · rintro ⟨found, ⟨digits, rfl⟩, h⟩
    rw [value] at h
    split at h
    · cases h
    next hne =>
      split at h
      next fits =>
        cases h
        exact ⟨by simpa using hne, digits, rfl, fits⟩
      · cases h
  · rintro ⟨hne, digits, rfl, fits⟩
    refine ⟨_, ⟨digits, rfl⟩, ?_⟩
    rw [value, if_neg (by simpa using hne), if_pos fits]

theorem unsigned?_of_not_plus (h : cs.head? ≠ some '+') :
    unsigned? width cs = behindPlus? width cs := by
  unfold unsigned? behindPlus?
  split
  · cases h rfl
  · rfl

/-- A text is read as the number that it writes, and as none if it writes none. -/
theorem unsigned?_eq_some_iff {text : String} :
    unsigned? width text.toList = some n ↔ Writes width text n := by
  unfold Writes
  generalize text.toList = cs
  by_cases plus : cs.head? = some '+'
  · obtain ⟨rest, rfl⟩ := List.head?_eq_some_iff.mp plus
    have front : unsigned? width ('+' :: rest) = behindPlus? width rest := rfl
    rw [front, behindPlus?_eq_some_iff]
    constructor
    · intro h
      exact ⟨rest, .inr rfl, h⟩
    · rintro ⟨digits, rfl | behind, hne, each, value⟩
      · cases each '+' List.mem_cons_self
      · cases behind
        exact ⟨hne, each, value⟩
  · rw [unsigned?_of_not_plus plus, behindPlus?_eq_some_iff]
    constructor
    · intro h
      exact ⟨cs, .inl rfl, h⟩
    · rintro ⟨digits, rfl | rfl, h⟩
      · exact h
      · cases plus rfl

/-- Every number that fits is written by its decimal digits. -/
theorem writes_toString {m : Nat} : Writes width (toString m) n ↔ m = n ∧ n < 2 ^ width := by
  have digits : (toString m).toList = Nat.toDigits 10 m := by
    rw [Nat.toString_eq_repr, Nat.toList_repr]
  have each : ∀ c ∈ Nat.toDigits 10 m, c.isDigit = true := fun c hc =>
    Nat.isDigit_of_mem_toDigits (by decide) (by decide) hc
  have value : Nat.ofDigitChars 10 (Nat.toDigits 10 m) 0 = m :=
    Nat.ofDigitChars_toDigits (by decide) (by decide)
  unfold Writes
  rw [digits]
  constructor
  · rintro ⟨found, rfl | plus, -, -, rfl, fits⟩
    · exact ⟨value.symm, fits⟩
    · cases each '+' (plus ▸ List.mem_cons_self)
  · rintro ⟨rfl, fits⟩
    exact ⟨_, .inl rfl, Nat.toDigits_ne_nil, each, value, fits⟩

end Text

namespace Payment.Expected

/-- An offer to be paid in the way that is expected. -/
structure Matches (expected : Expected) (offer : Offer) : Prop where
  scheme : offer.scheme = expected.scheme
  network : offer.network = expected.network
  asset : offer.asset = expected.asset

/-- The first of the offers that matches. -/
def Foremost (expected : Expected) (offers : List Offer) (offer : Offer) : Prop :=
  ∃ front back, offers = front ++ offer :: back ∧ expected.Matches offer ∧
    ∀ other ∈ front, ¬expected.Matches other

/-- If there is a cap, the offer asks for an amount, and not for more than the cap. -/
def Affords (expected : Expected) (offer : Offer) : Prop :=
  ∀ cap, expected.maxAmount = some cap →
    ∃ required, Text.Writes 128 offer.maxAmountRequired required ∧ required ≤ cap

/-- The first field in which an offer differs, what is expected there and what is offered. -/
inductive Differs (expected : Expected) (offer : Offer) : String → String → String → Prop
  | scheme (differs : expected.scheme ≠ offer.scheme) :
    Differs expected offer "scheme" expected.scheme offer.scheme
  | network (scheme : expected.scheme = offer.scheme) (differs : expected.network ≠ offer.network) :
    Differs expected offer "network" expected.network offer.network
  | asset (scheme : expected.scheme = offer.scheme) (network : expected.network = offer.network)
      (differs : expected.asset ≠ offer.asset) :
    Differs expected offer "asset" expected.asset offer.asset

/-- Why no offer is selected. -/
inductive Refuses (expected : Expected) : List Offer → Failure → Prop
  | unoffered : Refuses expected [] (.execution "402 response carried no payment requirements")
  | mismatched {first : Offer} {rest : List Offer} {field wanted found : String}
      (unmatched : ∀ offer ∈ first :: rest, ¬expected.Matches offer)
      (differs : expected.Differs first field wanted found) :
      Refuses expected (first :: rest) (.paymentMismatch field wanted found)
  | unreadable {offers : List Offer} {offer : Offer} {cap : Nat}
      (foremost : expected.Foremost offers offer) (capped : expected.maxAmount = some cap)
      (unwritten : ∀ n, ¬Text.Writes 128 offer.maxAmountRequired n) :
      Refuses expected offers
        (.paymentMismatch "maxAmountRequired" s!"<= {cap}" offer.maxAmountRequired)
  | overpriced {offers : List Offer} {offer : Offer} {cap required : Nat}
      (foremost : expected.Foremost offers offer) (capped : expected.maxAmount = some cap)
      (written : Text.Writes 128 offer.maxAmountRequired required) (beyond : cap < required) :
      Refuses expected offers
        (.paymentMismatch "maxAmountRequired" s!"<= {cap}" (toString required))

variable {expected : Expected} {offers : List Offer} {offer chosen : Offer} {e : Failure}

theorem suits_iff : expected.suits offer = true ↔ expected.Matches offer := by
  simp only [suits, Bool.and_eq_true, decide_eq_true_eq]
  constructor
  · rintro ⟨⟨scheme, network⟩, asset⟩
    exact ⟨scheme, network, asset⟩
  · intro h
    exact ⟨⟨h.scheme, h.network⟩, h.asset⟩

theorem foremost_iff : expected.Foremost offers offer ↔ offers.find? expected.suits = some offer := by
  rw [List.find?_eq_some_iff_append, suits_iff]
  constructor
  · rintro ⟨front, back, rfl, matched, before⟩
    refine ⟨matched, front, back, rfl, fun other hm => ?_⟩
    simpa [← suits_iff] using before other hm
  · rintro ⟨matched, front, back, rfl, before⟩
    refine ⟨front, back, rfl, matched, fun other hm => ?_⟩
    simpa [← suits_iff] using before other hm

theorem foremost_or_unmatched (expected : Expected) (offers : List Offer) :
    (∃ offer, expected.Foremost offers offer) ∨ ∀ offer ∈ offers, ¬expected.Matches offer := by
  cases hfound : offers.find? expected.suits with
  | some offer => exact .inl ⟨offer, foremost_iff.mpr hfound⟩
  | none =>
    right
    intro offer hm
    rw [← suits_iff]
    exact List.find?_eq_none.mp hfound offer hm

theorem amount?_eq_none (unwritten : ∀ n, ¬Text.Writes 128 offer.maxAmountRequired n) :
    amount? offer.maxAmountRequired = none := by
  rw [Option.eq_none_iff_forall_ne_some]
  intro n h
  exact unwritten n (Text.unsigned?_eq_some_iff.mp h)

/-- With an offer that matches, it is up to the cap. -/
theorem select_of_foremost (h : expected.Foremost offers offer) :
    expected.select offers = expected.checkCap offer := by
  have found := foremost_iff.mp h
  cases offers with
  | nil => cases found
  | cons first rest => rw [select, found]

theorem select_of_unmatched {first : Offer} {rest : List Offer}
    (unmatched : ∀ offer ∈ first :: rest, ¬expected.Matches offer) :
    expected.select (first :: rest) = .error (expected.mismatch first) := by
  have absent : (first :: rest).find? expected.suits = none := by
    rw [List.find?_eq_none]
    intro offer hm
    rw [suits_iff]
    exact unmatched offer hm
  rw [select, absent]

theorem Differs.mismatch_eq {field wanted found : String}
    (h : expected.Differs offer field wanted found) :
    expected.mismatch offer = .paymentMismatch field wanted found := by
  unfold mismatch
  cases h with
  | scheme differs => rw [if_pos differs.symm]
  | network scheme differs => rw [if_neg (not_not_intro scheme.symm), if_pos differs.symm]
  | asset scheme network differs =>
    rw [if_neg (not_not_intro scheme.symm), if_neg (not_not_intro network.symm)]

/-- The last field is only named because one of the three differs. -/
theorem exists_differs (h : ¬expected.Matches offer) :
    ∃ field wanted found, expected.Differs offer field wanted found := by
  by_cases scheme : expected.scheme = offer.scheme
  · by_cases network : expected.network = offer.network
    · refine ⟨_, _, _, .asset scheme network ?_⟩
      intro asset
      exact h ⟨scheme.symm, network.symm, asset.symm⟩
    · exact ⟨_, _, _, .network scheme network⟩
  · exact ⟨_, _, _, .scheme scheme⟩

theorem Affords.checkCap_eq (h : expected.Affords offer) : expected.checkCap offer = .ok offer := by
  unfold checkCap
  cases capped : expected.maxAmount with
  | none => rfl
  | some cap =>
    obtain ⟨required, written, within⟩ := h cap capped
    have read : amount? offer.maxAmountRequired = some required :=
      Text.unsigned?_eq_some_iff.mpr written
    simp only [read]
    rw [if_neg (Nat.not_lt.mpr within)]

theorem Refuses.select_eq (h : expected.Refuses offers e) : expected.select offers = .error e := by
  cases h with
  | unoffered => rfl
  | mismatched unmatched differs => rw [select_of_unmatched unmatched, differs.mismatch_eq]
  | unreadable foremost capped unwritten =>
    rw [select_of_foremost foremost, checkCap, capped]
    simp only [amount?_eq_none unwritten]
    rfl
  | @overpriced _ offer cap required foremost capped written beyond =>
    have read : amount? offer.maxAmountRequired = some required :=
      Text.unsigned?_eq_some_iff.mpr written
    rw [select_of_foremost foremost, checkCap, capped]
    simp only [read]
    rw [if_pos beyond]
    rfl

/-- An offer that matches is afforded, or there is a reason to refuse. -/
theorem affords_or_refuses (foremost : expected.Foremost offers offer) :
    expected.Affords offer ∨ ∃ e, expected.Refuses offers e := by
  cases capped : expected.maxAmount with
  | none =>
    left
    intro cap h
    cases capped.symm.trans h
  | some cap =>
    by_cases readable : ∃ n, Text.Writes 128 offer.maxAmountRequired n
    · obtain ⟨required, written⟩ := readable
      rcases Nat.lt_or_ge cap required with beyond | within
      · exact .inr ⟨_, .overpriced foremost capped written beyond⟩
      · left
        intro limit h
        cases capped.symm.trans h
        exact ⟨required, written, within⟩
    · exact .inr ⟨_, .unreadable foremost capped (not_exists.mp readable)⟩

theorem chosen_or_refused (expected : Expected) (offers : List Offer) :
    (∃ offer, expected.Foremost offers offer ∧ expected.Affords offer) ∨
      ∃ e, expected.Refuses offers e := by
  rcases foremost_or_unmatched expected offers with ⟨offer, foremost⟩ | unmatched
  · rcases affords_or_refuses foremost with affords | refuses
    · exact .inl ⟨offer, foremost, affords⟩
    · exact .inr refuses
  · right
    cases offers with
    | nil => exact ⟨_, .unoffered⟩
    | cons first rest =>
      obtain ⟨field, wanted, found, differs⟩ := exists_differs (unmatched first List.mem_cons_self)
      exact ⟨_, .mismatched unmatched differs⟩

theorem select_eq_of_affords (foremost : expected.Foremost offers offer)
    (affords : expected.Affords offer) : expected.select offers = .ok offer := by
  rw [select_of_foremost foremost, affords.checkCap_eq]

theorem select_eq_ok_iff :
    expected.select offers = .ok offer ↔ expected.Foremost offers offer ∧ expected.Affords offer := by
  constructor
  · intro h
    rcases chosen_or_refused expected offers with ⟨other, foremost, affords⟩ | ⟨e, refuses⟩
    · cases h.symm.trans (select_eq_of_affords foremost affords)
      exact ⟨foremost, affords⟩
    · cases h.symm.trans refuses.select_eq
  · rintro ⟨foremost, affords⟩
    exact select_eq_of_affords foremost affords

theorem select_eq_error_iff : expected.select offers = .error e ↔ expected.Refuses offers e := by
  constructor
  · intro h
    rcases chosen_or_refused expected offers with ⟨offer, foremost, affords⟩ | ⟨other, refuses⟩
    · cases h.symm.trans (select_eq_of_affords foremost affords)
    · cases h.symm.trans refuses.select_eq
      exact refuses
  · exact Refuses.select_eq

theorem select_execution_iff :
    (∃ reason, expected.select offers = .error (.execution reason)) ↔ offers = [] := by
  simp only [select_eq_error_iff]
  constructor
  · rintro ⟨reason, h⟩
    cases h
    rfl
  · rintro rfl
    exact ⟨_, .unoffered⟩

/-- Amounts are compared as the numbers that they write. -/
theorem affords_toString {cap required : Nat} :
    { expected with maxAmount := some cap }.Affords
        { offer with maxAmountRequired := toString required } ↔
      required < 2 ^ 128 ∧ required ≤ cap := by
  simp only [Affords, Option.some.injEq, forall_eq', Text.writes_toString]
  constructor
  · rintro ⟨_, ⟨rfl, fits⟩, within⟩
    exact ⟨fits, within⟩
  · rintro ⟨fits, within⟩
    exact ⟨_, ⟨rfl, fits⟩, within⟩

/-- What is selected is the first offer that matches, if it is within the cap. All that can be
wrong with the offers has a failure of its own, and only where there are none is it not a
mismatch. A cap is exact for every amount. -/
theorem select_exact (expected : Expected) (offers : List Offer) :
    (∀ offer, expected.select offers = .ok offer ↔
      expected.Foremost offers offer ∧ expected.Affords offer) ∧
    (∀ e, expected.select offers = .error e ↔ expected.Refuses offers e) ∧
    ((∃ reason, expected.select offers = .error (.execution reason)) ↔ offers = []) ∧
    ∀ (offer : Offer) (cap required : Nat),
      { expected with maxAmount := some cap }.Affords
          { offer with maxAmountRequired := toString required } ↔
        required < 2 ^ 128 ∧ required ≤ cap := by
  refine ⟨?_, ?_, select_execution_iff, ?_⟩
  · intro offer
    exact select_eq_ok_iff
  · intro e
    exact select_eq_error_iff
  · intro offer cap required
    exact affords_toString

end Payment.Expected

end Conveyor
