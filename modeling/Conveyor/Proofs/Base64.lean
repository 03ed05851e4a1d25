import Conveyor.Text.Base64

namespace Conveyor.Text.Base64

theorem bits?_symbol : ∀ n < 64, bits? (symbol n) = some n := by
  decide

theorem symbol_ne_pad : ∀ n < 64, symbol n ≠ '=' := by
  decide

theorem ofNat_eq {n : Nat} {b : UInt8} (h : n = b.toNat) : UInt8.ofNat n = b := by
  rw [h, UInt8.ofNat_toNat]

variable {x y z w : Nat}

/-- A group without padding is read as three bytes, whatever follows it. -/
theorem decode?_group (hx : x < 64) (hy : y < 64) (hz : z < 64) (hw : w < 64) (rest : List Char) :
    decode? (symbol x :: symbol y :: symbol z :: symbol w :: rest) =
      (decode? rest).bind fun bytes =>
        some (UInt8.ofNat (x * 4 + y / 16) :: UInt8.ofNat (y % 16 * 16 + z / 4)
          :: UInt8.ofNat (z % 4 * 64 + w) :: bytes) := by
  have hpad := symbol_ne_pad w hw
  rw [decode?, bits?_symbol x hx, bits?_symbol y hy, bits?_symbol z hz, bits?_symbol w hw]
  · rfl
  · exact fun _ hw _ => hpad hw
  · exact fun hw _ => hpad hw

theorem decode?_pad_two (hx : x < 64) (hy : y < 64) (even : y % 16 = 0) :
    decode? [symbol x, symbol y, '=', '='] = some [UInt8.ofNat (x * 4 + y / 16)] := by
  rw [decode?, bits?_symbol x hx, bits?_symbol y hy]
  exact if_pos even

theorem decode?_pad_one (hx : x < 64) (hy : y < 64) (hz : z < 64) (even : z % 4 = 0) :
    decode? [symbol x, symbol y, symbol z, '='] =
      some [UInt8.ofNat (x * 4 + y / 16), UInt8.ofNat (y % 16 * 16 + z / 4)] := by
  rw [decode?, bits?_symbol x hx, bits?_symbol y hy, bits?_symbol z hz]
  · exact if_pos even
  · exact symbol_ne_pad z hz

/-- Bytes survive their base64 form, however the last group is padded. -/
theorem decode?_encode (bytes : List UInt8) : decode? (encode bytes) = some bytes := by
  induction bytes using encode.induct with
  | case1 => rfl
  | case2 a =>
    have ha := a.toNat_lt
    rw [encode, decode?_pad_two (by omega) (by omega) (by omega)]
    rw [ofNat_eq (b := a) (by omega)]
  | case3 a b =>
    have ha := a.toNat_lt
    have hb := b.toNat_lt
    rw [encode, decode?_pad_one (by omega) (by omega) (by omega) (by omega)]
    rw [ofNat_eq (b := a) (by omega), ofNat_eq (b := b) (by omega)]
  | case4 a b c rest ih =>
    have ha := a.toNat_lt
    have hb := b.toNat_lt
    have hc := c.toNat_lt
    rw [encode, decode?_group (by omega) (by omega) (by omega) (by omega), ih]
    rw [Option.bind_some, ofNat_eq (b := a) (by omega), ofNat_eq (b := b) (by omega),
      ofNat_eq (b := c) (by omega)]

end Conveyor.Text.Base64
