import Mathlib
import MachineActuator.Text.Base64

/-! # Base64 read back

Every value below 64 has a digit that stands for it (`value?_digit`), and no digit is the padding.
So a group of four digits gives back the three bytes that it was made of, a group with padding the
one or two bytes that were left, and bytes that are written read back (`decode?_encode`). -/

namespace MachineActuator.Base64

/-! ### Digits -/

theorem value?_digit {n : ℕ} (h : n < 64) : value? (digit n) = some n :=
  (by decide +kernel : ∀ n < 64, value? (digit n) = some n) n h

theorem digit_ne_padding {n : ℕ} (h : n < 64) : digit n ≠ '=' :=
  (by decide +kernel : ∀ n < 64, digit n ≠ '=') n h

/-! ### Groups -/

variable {w x y z : ℕ} {rest : List Char}

theorem decodeDigits?_four (hw : w < 64) (hx : x < 64) (hy : y < 64) (hz : z < 64) :
    decodeDigits? (digit w :: digit x :: digit y :: digit z :: rest) =
      (decodeDigits? rest).map fun bytes =>
        UInt8.ofNat ((((w * 64 + x) * 64 + y) * 64 + z) / 65536) ::
          UInt8.ofNat ((((w * 64 + x) * 64 + y) * 64 + z) / 256 % 256) ::
          UInt8.ofNat ((((w * 64 + x) * 64 + y) * 64 + z) % 256) :: bytes := by
  have hpadding : digit z ≠ '=' := digit_ne_padding hz
  rw [decodeDigits?.eq_4 _ _ _ _ _ (fun _ h _ => hpadding h) fun h _ => hpadding h]
  rw [value?_digit hw, value?_digit hx, value?_digit hy, value?_digit hz]
  cases decodeDigits? rest with
  | none => rfl
  | some bytes => rfl

/-- Three digits with padding stand for two bytes, if the last two bits are not used. -/
theorem decodeDigits?_three (hw : w < 64) (hx : x < 64) (hy : y < 64) (h : y % 4 = 0) :
    decodeDigits? [digit w, digit x, digit y, '='] =
      some [UInt8.ofNat (((w * 64 + x) * 64 + y) / 1024),
        UInt8.ofNat (((w * 64 + x) * 64 + y) / 4 % 256)] := by
  have hpadding : digit y ≠ '=' := digit_ne_padding hy
  rw [decodeDigits?.eq_3 _ _ _ hpadding, value?_digit hw, value?_digit hx, value?_digit hy]
  exact if_pos h

/-- Two digits with padding stand for one byte, if the last four bits are not used. -/
theorem decodeDigits?_two (hw : w < 64) (hx : x < 64) (h : x % 16 = 0) :
    decodeDigits? [digit w, digit x, '=', '='] = some [UInt8.ofNat (w * 4 + x / 16)] := by
  rw [decodeDigits?.eq_2, value?_digit hw, value?_digit hx]
  exact if_pos h

theorem ofNat_eq_of_toNat {n : ℕ} {b : UInt8} (h : n = b.toNat) : UInt8.ofNat n = b := by
  rw [h, UInt8.ofNat_toNat]

theorem decodeDigits?_encodeBytes (bytes : List UInt8) :
    decodeDigits? (encodeBytes bytes) = some bytes := by
  induction bytes using encodeBytes.induct with
  | case1 a b c rest ih =>
    have ha := a.toNat_lt
    have hb := b.toNat_lt
    have hc := c.toNat_lt
    obtain ⟨n, hn⟩ : ∃ n, n = (a.toNat * 256 + b.toNat) * 256 + c.toNat := ⟨_, rfl⟩
    have hsame : ((n / 262144 * 64 + n / 4096 % 64) * 64 + n / 64 % 64) * 64 + n % 64 = n := by
      omega
    rw [encodeBytes, ← hn, decodeDigits?_four (by omega) (by omega) (by omega) (by omega), ih,
      hsame, Option.map_some]
    have h₁ : UInt8.ofNat (n / 65536) = a := ofNat_eq_of_toNat (by omega)
    have h₂ : UInt8.ofNat (n / 256 % 256) = b := ofNat_eq_of_toNat (by omega)
    have h₃ : UInt8.ofNat (n % 256) = c := ofNat_eq_of_toNat (by omega)
    rw [h₁, h₂, h₃]
  | case2 a b =>
    have ha := a.toNat_lt
    have hb := b.toNat_lt
    obtain ⟨n, hn⟩ : ∃ n, n = a.toNat * 256 + b.toNat := ⟨_, rfl⟩
    have hsame : (n / 1024 * 64 + n / 16 % 64) * 64 + n % 16 * 4 = n * 4 := by omega
    rw [encodeBytes, ← hn, decodeDigits?_three (by omega) (by omega) (by omega) (by omega), hsame]
    have h₁ : UInt8.ofNat (n * 4 / 1024) = a := ofNat_eq_of_toNat (by omega)
    have h₂ : UInt8.ofNat (n * 4 / 4 % 256) = b := ofNat_eq_of_toNat (by omega)
    rw [h₁, h₂]
  | case3 a =>
    have ha := a.toNat_lt
    rw [encodeBytes, decodeDigits?_two (by omega) (by omega) (by omega)]
    have h₁ : UInt8.ofNat (a.toNat / 4 * 4 + a.toNat % 4 * 16 / 16) = a :=
      ofNat_eq_of_toNat (by omega)
    rw [h₁]
  | case4 => rfl

/-! ### Bytes -/

theorem toList_loop (bytes : ByteArray) (i : ℕ) (seen : List UInt8) :
    ByteArray.toList.loop bytes i seen = seen.reverse ++ bytes.data.toList.drop i := by
  have hsize : bytes.size = bytes.data.toList.length := rfl
  induction hn : bytes.size - i generalizing i seen with
  | zero =>
    rw [ByteArray.toList.loop, if_neg (by omega), List.drop_eq_nil_of_le (by omega),
      List.append_nil]
  | succ n ih =>
    have hi : i < bytes.data.toList.length := by omega
    have hget : bytes.get! i = bytes.data.toList[i] := getElem!_pos bytes.data i hi
    rw [ByteArray.toList.loop, if_pos (by omega), ih (i + 1) _ (by omega), hget,
      List.reverse_cons, List.append_assoc, List.drop_eq_getElem_cons hi]
    rfl

theorem toArray_toList (bytes : ByteArray) : (⟨bytes.toList.toArray⟩ : ByteArray) = bytes := by
  have hlist : bytes.toList = bytes.data.toList := toList_loop bytes 0 []
  rw [hlist]

theorem decode?_encode (bytes : ByteArray) : decode? (encode bytes) = some bytes := by
  unfold decode? encode
  rw [String.toList_ofList, decodeDigits?_encodeBytes, Option.map_some, toArray_toList]

end MachineActuator.Base64
