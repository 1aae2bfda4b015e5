import Chip8.Hex

/-!
# Reading hexadecimal text

Written digits read back as the number, however many of them there are, and pairs of digits as
bytes.  Written text has no other characters than the upper-case digits.
-/

namespace Chip8
namespace Hex

/-- The number that digits denote, the most significant one first. -/
def number? (text : List Char) : Option Nat :=
  text.foldlM (fun value c => (value? c).map (16 * value + ·)) 0

/-- The bytes that pairs of digits denote. -/
def bytes? : List Char → Option (List UInt8)
  | [] => some []
  | [_] => none
  | high :: low :: rest =>
      match value? high, value? low, bytes? rest with
      | some high, some low, some bytes => some (.ofNat (16 * high + low) :: bytes)
      | _, _, _ => none

theorem digit_mem_alphabet (value : Nat) : digit value ∈ alphabet := by
  rw [digit, List.getD_eq_getElem?_getD]
  cases found : alphabet[value]? with
  | none => decide
  | some c => exact List.mem_of_getElem? found

theorem mem_alphabet_of_mem_digits {width value : Nat} {c : Char}
    (member : c ∈ digits width value) : c ∈ alphabet := by
  fun_induction digits width value with
  | case1 => exact absurd member List.not_mem_nil
  | case2 value induction | case3 width value induction =>
      rcases List.mem_append.mp member with earlier | last
      · exact induction earlier
      · rw [List.eq_of_mem_singleton last]
        exact digit_mem_alphabet _

theorem not_mem_digits {c : Char} (other : c ∉ alphabet) (width value : Nat) :
    c ∉ digits width value :=
  fun member => other (mem_alphabet_of_mem_digits member)

theorem number?_concat {text : List Char} {value : Nat} (read : number? text = some (value / 16)) :
    number? (text ++ [digit (value % 16)]) = some value := by
  have digit_read := value?_digit (Nat.mod_lt value (by decide : 0 < 16))
  rw [number?] at read ⊢
  simp only [List.foldlM_append, read, List.foldlM_cons, List.foldlM_nil, digit_read,
    Option.map_some, bind_pure, Option.bind_eq_bind, Option.bind_some, Nat.div_add_mod]

theorem number?_digits (width value : Nat) : number? (digits width value) = some value := by
  fun_induction digits width value with
  | case1 => rfl
  | case2 value induction | case3 width value induction => exact number?_concat induction

theorem le_length_digits (width value : Nat) : width ≤ (digits width value).length := by
  fun_induction digits width value with
  | case1 | case2 => exact Nat.zero_le _
  | case3 width value induction =>
      rw [List.length_append]
      exact Nat.succ_le_succ induction

theorem digits_one {value : Nat} (small : value < 16) : digits 1 value = [digit value] := by
  have top : value / 16 = 0 := by omega
  rw [digits, top, Nat.mod_eq_of_lt small]
  simp [digits]

theorem digits_two {value : Nat} (small : value < 256) :
    digits 2 value = [digit (value / 16), digit (value % 16)] := by
  rw [digits, digits_one (by omega)]
  rfl

/-- A word is written as its two bytes are. -/
theorem digits_four {high low : Nat} (low_lt : low < 256) :
    digits 4 (high * 256 + low) = digits 2 high ++ digits 2 low := by
  have upper : (high * 256 + low) / 16 / 16 = high := by omega
  have third : (high * 256 + low) / 16 % 16 = low / 16 := by omega
  have last : (high * 256 + low) % 16 = low % 16 := by omega
  rw [digits, digits, upper, third, last, digits_two low_lt, List.append_assoc]
  rfl

theorem bytes?_digits (bytes : List UInt8) :
    bytes? (bytes.flatMap fun byte => digits 2 byte.toNat) = some bytes := by
  induction bytes with
  | nil => rfl
  | cons byte bytes induction =>
      have byte_lt := byte.toNat_lt
      have high := value?_digit (show byte.toNat / 16 < 16 by omega)
      have low := value?_digit (show byte.toNat % 16 < 16 by omega)
      rw [List.flatMap_cons, digits_two byte_lt]
      simp only [List.cons_append, List.nil_append, bytes?, high, low, induction,
        Nat.div_add_mod, UInt8.ofNat_toNat]

end Hex
end Chip8
