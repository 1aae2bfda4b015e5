/-!
# Hexadecimal text

Numbers written in base sixteen with upper-case digits and a least number of digits, the form in
which addresses, instruction words and operands are shown.
-/

namespace Chip8
namespace Hex

/-- The sixteen upper-case digits in order of value. -/
def alphabet : List Char :=
  ['0', '1', '2', '3', '4', '5', '6', '7', '8', '9', 'A', 'B', 'C', 'D', 'E', 'F']

/-- The digit of a value below sixteen. -/
def digit (value : Nat) : Char := alphabet.getD value '0'

/-- The digits of a number, most significant first: at least `width` of them, and as many more as
the number needs. -/
def digits : (width value : Nat) → List Char
  | 0, 0 => []
  | 0, value + 1 => digits 0 ((value + 1) / 16) ++ [digit ((value + 1) % 16)]
  | width + 1, value => digits width (value / 16) ++ [digit (value % 16)]
termination_by width value => width + value
decreasing_by
  · have := Nat.div_lt_self (Nat.succ_pos value) (by decide : 1 < 16)
    omega
  · have := Nat.div_le_self value 16
    omega

/-- A number as hexadecimal text of at least `width` digits. -/
def text (width value : Nat) : String := String.ofList (digits width value)

/-- The value of a digit of either case. -/
def value? (c : Char) : Option Nat :=
  if '0' ≤ c ∧ c ≤ '9' then some (c.toNat - '0'.toNat)
  else if 'a' ≤ c ∧ c ≤ 'f' then some (c.toNat - 'a'.toNat + 10)
  else if 'A' ≤ c ∧ c ≤ 'F' then some (c.toNat - 'A'.toNat + 10)
  else none

theorem value?_digit {value : Nat} (small : value < 16) : value? (digit value) = some value := by
  have every : ∀ v : Fin 16, value? (digit v.val) = some v.val := by decide
  exact every ⟨value, small⟩

/-- The number of digits written is `width` when the value needs no more. -/
theorem length_digits {width value : Nat} (fits : value < Nat.pow 16 width) :
    (digits width value).length = width := by
  induction width generalizing value with
  | zero =>
      have value_zero : value = 0 := by simpa using fits
      subst value_zero
      simp [digits]
  | succ width ih =>
      have quotient_fits : value / 16 < Nat.pow 16 width := by
        rw [Nat.div_lt_iff_lt_mul (by decide)]
        exact fits
      simp [digits, ih quotient_fits]

end Hex
end Chip8
