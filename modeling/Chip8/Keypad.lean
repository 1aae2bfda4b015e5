import Chip8.Key

/-!
# The keypad

The state of the sixteen keys as a bit mask: bit `k` is set while key `k` is down.  Numbers that
belong to no key are never down, and setting them has no effect.
-/

namespace Chip8

/-- Which keys are down. -/
structure Keypad where
  /-- Bit `k` is set while key `k` is down. -/
  bits : UInt16
deriving DecidableEq, Repr, Inhabited

namespace Keypad

/-- All keys up. -/
def empty : Keypad := ⟨0⟩

/-- The mask of a single key. -/
def mask (number : UInt8) : UInt16 := 1 <<< number.toUInt16

/-- Press or release a key by its number. -/
def set (keypad : Keypad) (number : UInt8) (pressed : Bool) : Keypad :=
  if number < 16 then
    if pressed then ⟨keypad.bits ||| mask number⟩ else ⟨keypad.bits &&& ~~~mask number⟩
  else keypad

/-- Whether the key of this number is down. -/
def isDown (keypad : Keypad) (number : UInt8) : Bool :=
  number < 16 && keypad.bits &&& mask number != 0

/-- Whether any key is down. -/
def anyDown (keypad : Keypad) : Bool := keypad.bits != 0

/-- The key of lowest number that is down. -/
def lowest? (keypad : Keypad) : Option Key :=
  (List.finRange 16).find? fun key => keypad.bits.toNat.testBit key.val

/-! ### Which keys are down -/

theorem toNat_mask {number : UInt8} (small : number < 16) :
    (mask number).toNat = 1 <<< number.toNat := by
  have every : ∀ k : Fin 16, (mask (UInt8.ofNat k.val)).toNat = 1 <<< k.val := by
    decide
  have bound : number.toNat < 16 := UInt8.lt_iff_toNat_lt.mp small
  simpa using every ⟨number.toNat, bound⟩

theorem testBit_not_mask {number : UInt8} (small : number < 16) {i : Nat} (i_lt : i < 16) :
    (~~~mask number).toNat.testBit i = !decide (number.toNat = i) := by
  have every : ∀ k i : Fin 16,
      (~~~mask (UInt8.ofNat k.val)).toNat.testBit i.val = !decide (k.val = i.val) := by decide
  have bound : number.toNat < 16 := UInt8.lt_iff_toNat_lt.mp small
  simpa using every ⟨number.toNat, bound⟩ ⟨i, i_lt⟩

theorem isDown_eq_testBit (keypad : Keypad) {number : UInt8} (small : number < 16) :
    keypad.isDown number = keypad.bits.toNat.testBit number.toNat := by
  have bit (i : Nat) : (keypad.bits &&& mask number).toNat.testBit i =
      (keypad.bits.toNat.testBit i && decide (number.toNat = i)) := by
    rw [UInt16.toNat_and, toNat_mask small, Nat.one_shiftLeft, Nat.testBit_and,
      Nat.testBit_two_pow]
  cases pressed : keypad.bits.toNat.testBit number.toNat with
  | true =>
      have nonzero : keypad.bits &&& mask number ≠ 0 := by
        intro zero
        have contradiction := bit number.toNat
        simp [zero, pressed] at contradiction
      simp [isDown, small, nonzero]
  | false =>
      have zero : keypad.bits &&& mask number = 0 := by
        apply UInt16.toNat_inj.mp
        apply Nat.eq_of_testBit_eq
        intro i
        rw [bit]
        by_cases same : number.toNat = i
        · simp [← same, pressed]
        · simp [same]
      simp [isDown, zero]

theorem isDown_of_le (keypad : Keypad) {number : UInt8} (large : 16 ≤ number) :
    keypad.isDown number = false := by
  have beyond : ¬ number < 16 := UInt8.not_lt.mpr large
  simp [isDown, beyond]

/-- Setting a key changes that key only, and setting a number that belongs to no key nothing. -/
theorem isDown_set (keypad : Keypad) (number other : UInt8) (pressed : Bool) :
    (keypad.set number pressed).isDown other =
      if other = number ∧ number < 16 then pressed else keypad.isDown other := by
  by_cases number_small : number < 16
  · by_cases other_small : other < 16
    · rw [isDown_eq_testBit _ other_small, isDown_eq_testBit _ other_small]
      have limit : other.toNat < 16 := UInt8.lt_iff_toNat_lt.mp other_small
      have same_iff : number.toNat = other.toNat ↔ other = number := by
        rw [eq_comm, UInt8.toNat_inj]
      cases pressed with
      | true =>
          simp only [set, number_small, if_true, UInt16.toNat_or, toNat_mask, Nat.one_shiftLeft,
            Nat.testBit_or, Nat.testBit_two_pow, same_iff]
          by_cases same : other = number <;> simp [same]
      | false =>
          simp only [set, number_small, if_true, Bool.false_eq_true, if_false, UInt16.toNat_and,
            Nat.testBit_and, testBit_not_mask number_small limit, same_iff]
          by_cases same : other = number <;> simp [same]
    · have large : 16 ≤ other := UInt8.not_lt.mp other_small
      have apart : ¬ (other = number ∧ number < 16) := by
        rintro ⟨rfl, small⟩
        exact other_small small
      rw [isDown_of_le _ large, isDown_of_le _ large, if_neg apart]
  · simp [set, number_small]

theorem isDown_empty (number : UInt8) : empty.isDown number = false := by
  simp [isDown, empty]

theorem isDown_toByte (keypad : Keypad) (key : Key) :
    keypad.isDown key.toByte = keypad.bits.toNat.testBit key.val := by
  have small : key.toByte < 16 := by
    rw [UInt8.lt_iff_toNat_lt, Key.toNat_toByte]
    exact key.isLt
  rw [isDown_eq_testBit keypad small, Key.toNat_toByte]

theorem lt_of_testBit {keypad : Keypad} {index : Nat}
    (bit : keypad.bits.toNat.testBit index = true) : index < 16 := by
  have le := Nat.ge_two_pow_of_testBit bit
  have lt := keypad.bits.toNat_lt
  exact (Nat.pow_lt_pow_iff_right (by decide : 1 < 2)).mp (Nat.lt_of_le_of_lt le lt)

/-! ### The lowest key -/

/-- The lowest key is the one that is down with no lower key down. -/
theorem lowest?_eq_some_iff (keypad : Keypad) (key : Key) :
    keypad.lowest? = some key ↔
      keypad.isDown key.toByte = true ∧ ∀ other < key, keypad.isDown other.toByte = false := by
  simp only [lowest?, List.find?_eq_some_iff_getElem, isDown_toByte, Bool.not_eq_true',
    List.getElem_finRange]
  refine and_congr_right fun _ => ⟨?_, fun lower => ?_⟩
  · rintro ⟨index, inRange, rfl, lower⟩ other below
    exact lower other.val below
  · refine ⟨key.val, by simp, rfl, fun index below => ?_⟩
    exact lower ⟨index, _⟩ below

theorem exists_lowest?_eq_some {keypad : Keypad} (pressed : keypad ≠ .empty) :
    ∃ key, keypad.lowest? = some key := by
  have nonzero : keypad.bits.toNat ≠ 0 := by
    intro zero
    have blank : keypad.bits = 0 := UInt16.toNat_inj.mp zero
    exact pressed (congrArg Keypad.mk blank)
  obtain ⟨index, bit⟩ := Nat.exists_testBit_of_ne_zero nonzero
  rw [← Option.isSome_iff_exists, lowest?, List.find?_isSome]
  exact ⟨⟨index, lt_of_testBit bit⟩, List.mem_finRange _, bit⟩

end Keypad
end Chip8
