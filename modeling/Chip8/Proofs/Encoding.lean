import Chip8.Instruction
import Mathlib.Data.Fin.Basic

/-!
# The words of the instructions

Every instruction has a pattern of words, which fixes some of the four fields and leaves the others
to the operands.  Decoding a word finds the one instruction whose pattern the word matches, and
answers that the word is unknown when there is none.  Two words are decoded to one instruction if
they differ only in fields that its pattern leaves open and that are no operands either.
-/

namespace Chip8
namespace Opcode

/-- The word matches the pattern of some instruction.  Only families `8`, `E` and `F` have words
that match none. -/
def Known (op : Opcode) : Prop :=
  (op.family = 0x8 → op.n ≤ 0x7 ∨ op.n = 0xE) ∧
    (op.family = 0xE → op.kk = 0x9E ∨ op.kk = 0xA1) ∧
    (op.family = 0xF → op.kk ∈ [0x07, 0x0A, 0x15, 0x18, 0x1E, 0x29, 0x33, 0x55, 0x65])

instance (op : Opcode) : Decidable op.Known := inferInstanceAs (Decidable (_ ∧ _ ∧ _))

/-- The word matches the pattern of an instruction and holds its operands. -/
def Denotes (op : Opcode) : Instruction → Prop
  | .system address => op.family = 0x0 ∧ op.word ≠ 0x00E0 ∧ op.word ≠ 0x00EE ∧ op.nnn = address
  | .clear => op.word = 0x00E0
  | .ret => op.word = 0x00EE
  | .jump address => op.family = 0x1 ∧ op.nnn = address
  | .call address => op.family = 0x2 ∧ op.nnn = address
  | .skipIfByte x byte => op.family = 0x3 ∧ op.x = x ∧ op.kk = byte
  | .skipUnlessByte x byte => op.family = 0x4 ∧ op.x = x ∧ op.kk = byte
  | .skipIfEqual x y => op.family = 0x5 ∧ op.x = x ∧ op.y = y
  | .setByte x byte => op.family = 0x6 ∧ op.x = x ∧ op.kk = byte
  | .addByte x byte => op.family = 0x7 ∧ op.x = x ∧ op.kk = byte
  | .copy x y => op.family = 0x8 ∧ op.n = 0x0 ∧ op.x = x ∧ op.y = y
  | .or x y => op.family = 0x8 ∧ op.n = 0x1 ∧ op.x = x ∧ op.y = y
  | .and x y => op.family = 0x8 ∧ op.n = 0x2 ∧ op.x = x ∧ op.y = y
  | .xor x y => op.family = 0x8 ∧ op.n = 0x3 ∧ op.x = x ∧ op.y = y
  | .add x y => op.family = 0x8 ∧ op.n = 0x4 ∧ op.x = x ∧ op.y = y
  | .subtract x y => op.family = 0x8 ∧ op.n = 0x5 ∧ op.x = x ∧ op.y = y
  | .shiftRight x => op.family = 0x8 ∧ op.n = 0x6 ∧ op.x = x
  | .subtractFrom x y => op.family = 0x8 ∧ op.n = 0x7 ∧ op.x = x ∧ op.y = y
  | .shiftLeft x => op.family = 0x8 ∧ op.n = 0xE ∧ op.x = x
  | .skipUnlessEqual x y => op.family = 0x9 ∧ op.x = x ∧ op.y = y
  | .setIndex address => op.family = 0xA ∧ op.nnn = address
  | .jumpOffset address => op.family = 0xB ∧ op.nnn = address
  | .random x mask => op.family = 0xC ∧ op.x = x ∧ op.kk = mask
  | .draw x y rows => op.family = 0xD ∧ op.x = x ∧ op.y = y ∧ op.n = rows
  | .skipIfPressed x => op.family = 0xE ∧ op.kk = 0x9E ∧ op.x = x
  | .skipUnlessPressed x => op.family = 0xE ∧ op.kk = 0xA1 ∧ op.x = x
  | .readDelay x => op.family = 0xF ∧ op.kk = 0x07 ∧ op.x = x
  | .awaitKey x => op.family = 0xF ∧ op.kk = 0x0A ∧ op.x = x
  | .setDelay x => op.family = 0xF ∧ op.kk = 0x15 ∧ op.x = x
  | .setSound x => op.family = 0xF ∧ op.kk = 0x18 ∧ op.x = x
  | .addIndex x => op.family = 0xF ∧ op.kk = 0x1E ∧ op.x = x
  | .pointGlyph x => op.family = 0xF ∧ op.kk = 0x29 ∧ op.x = x
  | .storeDecimal x => op.family = 0xF ∧ op.kk = 0x33 ∧ op.x = x
  | .storeRegisters x => op.family = 0xF ∧ op.kk = 0x55 ∧ op.x = x
  | .loadRegisters x => op.family = 0xF ∧ op.kk = 0x65 ∧ op.x = x
  | .unknown word => ¬op.Known ∧ op.word = word

theorem val_family (op : Opcode) : op.family.val = op.word.toNat / 0x1000 := by
  have word_lt := op.word.toNat_lt
  simp only [family, Fin.val_ofNat]
  omega

/-- The words of a family that are told apart by their low byte and have one operand. -/
theorem family_kk_x_iff (op : Opcode) (family : Fin 16) (x : Register) (kk : UInt8) :
    op.family = family ∧ op.kk = kk ∧ op.x = x ↔
      op.word.toNat = 0x1000 * family.val + kk.toNat + 0x100 * x.val := by
  have word_lt := op.word.toNat_lt
  have family_iff : op.family = family ↔ op.word.toNat / 0x1000 = family.val := by
    rw [← val_family]
    exact Fin.ext_iff
  have kk_iff : op.kk = kk ↔ op.word.toNat % 0x100 = kk.toNat := by
    rw [← toNat_kk]
    exact UInt8.toNat_inj.symm
  have x_iff : op.x = x ↔ op.word.toNat / 0x100 % 0x10 = x.val := Fin.ext_iff
  rw [family_iff, kk_iff, x_iff]
  have family_lt := family.isLt
  have x_lt := x.isLt
  have kk_lt := kk.toNat_lt
  omega

/-! ### What decoding finds -/

variable {op : Opcode}

theorem denotes_decodeSystem (family : op.family = 0x0) : op.Denotes op.decodeSystem := by
  rw [decodeSystem]
  split
  · assumption
  · split
    · assumption
    · exact ⟨family, ‹_›, ‹_›, rfl⟩

theorem denotes_decodeArithmetic (family : op.family = 0x8) :
    op.Denotes op.decodeArithmetic := by
  rw [decodeArithmetic]
  split
  case h_7 selected | h_9 selected => exact ⟨family, Fin.ext selected, rfl⟩
  case h_10 =>
    refine ⟨fun known => ?_, rfl⟩
    have selected : op.n.val ≤ 7 ∨ op.n.val = 14 := (known.1 family).imp id (congrArg Fin.val)
    grind
  all_goals exact ⟨family, Fin.ext ‹_›, rfl, rfl⟩

theorem denotes_decodeKeyboard (family : op.family = 0xE) : op.Denotes op.decodeKeyboard := by
  rw [decodeKeyboard]
  split
  case h_3 =>
    refine ⟨fun known => ?_, rfl⟩
    have selected := known.2.1 family
    simp only [← UInt8.toNat_inj, UInt8.reduceToNat] at selected
    grind
  all_goals exact ⟨family, UInt8.toNat_inj.mp ‹_›, rfl⟩

theorem denotes_decodeTransfer (family : op.family = 0xF) : op.Denotes op.decodeTransfer := by
  rw [decodeTransfer]
  split
  case h_10 =>
    refine ⟨fun known => ?_, rfl⟩
    have selected := known.2.2 family
    simp only [List.mem_cons, List.not_mem_nil, or_false, ← UInt8.toNat_inj,
      UInt8.reduceToNat] at selected
    grind
  all_goals exact ⟨family, UInt8.toNat_inj.mp ‹_›, rfl⟩

theorem denotes_decode (op : Opcode) : op.Denotes op.decode := by
  rw [decode]
  split
  case h_1 selected => exact denotes_decodeSystem (Fin.ext selected)
  case h_9 selected => exact denotes_decodeArithmetic (Fin.ext selected)
  case h_14 selected => exact ⟨Fin.ext selected, rfl, rfl, rfl⟩
  case h_15 selected => exact denotes_decodeKeyboard (Fin.ext selected)
  case h_16 =>
    have last : op.family.val = 15 := by grind
    exact denotes_decodeTransfer (Fin.ext last)
  case h_2 selected | h_3 selected | h_11 selected | h_12 selected => exact ⟨Fin.ext selected, rfl⟩
  all_goals exact ⟨Fin.ext ‹_›, rfl, rfl⟩

theorem family_of_word_lt (small : op.word.toNat < 0x1000) : op.family = 0x0 := by
  apply Fin.ext
  rw [val_family]
  exact Nat.div_eq_of_lt small

/-- Only the words of `unknown` match no pattern. -/
theorem known_of_denotes {instruction : Instruction} (denotes : op.Denotes instruction)
    (known : ∀ word, instruction ≠ .unknown word) : op.Known := by
  cases instruction
  case unknown word => exact absurd rfl (known word)
  case clear | ret =>
    have small : op.word.toNat < 0x1000 := by
      rw [show op.word = _ from denotes]
      decide
    simp [Known, family_of_word_lt small]
  all_goals
    obtain ⟨family, selected⟩ := denotes
    simp [Known, family, selected]

/-- A word decodes to the instruction whose pattern it matches. -/
theorem decode_eq_iff {instruction : Instruction} :
    op.decode = instruction ↔ op.Denotes instruction := by
  constructor
  · rintro rfl
    exact op.denotes_decode
  · intro denotes
    cases instruction
    case clear | ret =>
      obtain ⟨word⟩ := op
      obtain rfl : word = _ := denotes
      rfl
    case unknown word =>
      obtain ⟨gap, rfl⟩ := denotes
      apply Decidable.byContradiction
      intro other
      refine gap (known_of_denotes op.denotes_decode fun word decoded => other ?_)
      have denotes := op.denotes_decode
      rw [decoded] at denotes ⊢
      rw [denotes.2]
    case system address =>
      obtain ⟨family, not_clear, not_ret, rfl⟩ := denotes
      simp [decode, family, decodeSystem, not_clear, not_ret]
    all_goals
      obtain ⟨family, operands⟩ := denotes
      simp [decode, family, decodeArithmetic, decodeKeyboard, decodeTransfer, operands]

theorem Denotes.unique {one other : Instruction} (denotes : op.Denotes one)
    (denotes_other : op.Denotes other) : one = other :=
  (decode_eq_iff.mpr denotes).symm.trans (decode_eq_iff.mpr denotes_other)

/-! ### Words of one instruction -/

section Alike

variable {one other : Opcode}

theorem eq_of_toNat (same : one.word.toNat = other.word.toNat) : one = other := by
  cases one
  exact congrArg Opcode.mk (UInt16.toNat_inj.mp same)

theorem eq_of_nnn (family : one.family = other.family) (nnn : one.nnn = other.nnn) :
    one = other := by
  have top := congrArg Fin.val family
  have rest := congrArg UInt16.toNat nnn
  rw [val_family, val_family] at top
  rw [toNat_nnn, toNat_nnn] at rest
  apply eq_of_toNat
  omega

theorem eq_of_x_kk (family : one.family = other.family) (x : one.x = other.x)
    (kk : one.kk = other.kk) : one = other := by
  have second : _ % 16 = _ % 16 := congrArg Fin.val x
  have rest := congrArg UInt8.toNat kk
  rw [toNat_kk, toNat_kk] at rest
  apply eq_of_nnn family
  rw [← UInt16.toNat_inj, toNat_nnn, toNat_nnn]
  omega

theorem eq_of_x_y_n (family : one.family = other.family) (x : one.x = other.x)
    (y : one.y = other.y) (n : one.n = other.n) : one = other := by
  have third : _ % 16 = _ % 16 := congrArg Fin.val y
  have last : _ % 16 = _ % 16 := congrArg Fin.val n
  apply eq_of_x_kk family x
  rw [← UInt8.toNat_inj, toNat_kk, toNat_kk]
  omega

/-- The words differ in nothing but fields that their instruction does not look at. -/
def Alike (one other : Opcode) : Prop :=
  one = other ∨
    ((one.family = 0x5 ∨ one.family = 0x9) ∧ one.family = other.family ∧
      one.x = other.x ∧ one.y = other.y) ∨
    (one.family = 0x8 ∧ other.family = 0x8 ∧ (one.n = 0x6 ∨ one.n = 0xE) ∧ one.n = other.n ∧
      one.x = other.x)

instance : Decidable (one.Alike other) := inferInstanceAs (Decidable (_ ∨ _ ∨ _))

theorem Denotes.decode_eq {instruction : Instruction} (denotes : one.Denotes instruction)
    (denotes_other : other.Denotes instruction) : one.decode = other.decode :=
  (decode_eq_iff.mpr denotes).trans (decode_eq_iff.mpr denotes_other).symm

theorem Alike.decode_eq (alike : one.Alike other) : one.decode = other.decode := by
  rcases alike with rfl | ⟨skips, family, x, y⟩ | ⟨family, other_family, shifts, n, x⟩
  · rfl
  · rcases skips with five | nine
    · have denotes : one.Denotes (.skipIfEqual one.x one.y) := ⟨five, rfl, rfl⟩
      exact denotes.decode_eq ⟨family ▸ five, x.symm, y.symm⟩
    · have denotes : one.Denotes (.skipUnlessEqual one.x one.y) := ⟨nine, rfl, rfl⟩
      exact denotes.decode_eq ⟨family ▸ nine, x.symm, y.symm⟩
  · rcases shifts with right | left
    · have denotes : one.Denotes (.shiftRight one.x) := ⟨family, right, rfl⟩
      exact denotes.decode_eq ⟨other_family, n ▸ right, x.symm⟩
    · have denotes : one.Denotes (.shiftLeft one.x) := ⟨family, left, rfl⟩
      exact denotes.decode_eq ⟨other_family, n ▸ left, x.symm⟩

theorem Denotes.alike {instruction : Instruction} (denotes : one.Denotes instruction)
    (denotes_other : other.Denotes instruction) : one.Alike other := by
  cases instruction
  -- Only these four patterns leave fields open that are no operands.
  case skipIfEqual | skipUnlessEqual =>
    obtain ⟨family, rfl, rfl⟩ := denotes
    obtain ⟨other_family, x, y⟩ := denotes_other
    refine .inr (.inl ⟨?_, family.trans other_family.symm, x.symm, y.symm⟩)
    simp [family]
  case shiftRight | shiftLeft =>
    obtain ⟨family, n, rfl⟩ := denotes
    obtain ⟨other_family, other_n, x⟩ := denotes_other
    refine .inr (.inr ⟨family, other_family, ?_, n.trans other_n.symm, x.symm⟩)
    simp [n]
  case clear | ret =>
    exact .inl (eq_of_toNat (congrArg UInt16.toNat (Eq.trans denotes denotes_other.symm)))
  case unknown =>
    exact .inl (eq_of_toNat (congrArg UInt16.toNat (denotes.2.trans denotes_other.2.symm)))
  case system =>
    obtain ⟨family, -, -, rfl⟩ := denotes
    obtain ⟨other_family, -, -, nnn⟩ := denotes_other
    exact .inl (eq_of_nnn (family.trans other_family.symm) nnn.symm)
  case jump | call | setIndex | jumpOffset =>
    obtain ⟨family, rfl⟩ := denotes
    obtain ⟨other_family, nnn⟩ := denotes_other
    exact .inl (eq_of_nnn (family.trans other_family.symm) nnn.symm)
  case skipIfByte | skipUnlessByte | setByte | addByte | random =>
    obtain ⟨family, rfl, rfl⟩ := denotes
    obtain ⟨other_family, x, kk⟩ := denotes_other
    exact .inl (eq_of_x_kk (family.trans other_family.symm) x.symm kk.symm)
  case copy | or | and | xor | add | subtract | subtractFrom =>
    obtain ⟨family, n, rfl, rfl⟩ := denotes
    obtain ⟨other_family, other_n, x, y⟩ := denotes_other
    exact .inl (eq_of_x_y_n (family.trans other_family.symm) x.symm y.symm (n.trans other_n.symm))
  case draw =>
    obtain ⟨family, rfl, rfl, rfl⟩ := denotes
    obtain ⟨other_family, x, y, n⟩ := denotes_other
    exact .inl (eq_of_x_y_n (family.trans other_family.symm) x.symm y.symm n.symm)
  all_goals
    obtain ⟨family, kk, rfl⟩ := denotes
    obtain ⟨other_family, other_kk, x⟩ := denotes_other
    exact .inl (eq_of_x_kk (family.trans other_family.symm) x.symm (kk.trans other_kk.symm))

/-- Decoding identifies the words that are alike and no others. -/
theorem decode_eq_decode_iff : one.decode = other.decode ↔ one.Alike other := by
  constructor
  · intro same
    exact (decode_eq_iff.mp same).alike other.denotes_decode
  · exact Alike.decode_eq

end Alike

end Opcode
end Chip8
