import Chip8.Proofs.Encoding
import Chip8.Proofs.Listing.Columns
import Mathlib.Algebra.Group.Nat.Even
import Mathlib.Data.List.Forall2

/-!
# Reading assembly text

The assembly text of a decoded instruction reads back as the instruction, so that the text of a
word loses of it what decoding loses and nothing else.  Text is read as it is written, in layers:
operands, the fields that they stand in, and the operation that the name and the operands are of.
-/

namespace Chip8

/-! ### Operands -/

namespace Operand

/-- The constant of so many digits. -/
def constant? (digits : List Char) : Option Operand :=
  match digits.length with
  | 2 => (Hex.number? digits).map fun value => .byte (.ofNat value)
  | 3 => (Hex.number? digits).map fun value => .address (.ofNat value)
  | 4 => (Hex.number? digits).map fun value => .word (.ofNat value)
  | _ => none

/-- The operand that a text denotes. -/
def read? : List Char → Option Operand
  | ['I'] => some .index
  | ['[', 'I', ']'] => some .indirect
  | ['D', 'T'] => some .delay
  | ['S', 'T'] => some .sound
  | ['K'] => some .key
  | ['F'] => some .glyph
  | ['B'] => some .decimal
  | ['V', digit] => (Hex.value? digit).map fun number => .register (.ofNat 16 number)
  | '0' :: 'x' :: digits => constant? digits
  | ['1', digit] => (Hex.value? digit).map fun value => .count (.ofNat 16 (10 + value))
  | [digit] => (Hex.value? digit).map fun value => .count (.ofNat 16 value)
  | _ => none

/-- An address is written with three digits. -/
def Narrow : Operand → Prop
  | .address value => value.toNat < 0x1000
  | _ => True

theorem read?_register (digit : Char) :
    read? ['V', digit] = (Hex.value? digit).map fun number => .register (.ofNat 16 number) := rfl

theorem read?_constant (digits : List Char) : read? ('0' :: 'x' :: digits) = constant? digits := rfl

theorem read?_chars {operand : Operand} (narrow : operand.Narrow) :
    read? operand.chars = some operand := by
  cases operand with
  | register number =>
      rw [chars, Hex.digits_one number.isLt, read?_register, Hex.value?_digit number.isLt,
        Option.map_some, Fin.ofNat_eq_cast, Fin.cast_val_eq_self]
  | byte value =>
      have length : (Hex.digits 2 value.toNat).length = 2 := Hex.length_digits value.toNat_lt
      simp only [chars, read?_constant, constant?, length, Hex.number?_digits, Option.map_some,
        UInt8.ofNat_toNat]
  | address value =>
      have length : (Hex.digits 3 value.toNat).length = 3 := Hex.length_digits narrow
      simp only [chars, read?_constant, constant?, length, Hex.number?_digits, Option.map_some,
        UInt16.ofNat_toNat]
  | word value =>
      have length : (Hex.digits 4 value.toNat).length = 4 := Hex.length_digits value.toNat_lt
      simp only [chars, read?_constant, constant?, length, Hex.number?_digits, Option.map_some,
        UInt16.ofNat_toNat]
  | count value =>
      have every : ∀ value : Fin 16, read? (count value).chars = some (count value) := by decide
      exact every value
  | _ => rfl

end Operand

/-! ### Fields -/

namespace Mnemonic

/-- The name and the operands as they stand in a text. -/
def fields (text : List Char) : List (List Char) := (text.filter (· != ',')).splitOn ' '

/-- The name and the operands that a text denotes. -/
def read? (text : List Char) : Option Mnemonic :=
  match fields text with
  | [] => none
  | name :: operands => (operands.mapM Operand.read?).map (⟨String.ofList name, ·⟩)

/-- The name can be told from the operands, and the operands can be read. -/
structure Readable (mnemonic : Mnemonic) : Prop where
  blank : ' ' ∉ mnemonic.name.toList
  comma : ',' ∉ mnemonic.name.toList
  narrow : ∀ operand ∈ mnemonic.operands, operand.Narrow

theorem fields_operandChars {operands : List Operand} (some_operand : operands ≠ []) :
    fields (operandChars operands) = operands.map Operand.chars := by
  have blank (operand : Operand) : ' ' ∉ operand.chars := operand.not_mem_chars (by decide)
  have kept (operand : Operand) : operand.chars.filter (· != ',') = operand.chars :=
    List.filter_bne_eq_self_of_not_mem (operand.not_mem_chars (by decide))
  fun_induction operandChars operands with
  | case1 => exact absurd rfl some_operand
  | case2 operand =>
      rw [fields, kept, List.splitOn_eq_singleton (blank operand)]
      rfl
  | case3 operand rest more induction =>
      rw [fields, List.filter_append, kept, List.filter_cons_of_neg (by simp),
        List.filter_cons_of_pos (by decide),
        List.splitOn_append_cons_self_of_not_mem (blank operand)]
      exact congrArg _ (induction (by simpa using more))

variable {mnemonic : Mnemonic}

theorem fields_chars (readable : mnemonic.Readable) :
    fields mnemonic.chars = mnemonic.name.toList :: mnemonic.operands.map Operand.chars := by
  have kept : mnemonic.name.toList.filter (· != ',') = mnemonic.name.toList :=
    List.filter_bne_eq_self_of_not_mem readable.comma
  rw [chars]
  split
  · rename_i none
    rw [fields, kept, List.splitOn_eq_singleton readable.blank, none]
    rfl
  · rename_i some_operand
    rw [fields, List.filter_append, kept, List.filter_cons_of_pos (by decide),
      List.splitOn_append_cons_self_of_not_mem readable.blank]
    exact congrArg _ (fields_operandChars some_operand)

theorem mapM_read?_chars {operands : List Operand}
    (narrow : ∀ operand ∈ operands, operand.Narrow) :
    (operands.map Operand.chars).mapM Operand.read? = some operands := by
  induction operands with
  | nil => rfl
  | cons operand operands induction =>
      rw [List.map_cons, List.mapM_cons, Operand.read?_chars (narrow _ List.mem_cons_self),
        induction fun later member => narrow later (List.mem_cons_of_mem _ member)]
      rfl

theorem read?_chars (readable : mnemonic.Readable) : read? mnemonic.chars = some mnemonic := by
  rw [read?, fields_chars readable]
  simp only [mapM_read?_chars readable.narrow, String.ofList_toList, Option.map_some]

end Mnemonic

/-! ### Operations -/

namespace Instruction

/-- The instruction of an operation name and operands. -/
def ofMnemonic? (mnemonic : Mnemonic) : Option Instruction :=
  match mnemonic.name, mnemonic.operands with
  | "SYS", [.address address] => some (.system address)
  | "CLS", [] => some .clear
  | "RET", [] => some .ret
  | "JP", [.address address] => some (.jump address)
  | "JP", [.register _, .address address] => some (.jumpOffset address)
  | "CALL", [.address address] => some (.call address)
  | "SE", [.register x, .byte byte] => some (.skipIfByte x byte)
  | "SE", [.register x, .register y] => some (.skipIfEqual x y)
  | "SNE", [.register x, .byte byte] => some (.skipUnlessByte x byte)
  | "SNE", [.register x, .register y] => some (.skipUnlessEqual x y)
  | "LD", [.register x, .byte byte] => some (.setByte x byte)
  | "LD", [.register x, .register y] => some (.copy x y)
  | "LD", [.index, .address address] => some (.setIndex address)
  | "LD", [.register x, .delay] => some (.readDelay x)
  | "LD", [.register x, .key] => some (.awaitKey x)
  | "LD", [.delay, .register x] => some (.setDelay x)
  | "LD", [.sound, .register x] => some (.setSound x)
  | "LD", [.glyph, .register x] => some (.pointGlyph x)
  | "LD", [.decimal, .register x] => some (.storeDecimal x)
  | "LD", [.indirect, .register x] => some (.storeRegisters x)
  | "LD", [.register x, .indirect] => some (.loadRegisters x)
  | "ADD", [.register x, .byte byte] => some (.addByte x byte)
  | "ADD", [.register x, .register y] => some (.add x y)
  | "ADD", [.index, .register x] => some (.addIndex x)
  | "OR", [.register x, .register y] => some (.or x y)
  | "AND", [.register x, .register y] => some (.and x y)
  | "XOR", [.register x, .register y] => some (.xor x y)
  | "SUB", [.register x, .register y] => some (.subtract x y)
  | "SUBN", [.register x, .register y] => some (.subtractFrom x y)
  | "SHR", [.register x] => some (.shiftRight x)
  | "SHL", [.register x] => some (.shiftLeft x)
  | "RND", [.register x, .byte mask] => some (.random x mask)
  | "DRW", [.register x, .register y, .count rows] => some (.draw x y rows)
  | "SKP", [.register x] => some (.skipIfPressed x)
  | "SKNP", [.register x] => some (.skipUnlessPressed x)
  | "UNKNOWN", [.word word] => some (.unknown word)
  | _, _ => none

theorem ofMnemonic?_mnemonic (instruction : Instruction) :
    ofMnemonic? instruction.mnemonic = some instruction := by
  cases instruction <;> rfl

/-- The instruction that a text denotes. -/
def read? (text : List Char) : Option Instruction := (Mnemonic.read? text).bind ofMnemonic?

theorem plain_name (instruction : Instruction) :
    ' ' ∉ instruction.mnemonic.name.toList ∧ ',' ∉ instruction.mnemonic.name.toList := by
  cases instruction <;> simp [mnemonic]

end Instruction

namespace Opcode

theorem readable_decode (op : Opcode) : op.decode.mnemonic.Readable where
  blank := op.decode.plain_name.1
  comma := op.decode.plain_name.2
  narrow := by
    have denotes := op.denotes_decode
    have nnn_lt : op.nnn.toNat < 0x1000 := by
      rw [toNat_nnn]
      exact Nat.mod_lt _ (by decide)
    cases decoded : op.decode
    case system address =>
      rw [decoded] at denotes
      obtain ⟨-, -, -, rfl⟩ := denotes
      simpa [Instruction.mnemonic, Operand.Narrow] using nnn_lt
    case jump address | call address | setIndex address | jumpOffset address =>
      rw [decoded] at denotes
      obtain ⟨-, rfl⟩ := denotes
      simpa [Instruction.mnemonic, Operand.Narrow] using nnn_lt
    all_goals simp [Instruction.mnemonic, Operand.Narrow]

/-- The text of a decoded instruction reads back. -/
theorem read?_text_decode (op : Opcode) :
    Instruction.read? op.decode.text.toList = some op.decode := by
  rw [Instruction.read?, Instruction.text, String.toList_ofList,
    Mnemonic.read?_chars op.readable_decode]
  exact op.decode.ofMnemonic?_mnemonic

theorem decode_eq_of_text_eq {one other : Opcode} (same : one.decode.text = other.decode.text) :
    one.decode = other.decode := by
  have read := one.read?_text_decode
  rw [same, other.read?_text_decode] at read
  exact (Option.some.inj read).symm

end Opcode

/-! ### Text columns -/

namespace Listing

/-- The words of a program. -/
def words : List UInt8 → List Opcode
  | high :: low :: rest => .ofBytes high low :: words rest
  | _ => []

/-- The assembly text of a program, line by line, as its listing shows it. -/
def textColumns (program : List UInt8) : List (List Char) :=
  (endedLines (({ program } : Disassembler).pass {}).sink.written).map textColumn

theorem map_textColumn_lines (address : Nat) {program : List UInt8} (even : Even program.length) :
    (lines address program).map textColumn =
      (words program).map fun op => op.decode.text.toList := by
  fun_induction lines address program with
  | case1 address high low rest induction =>
      have even_rest : Even rest.length := by simpa [Nat.even_add_one] using even
      rw [List.map_cons, (columned_instructionLine _ _).textColumn, induction even_rest]
      rfl
  | case2 => exact absurd even Nat.not_even_one
  | case3 => rfl

theorem textColumns_eq {program : List UInt8} (even : Even program.length) :
    textColumns program = (words program).map fun op => op.decode.text.toList := by
  rw [textColumns, Disassembler.written_pass, endedLines_render, map_textColumn_lines _ even]

/-- Assembly text loses of the words only the fields that their instructions do not look at. -/
theorem mnemonics_lose_only_ignored_fields :
    (∀ program : List UInt8, Even program.length →
        textColumns program = (words program).map fun op => op.decode.text.toList) ∧
      (∀ one other : List UInt8, Even one.length → Even other.length →
        (textColumns one = textColumns other ↔
          List.Forall₂ Opcode.Alike (words one) (words other))) ∧
      (∀ one other : Opcode, one.decode = other.decode ↔ one.Alike other) ∧
      ∀ one other : Opcode, one.decode.text = other.decode.text → one.decode = other.decode := by
  have text_eq_iff (one other : Opcode) :
      one.decode.text.toList = other.decode.text.toList ↔ one.Alike other := by
    rw [String.toList_inj, ← Opcode.decode_eq_decode_iff]
    exact ⟨Opcode.decode_eq_of_text_eq, congrArg Instruction.text⟩
  refine ⟨fun _ => textColumns_eq, fun one other even even_other => ?_,
    fun _ _ => Opcode.decode_eq_decode_iff, fun _ _ => Opcode.decode_eq_of_text_eq⟩
  rw [textColumns_eq even, textColumns_eq even_other, ← List.forall₂_eq_eq_eq,
    List.forall₂_map_left_iff, List.forall₂_map_right_iff]
  simp only [text_eq_iff]

/-- A comparison shows nothing of the last field of its word and a shift nothing of the third. -/
theorem mnemonics_lose_only_ignored_fields_shift :
    let one : List UInt8 := [0x51, 0x20, 0x8A, 0xB6]
    let alike : List UInt8 := [0x51, 0x2F, 0x8A, 0xC6]
    let other : List UInt8 := [0x51, 0x20, 0x8A, 0xB7]
    Even one.length ∧ Even alike.length ∧ Even other.length ∧
      textColumns one = textColumns alike ∧ textColumns one ≠ textColumns other := by
  intro one alike other
  have even : Even 4 := ⟨2, rfl⟩
  have same_iff := mnemonics_lose_only_ignored_fields.2.1 one
  refine ⟨even, even, even, (same_iff alike even even).mpr ?_, fun same => ?_⟩
  · exact .cons (by decide) (.cons (by decide) .nil)
  · rcases (same_iff other even even).mp same with _ | ⟨-, _ | ⟨shift, -⟩⟩
    exact absurd shift (by decide)

end Listing
end Chip8
