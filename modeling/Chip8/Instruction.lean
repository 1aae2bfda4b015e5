import Chip8.Opcode

/-!
# Instructions

The instruction set, and the decoding of a word.  The first field selects a family; families `0`,
`8`, `E` and `F` are told apart further by their trailing fields.  Decoding is total: a word that
matches no pattern is the instruction `unknown`.
-/

namespace Chip8

/-- A decoded instruction.  Comments give the pattern of its words. -/
inductive Instruction where
  /-- `0nnn`: call a machine code routine of the host, which is ignored. -/
  | system (address : UInt16)
  /-- `00E0`: clear the display. -/
  | clear
  /-- `00EE`: return from a subroutine. -/
  | ret
  /-- `1nnn`: jump. -/
  | jump (address : UInt16)
  /-- `2nnn`: call a subroutine. -/
  | call (address : UInt16)
  /-- `3xkk`: skip if `Vx` is the byte. -/
  | skipIfByte (x : Register) (byte : UInt8)
  /-- `4xkk`: skip unless `Vx` is the byte. -/
  | skipUnlessByte (x : Register) (byte : UInt8)
  /-- `5xy_`: skip if `Vx` equals `Vy`. -/
  | skipIfEqual (x y : Register)
  /-- `6xkk`: set `Vx` to the byte. -/
  | setByte (x : Register) (byte : UInt8)
  /-- `7xkk`: add the byte to `Vx` without a carry. -/
  | addByte (x : Register) (byte : UInt8)
  /-- `8xy0`: copy `Vy` to `Vx`. -/
  | copy (x y : Register)
  /-- `8xy1`: bitwise or. -/
  | or (x y : Register)
  /-- `8xy2`: bitwise and. -/
  | and (x y : Register)
  /-- `8xy3`: bitwise exclusive or. -/
  | xor (x y : Register)
  /-- `8xy4`: add `Vy` to `Vx` with carry. -/
  | add (x y : Register)
  /-- `8xy5`: subtract `Vy` from `Vx` with borrow. -/
  | subtract (x y : Register)
  /-- `8x_6`: shift `Vx` right. -/
  | shiftRight (x : Register)
  /-- `8xy7`: set `Vx` to `Vy` less `Vx` with borrow. -/
  | subtractFrom (x y : Register)
  /-- `8x_E`: shift `Vx` left. -/
  | shiftLeft (x : Register)
  /-- `9xy_`: skip unless `Vx` equals `Vy`. -/
  | skipUnlessEqual (x y : Register)
  /-- `Annn`: set `I`. -/
  | setIndex (address : UInt16)
  /-- `Bnnn`: jump to the address offset by `V0`. -/
  | jumpOffset (address : UInt16)
  /-- `Cxkk`: set `Vx` to a random byte masked by the byte. -/
  | random (x : Register) (mask : UInt8)
  /-- `Dxyn`: draw the sprite of `n` rows at `I` at column `Vx` and row `Vy`. -/
  | draw (x y : Register) (rows : Fin 16)
  /-- `Ex9E`: skip if the key numbered `Vx` is down. -/
  | skipIfPressed (x : Register)
  /-- `ExA1`: skip unless the key numbered `Vx` is down. -/
  | skipUnlessPressed (x : Register)
  /-- `Fx07`: read the delay timer. -/
  | readDelay (x : Register)
  /-- `Fx0A`: wait for a key and store its number. -/
  | awaitKey (x : Register)
  /-- `Fx15`: set the delay timer. -/
  | setDelay (x : Register)
  /-- `Fx18`: set the sound timer. -/
  | setSound (x : Register)
  /-- `Fx1E`: add `Vx` to `I`. -/
  | addIndex (x : Register)
  /-- `Fx29`: point `I` at the glyph of the digit in `Vx`. -/
  | pointGlyph (x : Register)
  /-- `Fx33`: store the three decimal digits of `Vx` at `I`. -/
  | storeDecimal (x : Register)
  /-- `Fx55`: store `V0` to `Vx` at `I`. -/
  | storeRegisters (x : Register)
  /-- `Fx65`: load `V0` to `Vx` from `I`. -/
  | loadRegisters (x : Register)
  /-- A word that matches no pattern. -/
  | unknown (word : UInt16)
deriving DecidableEq, Repr, Inhabited

namespace Opcode

/-- Family `0`: two exact words, and calls into host code for the rest. -/
def decodeSystem (op : Opcode) : Instruction :=
  if op.word = 0x00E0 then .clear
  else if op.word = 0x00EE then .ret
  else .system op.nnn

/-- Family `8`: register arithmetic, selected by the last field. -/
def decodeArithmetic (op : Opcode) : Instruction :=
  match op.n.val with
  | 0x0 => .copy op.x op.y
  | 0x1 => .or op.x op.y
  | 0x2 => .and op.x op.y
  | 0x3 => .xor op.x op.y
  | 0x4 => .add op.x op.y
  | 0x5 => .subtract op.x op.y
  | 0x6 => .shiftRight op.x
  | 0x7 => .subtractFrom op.x op.y
  | 0xE => .shiftLeft op.x
  | _ => .unknown op.word

/-- Family `E`: keyboard tests, selected by the low byte. -/
def decodeKeyboard (op : Opcode) : Instruction :=
  match op.kk.toNat with
  | 0x9E => .skipIfPressed op.x
  | 0xA1 => .skipUnlessPressed op.x
  | _ => .unknown op.word

/-- Family `F`: timers, the index register and memory transfers, selected by the low byte. -/
def decodeTransfer (op : Opcode) : Instruction :=
  match op.kk.toNat with
  | 0x07 => .readDelay op.x
  | 0x0A => .awaitKey op.x
  | 0x15 => .setDelay op.x
  | 0x18 => .setSound op.x
  | 0x1E => .addIndex op.x
  | 0x29 => .pointGlyph op.x
  | 0x33 => .storeDecimal op.x
  | 0x55 => .storeRegisters op.x
  | 0x65 => .loadRegisters op.x
  | _ => .unknown op.word

/-- The instruction that a word denotes. -/
def decode (op : Opcode) : Instruction :=
  match op.family.val with
  | 0x0 => op.decodeSystem
  | 0x1 => .jump op.nnn
  | 0x2 => .call op.nnn
  | 0x3 => .skipIfByte op.x op.kk
  | 0x4 => .skipUnlessByte op.x op.kk
  | 0x5 => .skipIfEqual op.x op.y
  | 0x6 => .setByte op.x op.kk
  | 0x7 => .addByte op.x op.kk
  | 0x8 => op.decodeArithmetic
  | 0x9 => .skipUnlessEqual op.x op.y
  | 0xA => .setIndex op.nnn
  | 0xB => .jumpOffset op.nnn
  | 0xC => .random op.x op.kk
  | 0xD => .draw op.x op.y op.n
  | 0xE => op.decodeKeyboard
  | _ => op.decodeTransfer

end Opcode
end Chip8
