import Chip8.Failure
import Chip8.Mnemonic

/-!
# Listings

A listing shows a program one instruction a line: the address at which the word will lie in
memory, the word, and its assembly text.  An odd byte at the end is shown as data.  A
disassembler writes the listing to a sink that may refuse.  A line reaches the sink in parts, and
the sink keeps those that it took before it refused one; the cursor stays at the line that was
refused and goes back to the start with every new pass.
-/

namespace Chip8

/-- The address at which programs begin in memory. -/
def programStart : Nat := 512

namespace Listing

/-- The line of an instruction, without its line end. -/
def instructionLine (address : Nat) (op : Opcode) : String :=
  Hex.text 4 address ++ ": " ++ Hex.text 4 op.word.toNat ++ "  " ++ op.decode.text

/-- The line of a byte that does not make up a whole instruction, without its line end. -/
def byteLine (address : Nat) (byte : UInt8) : String :=
  Hex.text 4 address ++ ": " ++ Hex.text 2 byte.toNat ++ "    DB 0x" ++ Hex.text 2 byte.toNat

/-- The lines of a program whose first byte lies at the address. -/
def lines (address : Nat) : List UInt8 → List String
  | high :: low :: rest =>
      instructionLine address (Opcode.ofBytes high low) :: lines (address + 2) rest
  | [byte] => [byteLine address byte]
  | [] => []

/-- The whole listing of a program, every line ended. -/
def render (program : List UInt8) : String :=
  String.join ((lines programStart program).map (· ++ "\n"))

end Listing

/-- A text sink that refuses a write taking its total past its capacity in bytes. -/
structure TextSink where
  /-- Bytes accepted altogether, or no bound. -/
  capacity : Option Nat := none
  /-- Text accepted so far. -/
  written : String := ""
deriving DecidableEq, Repr

namespace TextSink

/-- Whether the sink takes this text. -/
def accepts (sink : TextSink) (text : String) : Bool :=
  match sink.capacity with
  | none => true
  | some capacity => sink.written.utf8ByteSize + text.utf8ByteSize ≤ capacity

/-- Write to the sink, or be refused. -/
def write? (sink : TextSink) (text : String) : Option TextSink :=
  if sink.accepts text then some { sink with written := sink.written ++ text } else none

/-- Write parts one after the other, up to the first that is refused.  Answers the sink and
whether it took them all. -/
def writeAll (sink : TextSink) : List String → TextSink × Bool
  | [] => (sink, true)
  | part :: parts =>
      match sink.write? part with
      | some sink => sink.writeAll parts
      | none => (sink, false)

end TextSink

/-- How a text is split into the parts that are written one after the other. -/
structure Splitting where
  parts : String → List String
  /-- Nothing is lost and nothing is added. -/
  join_parts : ∀ text, String.join (parts text) = text

/-- Every text is written at once. -/
def Splitting.whole : Splitting where
  parts text := [text]
  join_parts _ := String.empty_append

/-- A program being listed. -/
structure Disassembler where
  /-- The program. -/
  program : List UInt8
  /-- Offset of the next byte to be listed. -/
  cursor : Nat := 0
deriving DecidableEq, Repr

namespace Disassembler

/-- What a pass over a program leaves behind. -/
structure Pass where
  /-- The disassembler, ready for the next pass. -/
  disassembler : Disassembler
  /-- The sink with all the text that it accepted. -/
  sink : TextSink
  /-- Success, or the refusal of the sink. -/
  result : Except Failure Unit

/-- Write the lines of the rest of the program, which begins at the cursor, until the sink
refuses.  Answers the cursor reached, the sink, and whether everything was written. -/
def writeFrom (splitting : Splitting) (cursor : Nat) (sink : TextSink) :
    List UInt8 → Nat × TextSink × Bool
  | high :: low :: rest =>
      let line := Listing.instructionLine (programStart + cursor) (Opcode.ofBytes high low)
      match sink.writeAll (splitting.parts (line ++ "\n")) with
      | (sink, true) => writeFrom splitting (cursor + 2) sink rest
      | (sink, false) => (cursor, sink, false)
  | [byte] =>
      let line := Listing.byteLine (programStart + cursor) byte
      match sink.writeAll (splitting.parts (line ++ "\n")) with
      | (sink, true) => (cursor + 1, sink, true)
      | (sink, false) => (cursor, sink, false)
  | [] => (cursor, sink, true)

/-- List the whole program to a sink, wherever the cursor was left by an earlier pass. -/
def pass (disassembler : Disassembler) (sink : TextSink)
    (splitting : Splitting := .whole) : Pass :=
  let rewound := { disassembler with cursor := 0 }
  match writeFrom splitting rewound.cursor sink rewound.program with
  | (_, sink, true) => ⟨{ rewound with cursor := 0 }, sink, .ok ()⟩
  | (cursor, sink, false) => ⟨{ rewound with cursor }, sink, .error .sinkFull⟩

end Disassembler
end Chip8
