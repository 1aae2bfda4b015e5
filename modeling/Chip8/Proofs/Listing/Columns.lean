import Chip8.Proofs.Listing

/-!
# The columns of a listing

A line of a listing has an address up to a colon, then the bytes in hexadecimal, and after two
blanks the assembly text.  Each column is read off the line alone, wherever it begins, since
addresses may be of any width.
-/

namespace Chip8
namespace Listing

/-- The lines of a text that have an end, each without it. -/
def endedLines (text : String) : List String :=
  ((text.toList.splitOn '\n').dropLast).map String.ofList

/-- What stands before the colon. -/
def addressColumn (line : String) : List Char := line.toList.takeWhile (· != ':')

/-- What follows the first blank. -/
def afterBlank (text : List Char) : List Char := (text.dropWhile (· != ' ')).drop 1

/-- What stands between the first blank and the next. -/
def hexColumn (line : String) : List Char := (afterBlank line.toList).takeWhile (· != ' ')

/-- What stands after the second blank and one more. -/
def textColumn (line : String) : List Char := (afterBlank (afterBlank line.toList)).drop 1

theorem endedLines_render (program : List UInt8) :
    endedLines (render program) = lines programStart program := by
  rw [endedLines, render, splitOn_join fun _ => newline_not_mem_lines, List.dropLast_concat,
    List.map_map]
  simp

section Columns

variable {address hex rest : List Char} {line : String}

/-- The text of a line in its columns. -/
structure Columned (line : String) (address hex rest : List Char) : Prop where
  text : line.toList = address ++ ':' :: ' ' :: hex ++ ' ' :: rest
  colon : ':' ∉ address
  blank : ' ' ∉ address
  plain : ' ' ∉ hex

theorem takeWhile_append_cons {stop : Char} {text : List Char} (plain : stop ∉ text)
    (rest : List Char) : (text ++ stop :: rest).takeWhile (· != stop) = text := by
  rw [List.takeWhile_append_of_pos, List.takeWhile_cons_of_neg (by simp), List.append_nil]
  intro c member
  exact bne_iff_ne.mpr (ne_of_mem_of_not_mem member plain)

theorem afterBlank_append {text : List Char} (plain : ' ' ∉ text) (rest : List Char) :
    afterBlank (text ++ ' ' :: rest) = rest := by
  rw [afterBlank, List.dropWhile_append_of_pos, List.dropWhile_cons_of_neg (by simp)]
  · rfl
  · intro c member
    exact bne_iff_ne.mpr (ne_of_mem_of_not_mem member plain)

namespace Columned

theorem addressColumn (columned : Columned line address hex rest) :
    Listing.addressColumn line = address := by
  rw [Listing.addressColumn, columned.text, List.append_assoc]
  exact takeWhile_append_cons columned.colon _

theorem afterBlank (columned : Columned line address hex rest) :
    Listing.afterBlank line.toList = hex ++ ' ' :: rest := by
  have before : ' ' ∉ address ++ [':'] := by simp [columned.blank]
  have text : line.toList = (address ++ [':']) ++ ' ' :: (hex ++ ' ' :: rest) := by
    simp [columned.text]
  rw [text, afterBlank_append before]

theorem hexColumn (columned : Columned line address hex rest) :
    Listing.hexColumn line = hex := by
  rw [Listing.hexColumn, columned.afterBlank]
  exact takeWhile_append_cons columned.plain _

theorem textColumn (columned : Columned line address hex rest) :
    Listing.textColumn line = rest.drop 1 := by
  rw [Listing.textColumn, columned.afterBlank, afterBlank_append columned.plain]

end Columned

end Columns

theorem columned_instructionLine (address : Nat) (op : Opcode) :
    Columned (instructionLine address op) (Hex.digits 4 address) (Hex.digits 4 op.word.toNat)
      (' ' :: op.decode.text.toList) where
  text := by simp [instructionLine, Hex.text]
  colon := Hex.not_mem_digits (by decide) _ _
  blank := Hex.not_mem_digits (by decide) _ _
  plain := Hex.not_mem_digits (by decide) _ _

theorem columned_byteLine (address : Nat) (byte : UInt8) :
    Columned (byteLine address byte) (Hex.digits 4 address) (Hex.digits 2 byte.toNat)
      ("   DB 0x".toList ++ Hex.digits 2 byte.toNat) where
  text := by simp [byteLine, Hex.text]
  colon := Hex.not_mem_digits (by decide) _ _
  blank := Hex.not_mem_digits (by decide) _ _
  plain := Hex.not_mem_digits (by decide) _ _

end Listing
end Chip8
