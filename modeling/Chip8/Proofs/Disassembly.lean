import Chip8.Proofs.Listing.Columns

/-!
# Listings as images of programs

A listing loses nothing of the program: the hexadecimal columns of its lines, one after the other,
read back as its bytes.  A disassembler gives the same listing again and again, and to a sink with
too little room it gives as much of it as the sink takes, whatever became of earlier passes.
-/

namespace Chip8

/-! ### Reading a listing -/

namespace Listing

theorem flatMap_hexColumn_lines (address : Nat) (program : List UInt8) :
    (lines address program).flatMap hexColumn =
      program.flatMap fun byte => Hex.digits 2 byte.toNat := by
  fun_induction lines address program with
  | case1 address high low rest induction =>
      rw [List.flatMap_cons, induction, (columned_instructionLine _ _).hexColumn,
        Opcode.toNat_word_ofBytes, Hex.digits_four low.toNat_lt,
        List.flatMap_cons, List.flatMap_cons, List.append_assoc]
  | case2 address byte =>
      rw [List.flatMap_singleton, List.flatMap_singleton, (columned_byteLine _ _).hexColumn]
  | case3 => rfl

theorem columned_of_getElem? {address index : Nat} {program : List UInt8} {line : String}
    (found : (lines address program)[index]? = some line) :
    ∃ hex rest, Columned line (Hex.digits 4 (address + 2 * index)) hex rest ∧
      hex.length = if 2 * index + 1 < program.length then 4 else 2 := by
  fun_induction lines address program generalizing index with
  | case1 address high low rest induction =>
      cases index with
      | zero =>
          obtain rfl := Option.some.inj found
          refine ⟨_, _, columned_instructionLine address _, ?_⟩
          rw [if_pos (by simp)]
          exact Hex.length_digits (UInt16.toNat_lt _)
      | succ index =>
          obtain ⟨hex, text, columned, width⟩ := induction found
          have shift : address + 2 + 2 * index = address + 2 * (index + 1) := by omega
          rw [shift] at columned
          refine ⟨hex, text, columned, width.trans ?_⟩
          simp only [List.length_cons]
          split <;> split <;> omega
  | case2 address byte =>
      obtain ⟨rfl, rfl⟩ : index = 0 ∧ byteLine address byte = line := by
        simpa [List.getElem?_singleton] using found
      exact ⟨_, _, columned_byteLine address byte, Hex.length_digits byte.toNat_lt⟩
  | case3 => simp at found

/-- A listing shows a program in ended lines, whose addresses count up in steps of two and whose
hexadecimal columns read back as its bytes. -/
structure Shows (listing : String) (program : List UInt8) : Prop where
  ended : listing = String.join ((endedLines listing).map (· ++ "\n"))
  length : (endedLines listing).length = (program.length + 1) / 2
  address : ∀ (index : Nat) (line : String), (endedLines listing)[index]? = some line →
    (Hex.text 4 (0x200 + 2 * index) ++ ": ").toList <+: line.toList ∧
      Hex.number? (addressColumn line) = some (0x200 + 2 * index) ∧
      4 ≤ (addressColumn line).length
  width : ∀ (index : Nat) (line : String), (endedLines listing)[index]? = some line →
    (hexColumn line).length = if 2 * index + 1 < program.length then 4 else 2
  bytes : Hex.bytes? ((endedLines listing).flatMap hexColumn) = some program

theorem shows_render (program : List UInt8) : Shows (render program) program := by
  have rows := endedLines_render program
  constructor <;> rw [rows]
  · rfl
  · exact length_lines _ _
  · intro index line found
    obtain ⟨hex, rest, columned, -⟩ := columned_of_getElem? found
    refine ⟨⟨hex ++ ' ' :: rest, ?_⟩, ?_, ?_⟩
    · rw [columned.text]
      simp [Hex.text, programStart]
    · rw [columned.addressColumn]
      exact Hex.number?_digits _ _
    · rw [columned.addressColumn]
      exact Hex.le_length_digits _ _
  · intro index line found
    obtain ⟨hex, rest, columned, width⟩ := columned_of_getElem? found
    rw [columned.hexColumn, width]
  · rw [flatMap_hexColumn_lines, Hex.bytes?_digits]

end Listing

/-! ### Listing again and again -/

namespace Disassembler

/-- Passes of one disassembler, each to a sink of its own. -/
def passes (disassembler : Disassembler) (splitting : Splitting) : List TextSink → List Pass
  | [] => []
  | sink :: sinks =>
      let pass := disassembler.pass sink splitting
      pass :: pass.disassembler.passes splitting sinks

/-- What a pass makes of a listing, given a sink that takes so many bytes. -/
structure Delivers (listing : String) (limit : Nat) (pass : Pass) : Prop where
  succeeds : pass.result = .ok () ↔ listing.utf8ByteSize ≤ limit
  whole : pass.result = .ok () → pass.sink.written = listing
  fails : limit < listing.utf8ByteSize →
    pass.result = .error .sinkFull ∧ pass.sink.written.toList <+: listing.toList

theorem program_pass (disassembler : Disassembler) (sink : TextSink) (splitting : Splitting) :
    (disassembler.pass sink splitting).disassembler.program = disassembler.program := by
  rw [pass]
  split <;> rfl

/-- A disassembler remembers nothing of its passes but the program. -/
theorem passes_eq (disassembler : Disassembler) (splitting : Splitting) (sinks : List TextSink) :
    disassembler.passes splitting sinks =
      sinks.map (({ program := disassembler.program } : Disassembler).pass · splitting) := by
  induction sinks generalizing disassembler with
  | nil => rfl
  | cons sink sinks induction =>
      rw [passes, induction, program_pass, List.map_cons]
      rfl

theorem delivers_pass (disassembler : Disassembler) (splitting : Splitting) (limit : Nat) :
    Delivers (Listing.render disassembler.program) limit
      (disassembler.pass { capacity := some limit } splitting) := by
  let sink : TextSink := { capacity := some limit }
  have sound : sink.accepts "" = true := by simp [TextSink.accepts, sink]
  have room (text : String) : sink.accepts text = true ↔ text.utf8ByteSize ≤ limit := by
    simp [TextSink.accepts, sink]
  have holds (text : String) : (sink.holding text).written = text := String.empty_append
  rcases disassembler.pass_cases splitting sound with ⟨takes, pass⟩ | ⟨cursor, after, takes, pass⟩
  · have fits := (room _).mp (takes.room.mp rfl)
    rw [show disassembler.pass _ splitting = _ from pass]
    exact ⟨⟨fun _ => fits, fun _ => rfl⟩, fun _ => holds _, fun beyond => by omega⟩
  · have beyond : ¬(Listing.render disassembler.program).utf8ByteSize ≤ limit :=
      fun fits => absurd (takes.room.mpr ((room _).mpr fits)) Bool.false_ne_true
    obtain ⟨part, begins, rfl⟩ := takes.cut
    rw [show disassembler.pass _ splitting = _ from pass]
    constructor
    · simp [beyond]
    · simp
    · intro _
      rw [holds]
      exact ⟨rfl, begins⟩

/-- A listing is a lossless image of the program, and a disassembler can be used again after any
failure: whatever its earlier passes were, the next one is that of a new disassembler, which
succeeds with the whole listing exactly if the sink has room for it. -/
theorem lossless_and_reusable (disassembler : Disassembler) (splitting : Splitting) :
    let fresh : Disassembler := { program := disassembler.program }
    let complete := fresh.pass {} splitting
    let listing := complete.sink.written
    complete.result = .ok () ∧
      Listing.Shows listing disassembler.program ∧
      (∀ sinks, disassembler.passes splitting sinks = sinks.map (fresh.pass · splitting)) ∧
      ∀ limit, Delivers listing limit (fresh.pass { capacity := some limit } splitting) := by
  intro fresh complete listing
  have succeeds : complete.result = .ok () := by
    rw [show complete = _ from fresh.pass_of_unbounded rfl]
  have listing_eq : listing = Listing.render disassembler.program := written_pass _ splitting
  rw [listing_eq]
  refine ⟨succeeds, Listing.shows_render _, disassembler.passes_eq splitting, ?_⟩
  exact fresh.delivers_pass splitting

end Disassembler
end Chip8
