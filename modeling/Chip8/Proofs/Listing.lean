import Chip8.Listing
import Chip8.Proofs.Hex

/-!
# The text of a listing

A listing is read back line by line: no line has a line end of its own, so splitting the text at
its line ends gives the lines of the program again.
-/

namespace Chip8

/-! ### Lines have no line ends -/

/-- The characters that operands are written with. -/
def Operand.alphabet : List Char := Hex.alphabet ++ ['V', 'x', 'I', '[', ']', 'T', 'S', 'K']

theorem Operand.chars_subset_alphabet (operand : Operand) : operand.chars ⊆ alphabet := by
  have digit (value : Nat) : Hex.digit value ∈ alphabet :=
    List.mem_append_left _ (Hex.digit_mem_alphabet value)
  have digits (width value : Nat) : Hex.digits width value ⊆ alphabet :=
    fun _ member => List.mem_append_left _ (Hex.mem_alphabet_of_mem_digits member)
  have constant (width value : Nat) : '0' :: 'x' :: Hex.digits width value ⊆ alphabet :=
    List.cons_subset.mpr ⟨by decide, List.cons_subset.mpr ⟨by decide, digits width value⟩⟩
  cases operand with
  | register number => exact List.cons_subset.mpr ⟨by decide, digits 1 number⟩
  | byte | address | word => exact constant _ _
  | count value =>
      rw [chars]
      split <;> simp [digit, show '1' ∈ alphabet by decide]
  | _ => decide

theorem Operand.not_mem_chars {c : Char} (other : c ∉ alphabet) (operand : Operand) :
    c ∉ operand.chars :=
  fun member => other (operand.chars_subset_alphabet member)

namespace Mnemonic

theorem newline_not_mem_operandChars (operands : List Operand) :
    '\n' ∉ operandChars operands := by
  fun_induction operandChars operands with
  | case1 => exact List.not_mem_nil
  | case2 operand => exact operand.not_mem_chars (by decide)
  | case3 operand rest _ induction =>
      have plain : '\n' ∉ operand.chars := operand.not_mem_chars (by decide)
      simp [plain, induction]

theorem newline_not_mem_chars {mnemonic : Mnemonic} (name : '\n' ∉ mnemonic.name.toList) :
    '\n' ∉ mnemonic.chars := by
  rw [chars]
  split
  · exact name
  · simp [name, newline_not_mem_operandChars]

end Mnemonic

theorem Instruction.newline_not_mem_text (instruction : Instruction) :
    '\n' ∉ instruction.text.toList := by
  rw [Instruction.text, String.toList_ofList]
  apply Mnemonic.newline_not_mem_chars
  cases instruction <;> simp [mnemonic]

namespace Listing

theorem newline_not_mem_instructionLine (address : Nat) (op : Opcode) :
    '\n' ∉ (instructionLine address op).toList := by
  have digits := @Hex.not_mem_digits '\n' (by decide)
  simp [instructionLine, Hex.text, digits, Instruction.newline_not_mem_text]

theorem newline_not_mem_byteLine (address : Nat) (byte : UInt8) :
    '\n' ∉ (byteLine address byte).toList := by
  have digits := @Hex.not_mem_digits '\n' (by decide)
  simp [byteLine, Hex.text, digits]

theorem newline_not_mem_lines {address : Nat} {program : List UInt8} {line : String}
    (member : line ∈ lines address program) : '\n' ∉ line.toList := by
  fun_induction lines address program with
  | case1 address high low rest induction =>
      rcases List.mem_cons.mp member with rfl | later
      · exact newline_not_mem_instructionLine _ _
      · exact induction later
  | case2 address byte =>
      rw [List.eq_of_mem_singleton member]
      exact newline_not_mem_byteLine _ _
  | case3 => exact absurd member List.not_mem_nil

/-! ### Reading lines back -/

theorem length_lines (address : Nat) (program : List UInt8) :
    (lines address program).length = (program.length + 1) / 2 := by
  fun_induction lines address program with
  | case1 address high low rest induction =>
      simp only [List.length_cons, induction]
      omega
  | case2 | case3 => simp

/-- A line of a text, counted from zero, without its line end. -/
def line? (text : String) (index : Nat) : Option String :=
  (text.toList.splitOn '\n')[index]?.map String.ofList

/-- Lines that are ended one after the other are read back, followed by nothing. -/
theorem splitOn_join {texts : List String} (plain : ∀ text ∈ texts, '\n' ∉ text.toList) :
    (String.join (texts.map (· ++ "\n"))).toList.splitOn '\n' =
      texts.map String.toList ++ [[]] := by
  induction texts with
  | nil => rfl
  | cons text texts induction =>
      have ended : (text ++ "\n").toList = text.toList ++ ['\n'] := String.toList_append
      rw [List.map_cons, String.join_cons, String.toList_append, ended, List.append_assoc,
        List.singleton_append,
        List.splitOn_append_cons_self_of_not_mem (plain _ List.mem_cons_self),
        induction fun later member => plain later (List.mem_cons_of_mem _ member)]
      rfl

theorem line?_render (program : List UInt8) {index : Nat}
    (inRange : index < (lines programStart program).length) :
    line? (render program) index = some (lines programStart program)[index] := by
  rw [line?, render, splitOn_join fun _ => newline_not_mem_lines,
    List.getElem?_append_left (by rwa [List.length_map]), List.getElem?_map,
    List.getElem?_eq_getElem inRange]
  simp

theorem getElem?_lines (address : Nat) {program : List UInt8} {index : Nat}
    (whole : 2 * index + 1 < program.length) :
    (lines address program)[index]? =
      some (instructionLine (address + 2 * index)
        (Opcode.ofBytes program[2 * index] program[2 * index + 1])) := by
  induction index generalizing address program with
  | zero =>
      match program, whole with
      | high :: low :: rest, _ => rfl
  | succ index induction =>
      match program, whole with
      | high :: low :: rest, whole =>
          have shorter : 2 * index + 1 < rest.length := by
            simp only [List.length_cons] at whole
            omega
          rw [lines, List.getElem?_cons_succ, induction (address + 2) shorter]
          simp only [Nat.mul_succ, List.getElem_cons_succ, Nat.add_assoc, Nat.add_comm 2]

end Listing

/-! ### Writing a listing -/

namespace TextSink

/-- The sink after it has taken a text. -/
def holding (sink : TextSink) (text : String) : TextSink :=
  { sink with written := sink.written ++ text }

/-- What became of a text that was written to a sink. -/
structure Takes (sink : TextSink) (text : String) (after : TextSink) (complete : Bool) : Prop where
  /-- It is taken completely if there is room for it. -/
  room : complete = true ↔ sink.accepts text = true
  whole : complete = true → after = sink.holding text
  /-- Else it is cut off somewhere. -/
  cut : ∃ part, part.toList <+: text.toList ∧ after = sink.holding part

variable {sink after : TextSink} {text one other : String} {complete : Bool}

theorem holding_empty (sink : TextSink) : sink.holding "" = sink := by
  rw [holding, String.append_empty]

theorem holding_holding : (sink.holding one).holding other = sink.holding (one ++ other) := by
  simp only [holding, String.append_assoc]

theorem accepts_of_append (fits : sink.accepts (one ++ other) = true) :
    sink.accepts one = true := by
  unfold accepts at fits ⊢
  split at fits
  · rfl
  · rw [String.utf8ByteSize_append, decide_eq_true_iff] at fits
    rw [decide_eq_true_iff]
    omega

theorem accepts_holding : (sink.holding one).accepts other = sink.accepts (one ++ other) := by
  simp only [accepts, holding, String.utf8ByteSize_append, Nat.add_assoc]

theorem Takes.sound (takes : sink.Takes text after true) : after.accepts "" = true := by
  rw [takes.whole rfl, accepts_holding, String.append_empty]
  exact takes.room.mp rfl

theorem Takes.append (takes : sink.Takes one after true)
    {last : TextSink} (more : after.Takes other last complete) :
    sink.Takes (one ++ other) last complete := by
  obtain rfl := takes.whole rfl
  constructor
  · rw [more.room, accepts_holding]
  · intro taken
    rw [more.whole taken, holding_holding]
  · obtain ⟨part, begins, rfl⟩ := more.cut
    refine ⟨one ++ part, ?_, holding_holding⟩
    rw [String.toList_append, String.toList_append]
    exact (List.prefix_append_right_inj _).mpr begins

theorem Takes.refused (takes : sink.Takes one after false) (other : String) :
    sink.Takes (one ++ other) after false := by
  constructor
  · exact ⟨(nomatch ·), fun fits => takes.room.mpr (accepts_of_append fits)⟩
  · exact (nomatch ·)
  · obtain ⟨part, begins, after_eq⟩ := takes.cut
    refine ⟨part, begins.trans ?_, after_eq⟩
    rw [String.toList_append]
    exact List.prefix_append _ _

theorem takes_of_accepts (fits : sink.accepts text = true) :
    sink.Takes text (sink.holding text) true :=
  ⟨⟨fun _ => fits, fun _ => rfl⟩, fun _ => rfl, text, List.prefix_rfl, rfl⟩

/-- Of parts that are written one after the other, a sink takes as many as there is room for. -/
theorem takes_writeAll (sound : sink.accepts "" = true) (parts : List String) :
    sink.Takes (String.join parts) (sink.writeAll parts).1 (sink.writeAll parts).2 := by
  induction parts generalizing sink with
  | nil =>
      have taken := takes_of_accepts sound
      rwa [holding_empty] at taken
  | cons part parts induction =>
      rw [String.join_cons]
      by_cases fits : sink.accepts part = true
      · have taken := takes_of_accepts fits
        rw [writeAll, write?, if_pos fits]
        exact taken.append (induction taken.sound)
      · have refused : sink.Takes part sink false := by
          refine ⟨⟨(nomatch ·), fun room => absurd room fits⟩, (nomatch ·), "", ?_, ?_⟩
          · exact List.nil_prefix
          · exact sink.holding_empty.symm
        rw [writeAll, write?, if_neg fits]
        exact refused.refused _

end TextSink

namespace Disassembler

theorem takes_writeFrom (splitting : Splitting) (cursor : Nat) {sink : TextSink}
    (sound : sink.accepts "" = true) (program : List UInt8) :
    sink.Takes (String.join ((Listing.lines (programStart + cursor) program).map (· ++ "\n")))
      (writeFrom splitting cursor sink program).2.1
      (writeFrom splitting cursor sink program).2.2 := by
  have line_takes {sink : TextSink} (sound : sink.accepts "" = true) (line : String)
      {next : TextSink} {complete : Bool}
      (written : sink.writeAll (splitting.parts (line ++ "\n")) = (next, complete)) :
      sink.Takes (line ++ "\n") next complete := by
    have takes := TextSink.takes_writeAll sound (splitting.parts (line ++ "\n"))
    rwa [splitting.join_parts, written] at takes
  fun_induction writeFrom splitting cursor sink program with
  | case1 cursor sink high low rest line next written induction =>
      have takes := line_takes sound line written
      rw [Listing.lines, List.map_cons, String.join_cons]
      exact takes.append (induction takes.sound)
  | case2 cursor sink high low rest line next refused =>
      rw [Listing.lines, List.map_cons, String.join_cons]
      exact (line_takes sound line refused).refused _
  | case3 cursor sink byte line next written =>
      have only : String.join [line ++ "\n"] = line ++ "\n" := String.empty_append
      rw [Listing.lines, List.map_singleton, only]
      exact line_takes sound line written
  | case4 cursor sink byte line next refused =>
      rw [Listing.lines, List.map_cons, String.join_cons]
      exact (line_takes sound line refused).refused _
  | case5 cursor sink =>
      have taken := TextSink.takes_of_accepts sound
      rwa [TextSink.holding_empty] at taken

variable (disassembler : Disassembler) (splitting : Splitting) {sink : TextSink}

/-- A pass writes as much of the listing as the sink takes.  What was left of an earlier pass makes
no difference. -/
theorem pass_cases (sound : sink.accepts "" = true) :
    let listing := Listing.render disassembler.program
    (sink.Takes listing (sink.holding listing) true ∧
        disassembler.pass sink splitting =
          ⟨{ disassembler with cursor := 0 }, sink.holding listing, .ok ()⟩) ∨
      ∃ cursor after, sink.Takes listing after false ∧
        disassembler.pass sink splitting =
          ⟨{ disassembler with cursor }, after, .error .sinkFull⟩ := by
  intro listing
  have takes := takes_writeFrom splitting 0 sound disassembler.program
  rw [pass]
  rcases written : writeFrom splitting 0 sink disassembler.program with ⟨cursor, after, complete⟩
  rw [written] at takes
  cases complete with
  | true =>
      obtain rfl : after = sink.holding listing := takes.whole rfl
      exact .inl ⟨takes, rfl⟩
  | false => exact .inr ⟨cursor, after, takes, rfl⟩

theorem pass_of_unbounded {splitting : Splitting} (unbounded : sink.capacity = none) :
    disassembler.pass sink splitting =
      ⟨{ disassembler with cursor := 0 },
        { sink with written := sink.written ++ Listing.render disassembler.program }, .ok ()⟩ := by
  have accepts (text : String) : sink.accepts text = true := by rw [TextSink.accepts, unbounded]
  rcases disassembler.pass_cases splitting (accepts "") with ⟨-, pass⟩ | ⟨cursor, after, takes, -⟩
  · exact pass
  · exact nomatch takes.room.mpr (accepts _)

theorem written_pass (program : List UInt8) (splitting : Splitting) :
    (({ program } : Disassembler).pass {} splitting).sink.written = Listing.render program := by
  rw [pass_of_unbounded _ rfl]
  exact String.empty_append

end Disassembler
end Chip8
