import Chip8.Proofs.Execution
import Chip8.Proofs.Footprint

/-!
# The random stream

The words of the stream that belongs to a seed are handed out one after the other, one to each
`Cxkk` that is executed, whatever is loaded, stopped or changed from outside in between.  So the
position of the generator is the number of draws, and a draw finds the generator where the draws
before it have left it.
-/

namespace Chip8

namespace Generator

/-- The generator after some words have been taken. -/
def skip (generator : Generator) (count : Nat) : Generator :=
  { generator with position := generator.position + count }

theorem skip_succ (generator : Generator) (count : Nat) :
    generator.skip (count + 1) = (generator.skip count).advance := rfl

theorem skip_ofSeed (seed : UInt64) (count : Nat) :
    (ofSeed seed).skip count = ⟨Random.keyOfSeed seed, count⟩ := by
  simp only [skip, ofSeed, Nat.zero_add]

end Generator

/-! ### One instruction -/

theorem Opcode.decode_random {op : Opcode} (family : op.family = 0xC) :
    op.decode = .random op.x op.kk :=
  decode_eq_iff.mpr ⟨family, rfl, rfl⟩

namespace Machine

/-- `Cxkk` takes one word, even if the mask leaves nothing of it. -/
theorem random_cycle (machine : Machine) :
    machine.cycle.1.random =
      if machine.processor.opcode.family = 0xC then machine.random.advance
      else machine.random := by
  by_cases family : machine.processor.opcode.family = 0xC
  · rw [if_pos family, cycle, Opcode.decode_random family]
    rfl
  · rw [if_neg family]
    by_contra changed
    have denotes := machine.processor.opcode.denotes_decode
    exact family (Processor.family_of_random_ne denotes changed)

theorem register_cycle_of_draw {machine : Machine}
    (family : machine.processor.opcode.family = 0xC) :
    machine.cycle.1.processor.register machine.processor.opcode.x =
      machine.processor.opcode.kk &&& machine.random.byte := by
  rw [cycle, Opcode.decode_random family]
  exact (Processor.register_setRegister _ _ _ _).trans (if_pos rfl)

end Machine

/-! ### Histories -/

/-- Whether the word that is executed is a `Cxkk`. -/
def Execution.draws (execution : Execution) : Bool :=
  execution.machine.processor.opcode.family == 0xC

/-- A machine whose generator came from another by the draws among the executions, in order. -/
structure Drawn (origin : Generator) (machine : Machine) (past : List Execution) : Prop where
  /-- Nothing was taken but by draws. -/
  position : machine.random = origin.skip (past.filter Execution.draws).length
  /-- Each draw was made where the draws before it had left the generator. -/
  order : (past.filter Execution.draws).map (fun execution => execution.machine.random) =
    (List.range (past.filter Execution.draws).length).map origin.skip

namespace Drawn

variable {origin : Generator} {machine : Machine} {past : List Execution}

theorem execute (drawn : Drawn origin machine past) (records : List LogRecord) :
    Drawn origin machine.cycle.1 (past ++ [⟨machine, records⟩]) := by
  by_cases family : machine.processor.opcode.family = 0xC
  · have draws : Execution.draws ⟨machine, records⟩ = true := beq_iff_eq.mpr family
    have filtered : (past ++ [Execution.mk machine records]).filter Execution.draws =
        past.filter Execution.draws ++ [⟨machine, records⟩] := by
      rw [List.filter_append, List.filter_cons_of_pos draws, List.filter_nil]
    constructor
    · rw [filtered, List.length_append, List.length_singleton, Generator.skip_succ,
        ← drawn.position, Machine.random_cycle, if_pos family]
    · rw [filtered, List.length_append, List.length_singleton, List.range_succ, List.map_append,
        List.map_append, drawn.order, List.map_singleton, List.map_singleton, drawn.position]
  · have draws : ¬Execution.draws ⟨machine, records⟩ = true := by
      rwa [Execution.draws, beq_iff_eq]
    have filtered : (past ++ [Execution.mk machine records]).filter Execution.draws =
        past.filter Execution.draws := by
      rw [List.filter_append, List.filter_cons_of_neg draws, List.filter_nil, List.append_nil]
    constructor
    · rw [filtered, ← drawn.position, Machine.random_cycle, if_neg family]
    · rw [filtered]
      exact drawn.order

theorem chronicle (origin : Generator) : Machine.Chronicle (Drawn origin) where
  load _ _ _ _ drawn := ⟨drawn.position, drawn.order⟩
  font _ _ _ drawn := ⟨drawn.position, drawn.order⟩
  keypad _ _ _ drawn := ⟨drawn.position, drawn.order⟩
  register _ _ _ _ drawn := ⟨drawn.position, drawn.order⟩
  pixel _ _ _ _ _ drawn := ⟨drawn.position, drawn.order⟩
  tick machine _ now drawn := by
    rw [Machine.tick]
    split
    · exact ⟨drawn.position, drawn.order⟩
    · exact drawn
  execute _ _ _ _ drawn := drawn.execute _
  clocks _ _ _ drawn := ⟨drawn.position, drawn.order⟩
  shown _ _ _ _ drawn := ⟨drawn.position, drawn.order⟩
  silenced _ _ drawn := ⟨drawn.position, drawn.order⟩

theorem random_eq (drawn : Drawn origin machine past)
    (index : Fin (past.filter Execution.draws).length) :
    (past.filter Execution.draws)[index].machine.random = origin.skip index.val := by
  have order := congrArg (·[index.val]?) drawn.order
  simpa using order

end Drawn

namespace Machine

theorem drawn_performAll (machine : Machine) (history : List Operation) :
    Drawn machine.random (machine.performAll history) (machine.allExecutions history) := by
  have initial : Drawn machine.random machine [] := ⟨rfl, rfl⟩
  exact (Drawn.chronicle machine.random).whole initial history

/-- In every history of a new machine the random stream of its seed is consumed by draws only, one
word by each, and never begins again: the draw that has `index` draws before it masks the low byte
of the word at position `index`, and every operation moves the generator on by as many words as it
executes draws. -/
theorem random_stream (interval : Nat) (seed : UInt64) (now : Int) (history : List Operation) :
    let start := create interval seed now
    let reached := start.performAll history
    let draws := (start.allExecutions history).filter Execution.draws
    reached.random = ⟨Random.keyOfSeed seed, draws.length⟩ ∧
      (∀ index : Fin draws.length,
        let before := draws[index].machine
        let op := before.processor.opcode
        before.cycle.1.processor.register op.x =
          op.kk &&& (Random.word (Random.keyOfSeed seed) index.val).toUInt8) ∧
      ∀ operation : Operation,
        (reached.perform operation).random =
          ⟨Random.keyOfSeed seed,
            draws.length + ((reached.executions operation).filter Execution.draws).length⟩ := by
  intro start reached draws
  have origin : start.random = .ofSeed seed := rfl
  have drawn := start.drawn_performAll history
  rw [origin] at drawn
  refine ⟨drawn.position.trans (Generator.skip_ofSeed seed _), ?_, ?_⟩
  · intro index before op
    have member : draws[index] ∈ draws := List.getElem_mem _
    have family : op.family = 0xC := beq_iff_eq.mp (List.mem_filter.mp member).2
    have random : before.random = (Generator.ofSeed seed).skip index.val := drawn.random_eq index
    rw [register_cycle_of_draw family, random, Generator.skip_ofSeed]
    rfl
  · intro operation
    have after := ((Drawn.chronicle _).perform drawn operation).position
    rwa [List.filter_append, List.length_append, Generator.skip_ofSeed] at after

end Machine
end Chip8
