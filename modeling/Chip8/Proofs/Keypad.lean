import Chip8.Proofs.Encoding
import Chip8.Proofs.Frame
import Chip8.Proofs.Loading
import Mathlib.Combinatorics.Colex

/-!
# The keypad as a set of keys

The bit mask of a keypad stands for the set of the keys that are down.  To press a key is to insert
it and to release it is to erase it, the mask is the sum of the powers of two of the set, and the
lowest key is its minimum.  So a keypad and a set that are asked the same things, from the start on,
give the same answers, and the instructions for keys read the keypad as a set.
-/

namespace Chip8

namespace Key

theorem toByte_eq_iff {key : Key} {number : UInt8} :
    key.toByte = number ↔ key.val = number.toNat := by
  rw [← UInt8.toNat_inj, toNat_toByte]

theorem ofByte?_eq_some_iff {number : UInt8} {key : Key} :
    ofByte? number = some key ↔ key.toByte = number := by
  rw [toByte_eq_iff, ofByte?]
  split
  · rw [Option.some.injEq, eq_comm, Fin.ext_iff]
  · rename_i beyond
    simp only [reduceCtorEq, false_iff]
    exact fun number_eq => beyond (number_eq ▸ key.isLt)

theorem ofByte?_eq_none_iff {number : UInt8} : ofByte? number = none ↔ ¬number < 16 := by
  rw [ofByte?, UInt8.lt_iff_toNat_lt]
  split <;> simp_all

end Key

namespace Keypad

/-- Something that can be asked of a keypad. -/
inductive Request where
  /-- Press or release the key of a number. -/
  | set (number : UInt8) (pressed : Bool)
  /-- Release all keys. -/
  | clear
  | bits
  | isDown (number : UInt8)
  | anyDown
  | lowest
deriving DecidableEq, Repr

/-- What is answered to a request. -/
inductive Answer where
  /-- A change has been made. -/
  | done
  | mask (bits : Nat)
  | verdict (holds : Bool)
  | key (key : Option Key)
deriving DecidableEq, Repr

namespace Request

/-- A keypad after a request, and its answer. -/
def ask (keypad : Keypad) : Request → Keypad × Answer
  | set number pressed => (keypad.set number pressed, .done)
  | clear => (.empty, .done)
  | bits => (keypad, .mask keypad.bits.toNat)
  | isDown number => (keypad, .verdict (keypad.isDown number))
  | anyDown => (keypad, .verdict keypad.anyDown)
  | lowest => (keypad, .key keypad.lowest?)

/-- A set of keys after a request, and its answer. -/
def askSet (keys : Finset Key) : Request → Finset Key × Answer
  | set number pressed =>
      (match Key.ofByte? number with
        | some key => if pressed then insert key keys else keys.erase key
        | none => keys,
        .done)
  | clear => (∅, .done)
  | bits => (keys, .mask (∑ key ∈ keys, 2 ^ key.val))
  | isDown number => (keys, .verdict (∃ key ∈ keys, key.toByte = number))
  | anyDown => (keys, .verdict keys.Nonempty)
  | lowest => (keys, .key (if some_down : keys.Nonempty then some (keys.min' some_down) else none))

/-- Requests one after the other, with all answers in order. -/
def askAll {σ : Type} (ask : σ → Request → σ × Answer) (state : σ) :
    List Request → σ × List Answer
  | [] => (state, [])
  | request :: later =>
      let (after, answer) := ask state request
      let (last, answers) := askAll ask after later
      (last, answer :: answers)

end Request

/-- The keys that are down. -/
def keys (keypad : Keypad) : Finset Key := {key | keypad.isDown key.toByte}

/-- The keypad tells of the set of keys what there is to be told. -/
structure Represents (keypad : Keypad) (keys : Finset Key) : Prop where
  bits : keypad.bits.toNat = ∑ key ∈ keys, 2 ^ key.val
  /-- In particular, no number that belongs to no key is down. -/
  isDown : ∀ number, keypad.isDown number = true ↔ ∃ key ∈ keys, key.toByte = number
  anyDown : keypad.anyDown = true ↔ keys.Nonempty
  lowest : ∀ key, keypad.lowest? = some key ↔ IsLeast (keys : Set Key) key
  none_lowest : keypad.lowest? = none ↔ keys = ∅

variable (keypad : Keypad)

theorem mem_keys {key : Key} : key ∈ keypad.keys ↔ keypad.isDown key.toByte = true := by
  simp [keys]

theorem isDown_iff (number : UInt8) :
    keypad.isDown number = true ↔ ∃ key ∈ keypad.keys, key.toByte = number := by
  simp only [mem_keys]
  constructor
  · intro down
    cases found : Key.ofByte? number with
    | none =>
        have beyond := UInt8.not_lt.mp (Key.ofByte?_eq_none_iff.mp found)
        simp [keypad.isDown_of_le beyond] at down
    | some key =>
        obtain rfl := Key.ofByte?_eq_some_iff.mp found
        exact ⟨key, down, rfl⟩
  · rintro ⟨key, down, rfl⟩
    exact down

theorem bits_eq_sum : keypad.bits.toNat = ∑ key ∈ keypad.keys, 2 ^ key.val := by
  have indices : keypad.keys.map Fin.valEmbedding = keypad.bits.toNat.bitIndices.toFinset := by
    ext index
    simp only [Finset.mem_map, mem_keys, isDown_toByte, Fin.valEmbedding_apply, List.mem_toFinset,
      Nat.mem_bitIndices]
    constructor
    · rintro ⟨key, bit, rfl⟩
      exact bit
    · intro bit
      exact ⟨⟨index, lt_of_testBit bit⟩, bit, rfl⟩
  have sum := Finset.sum_map keypad.keys Fin.valEmbedding fun index => 2 ^ index
  rw [indices, Finset.sum_toFinset_bitIndices_two_pow] at sum
  exact sum

theorem keys_eq_empty_iff : keypad.keys = ∅ ↔ keypad = .empty := by
  constructor
  · intro none_down
    have sum := keypad.bits_eq_sum
    rw [none_down, Finset.sum_empty] at sum
    exact congrArg Keypad.mk (UInt16.toNat_inj.mp sum)
  · rintro rfl
    simp [keys, isDown_empty]

theorem anyDown_iff : keypad.anyDown = true ↔ keypad.keys.Nonempty := by
  rw [Finset.nonempty_iff_ne_empty, ne_eq, keys_eq_empty_iff, anyDown, bne_iff_ne, ne_eq, empty,
    Keypad.mk.injEq]

theorem lowest?_iff (key : Key) :
    keypad.lowest? = some key ↔ IsLeast (keypad.keys : Set Key) key := by
  rw [lowest?_eq_some_iff, IsLeast, Finset.mem_coe, mem_keys]
  refine and_congr_right fun _ => forall_congr' fun other => ?_
  rw [Finset.mem_coe, mem_keys, ← Bool.not_eq_true, ← not_lt]
  exact imp_not_comm

theorem lowest?_eq_none_iff : keypad.lowest? = none ↔ keypad.keys = ∅ := by
  rw [keys_eq_empty_iff]
  constructor
  · intro none_lowest
    by_contra pressed
    obtain ⟨key, lowest⟩ := exists_lowest?_eq_some pressed
    rw [none_lowest] at lowest
    exact nomatch lowest
  · rintro rfl
    rfl

theorem represents_keys : keypad.Represents keypad.keys :=
  ⟨keypad.bits_eq_sum, keypad.isDown_iff, keypad.anyDown_iff, keypad.lowest?_iff,
    keypad.lowest?_eq_none_iff⟩

/-! ### Requests -/

theorem keys_set (number : UInt8) (pressed : Bool) :
    (keypad.set number pressed).keys =
      match Key.ofByte? number with
      | some key => if pressed then insert key keypad.keys else keypad.keys.erase key
      | none => keypad.keys := by
  ext other
  rw [mem_keys, isDown_set]
  cases found : Key.ofByte? number with
  | none =>
      have beyond := Key.ofByte?_eq_none_iff.mp found
      simp [beyond, mem_keys]
  | some key =>
      obtain rfl := Key.ofByte?_eq_some_iff.mp found
      have small : key.toByte < 16 := by
        by_contra beyond
        rw [Key.ofByte?_eq_none_iff.mpr beyond] at found
        exact nomatch found
      have same_iff : other.toByte = key.toByte ↔ other = key := by
        rw [Key.toByte_eq_iff, Key.toNat_toByte, Fin.ext_iff]
      cases pressed <;> by_cases same : other = key <;> simp [same_iff, same, small, mem_keys]

theorem askSet_keys (request : Request) :
    request.askSet keypad.keys = ((request.ask keypad).1.keys, (request.ask keypad).2) := by
  cases request with
  | set number pressed => simp only [Request.askSet, Request.ask, keys_set]
  | clear => simp only [Request.askSet, Request.ask, (keys_eq_empty_iff _).mpr]
  | bits => simp only [Request.askSet, Request.ask, bits_eq_sum]
  | isDown number => simp only [Request.askSet, Request.ask, ← isDown_iff, Bool.decide_eq_true]
  | anyDown => simp only [Request.askSet, Request.ask, ← anyDown_iff, Bool.decide_eq_true]
  | lowest =>
      have lowest_eq : keypad.lowest? =
          if some_down : keypad.keys.Nonempty then some (keypad.keys.min' some_down)
          else none := by
        split
        · rename_i some_down
          exact (keypad.lowest?_iff _).mpr (keypad.keys.isLeast_min' some_down)
        · rename_i none_down
          rw [lowest?_eq_none_iff]
          exact Finset.not_nonempty_iff_eq_empty.mp none_down
      simp only [Request.askSet, Request.ask, lowest_eq]

theorem askAll_keys (requests : List Request) :
    Request.askAll Request.askSet keypad.keys requests =
      ((Request.askAll Request.ask keypad requests).1.keys,
        (Request.askAll Request.ask keypad requests).2) := by
  induction requests generalizing keypad with
  | nil => rfl
  | cons request later induction => simp only [Request.askAll, askSet_keys, induction]

end Keypad

/-! ### The instructions for keys -/

namespace Machine

/-- The machine where a directive leads it. -/
def follow (machine : Machine) (directive : Directive) : Machine :=
  { machine with
    processor := { machine.processor with pc := directive.target machine.processor.pc } }

/-- What the instructions for keys do while some keys are down, each with the word for it at the
program counter. -/
structure ReadsKeys (machine : Machine) (keys : Finset Key) (x : Register) : Prop where
  skipIfPressed : machine.processor.opcode.word.toNat = 0xE09E + 0x100 * x.val →
    let directive : Directive :=
      if ∃ key ∈ keys, key.toByte = machine.processor.register x then .skip else .next
    machine.cycle = (machine.follow directive, directive)
  skipUnlessPressed : machine.processor.opcode.word.toNat = 0xE0A1 + 0x100 * x.val →
    let directive : Directive :=
      if ∃ key ∈ keys, key.toByte = machine.processor.register x then .next else .skip
    machine.cycle = (machine.follow directive, directive)
  /-- While no key is down, nothing happens. -/
  stalls : machine.processor.opcode.word.toNat = 0xF00A + 0x100 * x.val → keys = ∅ →
    machine.cycle = (machine, .stall)
  stores : machine.processor.opcode.word.toNat = 0xF00A + 0x100 * x.val →
    ∀ key, IsLeast (keys : Set Key) key →
      machine.cycle =
        ({ machine.follow .next with
            processor := (machine.follow .next).processor.setRegister x key.toByte },
          .next)

variable {machine : Machine} {x : Register}

/-- An instruction that does nothing but to answer a directive. -/
theorem cycle_eq_follow {directive : Directive}
    (executed : machine.processor.execute machine.random machine.instruction =
      ⟨machine.processor, machine.random, directive⟩)
    (known : directive ≠ .passOver) : machine.cycle = (machine.follow directive, directive) := by
  rw [instruction] at executed
  simp only [cycle, executed, known, if_false]
  rfl

theorem readsKeys (machine : Machine) (x : Register) :
    machine.ReadsKeys machine.processor.keypad.keys x where
  skipIfPressed word := by
    have decoded : machine.instruction = .skipIfPressed x :=
      Opcode.decode_eq_iff.mpr ((Opcode.family_kk_x_iff _ 0xE x 0x9E).mpr word)
    apply cycle_eq_follow
    · simp only [decoded, ← Keypad.isDown_iff]
      rfl
    · split <;> decide
  skipUnlessPressed word := by
    have decoded : machine.instruction = .skipUnlessPressed x :=
      Opcode.decode_eq_iff.mpr ((Opcode.family_kk_x_iff _ 0xE x 0xA1).mpr word)
    apply cycle_eq_follow
    · simp only [decoded, ← Keypad.isDown_iff, Processor.execute, Processor.executeFixed,
        Directive.skipWhen, Bool.not_eq_true', ite_not, ← Bool.not_eq_true]
    · split <;> decide
  stalls word none_down := by
    have decoded : machine.instruction = .awaitKey x :=
      Opcode.decode_eq_iff.mpr ((Opcode.family_kk_x_iff _ 0xF x 0x0A).mpr word)
    have lowest := machine.processor.keypad.lowest?_eq_none_iff.mpr none_down
    have stalled : machine.processor.execute machine.random machine.instruction =
        ⟨machine.processor, machine.random, .stall⟩ := by
      simp only [decoded, Processor.execute, Processor.executeFixed, lowest]
    exact cycle_eq_follow stalled (by decide)
  stores word key least := by
    have decoded : machine.processor.opcode.decode = .awaitKey x :=
      Opcode.decode_eq_iff.mpr ((Opcode.family_kk_x_iff _ 0xF x 0x0A).mpr word)
    have lowest := (machine.processor.keypad.lowest?_iff key).mpr least
    simp only [cycle, decoded, Processor.execute, Processor.executeFixed, lowest]
    rfl

/-- Of the two instructions that ask whether a key is down, exactly one skips. -/
theorem exactly_one_skips {one other : Machine}
    (keypad : other.processor.keypad = one.processor.keypad)
    (register : other.processor.register x = one.processor.register x)
    (word : one.processor.opcode.word.toNat = 0xE09E + 0x100 * x.val)
    (other_word : other.processor.opcode.word.toNat = 0xE0A1 + 0x100 * x.val) :
    Xor (one.cycle.2 = .skip) (other.cycle.2 = .skip) := by
  rw [(one.readsKeys x).skipIfPressed word, (other.readsKeys x).skipUnlessPressed other_word,
    keypad, register]
  dsimp only
  split <;> simp [Xor]

end Machine

/-- A keypad behaves as a set of keys.  However it is used from the start on, it answers as the set
does that is used in the same way, and represents that set in the end.  On every machine the
instructions for keys read the keypad as the set that it represents, and exactly one of the two that
skip does so, whatever number their register holds. -/
theorem Keypad.behaves_as_set :
    (∀ requests : List Request,
      let used := Request.askAll Request.ask .empty requests
      let model := Request.askAll Request.askSet ∅ requests
      used.2 = model.2 ∧ used.1.Represents model.1) ∧
    (∀ (machine : Machine) (x : Register),
      machine.processor.keypad.Represents machine.processor.keypad.keys ∧
        machine.ReadsKeys machine.processor.keypad.keys x) ∧
    ∀ (one other : Machine) (x : Register),
      other.processor.keypad = one.processor.keypad →
      other.processor.register x = one.processor.register x →
      one.processor.opcode.word.toNat = 0xE09E + 0x100 * x.val →
      other.processor.opcode.word.toNat = 0xE0A1 + 0x100 * x.val →
      Xor (one.cycle.2 = .skip) (other.cycle.2 = .skip) := by
  refine ⟨fun requests => ?_, fun machine x => ⟨represents_keys _, machine.readsKeys x⟩, ?_⟩
  · have law := askAll_keys .empty requests
    rw [(keys_eq_empty_iff _).mpr rfl] at law
    rw [law]
    exact ⟨rfl, represents_keys _⟩
  · intro one other x keypad register word other_word
    exact Machine.exactly_one_skips keypad register word other_word

/-- One of the two instructions skips also if the register holds the number of no key. -/
theorem Keypad.behaves_as_set_beyond :
    let one := ((Machine.create 0 1 0).load #[0xE3, 0x9E] 0).pokeRegister 3 200
    let other := ((Machine.create 0 1 0).load #[0xE3, 0xA1] 0).pokeRegister 3 200
    one.processor.register 3 = 200 ∧ Xor (one.cycle.2 = .skip) (other.cycle.2 = .skip) := by
  intro one other
  have word (low : UInt8) :
      ((Machine.create 0 1 0).load #[0xE3, low] 0).processor.opcode = .ofBytes 0xE3 low :=
    Machine.opcode_of_loaded (Machine.create 0 1 0) #[0xE3, low] 0 0 rfl rfl (by simp) (by simp)
  have skips : one.processor.opcode.word.toNat = 0xE09E + 0x100 * (3 : Register).val :=
    congrArg (fun op => op.word.toNat) (word 0x9E)
  have other_skips : other.processor.opcode.word.toNat = 0xE0A1 + 0x100 * (3 : Register).val :=
    congrArg (fun op => op.word.toNat) (word 0xA1)
  have keypad : one.processor.keypad = .empty := rfl
  have other_keypad : other.processor.keypad = .empty := rfl
  have register : one.processor.register 3 = 200 := rfl
  have other_register : other.processor.register 3 = 200 := rfl
  exact ⟨register, behaves_as_set.2.2 one other 3 (other_keypad.trans keypad.symm)
    (other_register.trans register.symm) skips other_skips⟩

end Chip8
