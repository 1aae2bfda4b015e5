import Chip8.Opcode
import Chip8.Text.Quoted

/-!
# Keys

The sixteen keys of the hexadecimal keypad, the reading of a key from a byte or from a value in a
configuration, and the wording of what goes wrong there.
-/

namespace Chip8

/-- A key of the keypad, by its number. -/
abbrev Key := Fin 16

/-- A value found where a key is wanted. -/
inductive Datum where
  | integer (value : Int)
  | text (value : String)
  | boolean (value : Bool)
  | unit
deriving DecidableEq, Repr

namespace Datum

/-- The value as named in a message. -/
def describe : Datum → String
  | integer value => "integer \x60" ++ toString value ++ "\x60"
  | text value => "string " ++ Text.Quoted.render value
  | boolean true => "boolean \x60true\x60"
  | boolean false => "boolean \x60false\x60"
  | unit => "unit value"

end Datum

/-- Why a value is not a key. -/
inductive KeyError where
  /-- An integer that numbers no key. -/
  | outOfRange (value : Int)
  /-- A value that is not an integer. -/
  | notAnInteger (found : Datum)
deriving DecidableEq, Repr

namespace Key

/-- The range of key numbers in words. -/
def rangeMessage : String := "keycode must be in range 0 <= keycode < 16"

/-- The key numbered by a byte. -/
def ofByte? (byte : UInt8) : Option Key :=
  if inRange : byte.toNat < 16 then some ⟨byte.toNat, inRange⟩ else none

/-- The key that a value denotes: only an integer from 0 to 15 denotes one. -/
def read : Datum → Except KeyError Key
  | .integer value =>
      if inRange : 0 ≤ value ∧ value < 16 then .ok ⟨value.toNat, by omega⟩
      else .error (.outOfRange value)
  | found => .error (.notAnInteger found)

/-- The key's number as a byte. -/
def toByte (key : Key) : UInt8 := UInt8.ofNat key.val

theorem toNat_toByte (key : Key) : key.toByte.toNat = key.val :=
  UInt8.toNat_ofNat_of_lt (Nat.lt_trans key.isLt (by decide))

/-- The short name of a key: `k` and its number as one lower-case hexadecimal digit. -/
def name (key : Key) : String := "k" ++ String.ofList (Nat.toDigits 16 key.val)

end Key

namespace KeyError

/-- The wording of a failed reading. -/
def message : KeyError → String
  | outOfRange value =>
      "invalid value: " ++ (Datum.integer value).describe ++ ", expected " ++ Key.rangeMessage
  | notAnInteger found =>
      "invalid type: " ++ found.describe ++ ", expected an integer key code between 0 and 15"

end KeyError
end Chip8
