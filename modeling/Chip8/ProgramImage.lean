import Chip8.FileTree
import Chip8.Machine

/-!
# Program images

A program with a name.  Read from a file, an image that does not fit in memory is refused; made
from bytes, it may have any length and is cut when it is loaded.
-/

namespace Chip8

/-- A program image. -/
structure ProgramImage where
  name : String
  data : Array UInt8
deriving DecidableEq, Repr

namespace ProgramImage

/-- The image in a file.  At most one byte more than fits is read. -/
def ofFile (path : String) (contents : Except IoError FileContents) : Except Failure ProgramImage :=
  match contents with
  | .error cause => .error (.file cause)
  | .ok contents =>
      let data := contents.take (Machine.programCapacity + 1)
      if Machine.programCapacity < data.size then .error .programTooLarge
      else .ok ⟨(FileTree.fileName? path).getD path, data⟩

end ProgramImage

namespace Machine

/-- Load a program image. -/
def loadImage (machine : Machine) (image : ProgramImage) (now : Int) : Machine :=
  machine.load image.data now

/-- The records of loading a program image. -/
def loadImageRecords (image : ProgramImage) : List LogRecord :=
  .loading image.name :: loadRecords image.data

end Machine
end Chip8
