import Chip8.Command
import Std.Time.DateTime.Timestamp

/-!
# The executable

The command line in the real world: files, the environment, standard output and the system's
clocks.  What to read, what it means and how every cycle goes is decided elsewhere; here the
answers are fetched and the results written.  Frames are written as they are drawn, so that a
program may run for ever.
-/

namespace Chip8
namespace Console

/-- The cause of a failed file operation. -/
def causeOf : IO.Error → IoError
  | .noFileOrDirectory .. => .notFound
  | .inappropriateType _ 20 _ => .notADirectory
  | .inappropriateType _ 21 _ => .isADirectory
  | .invalidArgument _ 36 _ => .nameTooLong
  | error => .other (toString error)

/-- What an operation answers, or the cause of its failure. -/
def attempt {α : Type} (operation : IO α) : IO (Except IoError α) := do
  try return .ok (← operation)
  catch error => return .error (causeOf error)

/-- Whether there is an ordinary configuration file in the working directory. -/
def hasConfigurationFile : IO Bool := do
  let path := (← IO.currentDir) / Command.configurationFile
  match (← attempt path.metadata) with
  | .ok found => return found.type == .file
  | .error _ => return false

/-- The settings that apply in the working directory. -/
def loadSettings : IO (Except CommandError Settings) := do
  let named ← IO.getEnv Command.configurationVariable
  let present ← hasConfigurationFile
  match Command.configurationPath? named fun _ => present with
  | none => return .ok {}
  | some path => return Command.settingsOfContents (← attempt (IO.FS.readBinFile path))

/-- The program in a file, of which no more is read than is needed. -/
def loadImage (path : String) : IO (Except Failure ProgramImage) := do
  let contents ← attempt do
    let handle ← IO.FS.Handle.mk path .read
    handle.read (USize.ofNat (Machine.programCapacity + 1))
  return ProgramImage.ofFile path (contents.map fun bytes => .bytes bytes.data)

/-- Nanoseconds since a starting point. -/
def timeSince (origin : Nat) : IO Int := do
  return (← IO.monoNanosNow) - origin

/-- Give time away until a time has come. -/
partial def sleepUntil (origin : Nat) (due : Int) : IO Unit := do
  let remaining := due - (← timeSince origin)
  if 0 < remaining then
    IO.sleep (UInt32.ofNat ((remaining.toNat - 1000000) / 1000000))
    sleepUntil origin due

/-- Go through the cycles of a session, writing what it shows and forgetting its history. -/
partial def play (output : IO.FS.Stream) (origin : Nat) (session : Run Terminal) :
    IO (Except Fault Unit) := do
  let now ← timeSince origin
  let after := { session with now }.iterate Terminal.device 1
  let written := after.device.screen.written
  unless written.isEmpty do
    try
      output.putStr written
      output.flush
    catch _ => pure ()
  match after.result with
  | some result => return result
  | none =>
      sleepUntil origin after.now
      play output origin
        { after with device.screen.written := "", events := #[], records := #[] }

/-- Run the program in a file. -/
def runFile (path : String) : IO Outcome := do
  match (← loadSettings) with
  | .error error => return Command.outcome "" (.error error)
  | .ok settings =>
      match (← loadImage path) with
      | .error failure => return Command.outcome "" (.error (.machine failure))
      | .ok image =>
          let wallClock := (← Std.Time.Timestamp.now).toMillisecondsSinceUnixEpoch.val
          let origin ← IO.monoNanosNow
          let result ← play (← IO.getStdout) origin (Session.begin settings image {} wallClock 0)
          return Command.outcome "" (result.mapError fun fault => .machine (.stopped fault))

/-- List the program in a file. -/
def listFile (path : String) : IO Outcome := do
  match (← loadImage path).bind Command.listing with
  | .error failure => return Command.outcome "" (.error (.machine failure))
  | .ok text => return Command.outcome text (.ok ())

end Console
end Chip8

open Chip8 in
/-- The command line. -/
def main (arguments : List String) : IO UInt32 := do
  let outcome ← match Command.ofArguments? arguments with
    | none => pure Command.wrongUsage
    | some (.run path) => Console.runFile path
    | some (.list path) => Console.listFile path
  IO.print outcome.output
  IO.eprint outcome.diagnostics
  return outcome.code
