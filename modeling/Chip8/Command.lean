import Chip8.Configuration
import Chip8.Session

/-!
# The command line

The command runs a program or lists it.  Settings come from the file that an environment variable
names, or else from a file in the working directory if there is one.
-/

namespace Chip8

/-- A failure of the command. -/
inductive CommandError where
  /-- The machine or its loader failed. -/
  | machine (cause : Failure)
  /-- The configuration could not be read. -/
  | io (cause : IoError)
  /-- The configuration has no meaning. -/
  | configuration (cause : ConfigurationError)
deriving DecidableEq, Repr

namespace IoError

/-- A refusal in full, as the command reports it. -/
def report : IoError → String
  | notFound => systemReport 2 "NotFound" "No such file or directory"
  | notADirectory => systemReport 20 "NotADirectory" "Not a directory"
  | isADirectory => systemReport 21 "IsADirectory" "Is a directory"
  | nameTooLong => systemReport 36 "InvalidFilename" "File name too long"
  | nulInName => messageReport "InvalidInput" "file name contained an unexpected NUL byte"
  | invalidText => messageReport "InvalidData" "stream did not contain valid UTF-8"
  | other message => messageReport "Other" message
where
  /-- A refusal that the system numbers. -/
  systemReport (code : Nat) (kind message : String) : String :=
    "Os \x7b code: " ++ toString code ++ ", kind: " ++ kind ++ ", message: " ++
      Text.Quoted.render message ++ " \x7d"
  /-- A refusal in words. -/
  messageReport (kind message : String) : String :=
    "Error \x7b kind: " ++ kind ++ ", message: " ++ Text.Quoted.render message ++ " \x7d"

end IoError

namespace Failure

/-- A failure in full, as the command reports it. -/
def report : Failure → String
  | stopped fault => "Runtime(" ++ Text.Quoted.render fault.message ++ ")"
  | programTooLarge => "LargeProgram"
  | font reason => "Font(" ++ Text.Quoted.render reason ++ ")"
  | file cause => "Io(" ++ cause.report ++ ")"
  | sinkFull => "Fmt(Error)"

end Failure

namespace CommandError

/-- The wording of a failure. -/
def message (error : CommandError) : String :=
  "application error: " ++
    match error with
    | machine cause => cause.message
    | io cause => cause.message
    | configuration cause => "invalid configuration: " ++ cause.message

/-- A failure in full, as the command reports it. -/
def report (error : CommandError) : String :=
  let kind := match error with
    | machine cause => "Chip8(" ++ cause.report ++ ")"
    | io cause => "Io(" ++ cause.report ++ ")"
    | configuration cause => "Config(Error(" ++ Text.Quoted.render cause.message ++ "))"
  "AppError \x7b kind: " ++ kind ++ " \x7d"

end CommandError

/-- What the command is asked to do. -/
inductive Command where
  /-- Run the program in a file. -/
  | run (path : String)
  /-- List the program in a file. -/
  | list (path : String)
deriving DecidableEq, Repr

/-- How the command ends. -/
structure Outcome where
  /-- Exit code. -/
  code : UInt32
  /-- Text written to the output. -/
  output : String
  /-- Text written to the error output. -/
  diagnostics : String
deriving DecidableEq, Repr

namespace Command

/-- Version of the machine. -/
def version : String := "0.3.0"

/-- How the command is used. -/
def usage : String :=
  "Chip8 v" ++ version ++ "\n\nusage: chip8 CMD FILE\n\ncommands:\n" ++
  "    run     Run the target ROM file\n" ++
  "    dis     Disassemble the target ROM into readable assembly\n\n" ++
  "configuration:\n" ++
  "    Read from the file named by CHIP8_CONFIG, or chip8.yaml\n" ++
  "    in the working directory.\n\n" ++
  "examples:\n    chip8 run breakout.rom\n    chip8 dis breakout.rom\n\n"

/-- The exit code of wrong usage. -/
def usageCode : UInt32 := 64

/-- The environment variable that names a configuration file. -/
def configurationVariable : String := "CHIP8_CONFIG"

/-- The configuration file in the working directory. -/
def configurationFile : String := "chip8.yaml"

/-- What arguments ask for.  Further arguments count for nothing. -/
def ofArguments? : List String → Option Command
  | "run" :: path :: _ => some (run path)
  | "dis" :: path :: _ => some (list path)
  | _ => none

/-- The configuration file to read: the one that the environment names, else the one in the
working directory if it is there. -/
def configurationPath? (named : Option String) (isFile : String → Bool) : Option String :=
  match named with
  | some path => some path
  | none => if isFile configurationFile then some configurationFile else none

/-- The settings in the contents of a configuration file. -/
def settingsOfContents (contents : Except IoError ByteArray) : Except CommandError Settings :=
  match contents with
  | .error cause => .error (.io cause)
  | .ok bytes =>
      match String.fromUTF8? bytes with
      | none => .error (.io .invalidText)
      | some text => (Settings.ofText text).mapError .configuration

/-- The settings that apply in a working directory. -/
def loadSettings (tree : FileTree) (named : Option String) : Except CommandError Settings :=
  match configurationPath? named tree.isFile with
  | none => .ok {}
  | some path =>
      settingsOfContents ((tree.read path).bind fun contents =>
        contents.all.map fun bytes => ⟨bytes⟩)

/-- The listing of a program image. -/
def listing (image : ProgramImage) : Except Failure String :=
  let pass := ({ program := image.data.toList } : Disassembler).pass {}
  pass.result.map fun _ => pass.sink.written

/-- How the command ends that has written some output and then fails or does not. -/
def outcome (output : String) (result : Except CommandError Unit) : Outcome :=
  match result with
  | .ok () => ⟨0, output, ""⟩
  | .error error => ⟨1, output, "Error: " ++ error.report ++ "\n"⟩

/-- How the command ends that was not used rightly. -/
def wrongUsage : Outcome := ⟨usageCode, usage, ""⟩

/-- Run the program in a file. -/
def runFile (tree : FileTree) (named : Option String) (device : Device Terminal)
    (wallClock : Int) (yield : Nat) (path : String) : Outcome :=
  match loadSettings tree named with
  | .error error => outcome "" (.error error)
  | .ok settings =>
      match ProgramImage.ofFile path (tree.read path) with
      | .error error => outcome "" (.error (.machine error))
      | .ok image =>
          let session := Session.run settings image device {} wallClock yield
          let result := session.result.getD (.ok ())
          outcome session.device.screen.written
            (result.mapError fun fault => .machine (.stopped fault))

/-- List the program in a file. -/
def listFile (tree : FileTree) (path : String) : Outcome :=
  match ProgramImage.ofFile path (tree.read path) >>= listing with
  | .error error => outcome "" (.error (.machine error))
  | .ok text => outcome text (.ok ())

/-- Execute a command line in a working directory. -/
def execute (tree : FileTree) (named : Option String) (device : Device Terminal)
    (wallClock : Int) (yield : Nat) (arguments : List String) : Outcome :=
  match ofArguments? arguments with
  | none => wrongUsage
  | some (run path) => runFile tree named device wallClock yield path
  | some (list path) => listFile tree path

end Command
end Chip8
