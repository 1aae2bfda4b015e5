import Chip8.ProgramImage
import Chip8.Run
import Chip8.Terminal

/-!
# Sessions

A session is a program run on the terminal with some settings.
-/

namespace Chip8
namespace Session

/-- The machine of a session, loaded and ready. -/
def machine (settings : Settings) (image : ProgramImage) (wallClock : Int) (now : Int) :
    Machine :=
  let seed := settings.machine.seedAt wallClock
  (Machine.create settings.machine.interval seed now).loadImage image now

/-- The records of making and loading the machine of a session. -/
def machineRecords (settings : Settings) (image : ProgramImage) (wallClock : Int) :
    List LogRecord :=
  .seeded (settings.machine.seedAt wallClock) :: Machine.loadImageRecords image

/-- A session about to begin. -/
def begin (settings : Settings) (image : ProgramImage) (screen : Screen) (wallClock : Int)
    (now : Int) : Run Terminal :=
  { Run.begin (machine settings image wallClock now) (Terminal.start settings screen) now with
    records := (machineRecords settings image wallClock).toArray }

/-- The polls that a session can need: one more than its cycles.  A session without a bound on its
cycles is given more polls than can ever be made. -/
def pollBound (settings : Settings) : Nat := settings.maxCycles.getD UInt64.size + 1

/-- A whole session that begins at time zero. -/
def run (settings : Settings) (image : ProgramImage) (device : Device Terminal) (screen : Screen)
    (wallClock : Int) (yield : Nat) : Run Terminal :=
  (begin settings image screen wallClock 0).complete device yield (pollBound settings)

end Session
end Chip8
