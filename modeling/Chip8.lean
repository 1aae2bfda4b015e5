import Chip8.Main
import Chip8.Command
import Chip8.Device.Script
import Chip8.Proofs.Guarded.Agreement
import Chip8.Proofs.Buzzer
import Chip8.Proofs.Footprint
import Chip8.Proofs.Picture.Redraw
import Chip8.Proofs.Arithmetic
import Chip8.Proofs.Transfer
import Chip8.Proofs.RandomStream
import Chip8.Proofs.Trace
import Chip8.Proofs.CallStack.Balance
import Chip8.Proofs.Terminal.Keys
import Chip8.Proofs.Terminal.Stream
import Chip8.Proofs.Throttle
import Chip8.Proofs.Session.Transcript
import Chip8.Proofs.Stepping
import Chip8.Proofs.Time
import Chip8.Proofs.KeyWait
import Chip8.Proofs.Keypad
import Chip8.Proofs.Disassembly
import Chip8.Proofs.Mnemonic
