import CyclicDma.Instruction.Decoding
import CyclicDma.Board.Step
import CyclicDma.Proofs.Instruction.RoundTrip
import CyclicDma.Proofs.Instruction.Disassembly
import CyclicDma.Proofs.Microcode.Thread
import CyclicDma.Proofs.Attempt
import CyclicDma.Proofs.BitField
import CyclicDma.Proofs.Board.Periods
import CyclicDma.Proofs.Board.Ring
import CyclicDma.Proofs.Board.Slabs
import CyclicDma.Proofs.Board.References
import CyclicDma.Proofs.Board.Masking
import CyclicDma.Proofs.Board.Calls
import CyclicDma.Proofs.Board.Wakers
import CyclicDma.Proofs.Board.Retries
import CyclicDma.Proofs.Board.Registrations
import CyclicDma.Proofs.Board.Vacancy
import CyclicDma.Proofs.Board.Starting
import CyclicDma.Proofs.Board.Confinement
import CyclicDma.Proofs.Controller.Recovery
import CyclicDma.Proofs.Board.Sessions
import CyclicDma.Proofs.Board.Verbosity
import CyclicDma.Proofs.Controller.Halting
import CyclicDma.Proofs.Controller.Refusals
import CyclicDma.Proofs.Driver.Faults
import CyclicDma.Proofs.Program.Size
import CyclicDma.Proofs.Program.Assembler
import CyclicDma.Proofs.Instruction.Soundness
import CyclicDma.Proofs.ControlWord.Setters
import CyclicDma.Proofs.Driver.Dispatching
import CyclicDma.Proofs.Controller.Limits
import CyclicDma.Proofs.Driver.Timing
import CyclicDma.Proofs.Board.Timing
import CyclicDma.Proofs.Controller.Dawdling
import CyclicDma.Proofs.Board.Programs
