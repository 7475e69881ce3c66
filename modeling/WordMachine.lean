import WordMachine.Builtin.Kit
import WordMachine.CommandLine.Start
import WordMachine.Image
import WordMachine.Machine.Run
import WordMachine.Main
import WordMachine.Proofs.ArithmeticStep
import WordMachine.Proofs.ErrorAtomicity
import WordMachine.Proofs.Footprint
import WordMachine.Proofs.StackGuard
import WordMachine.Proofs.StackSize
import WordMachine.Proofs.UnreadLocations
import WordMachine.Proofs.Calls
import WordMachine.Proofs.FlushDiscipline
import WordMachine.Proofs.InputFidelity
import WordMachine.Proofs.OutputFidelity
import WordMachine.Proofs.Replies
import WordMachine.Proofs.Interruptions
import WordMachine.Proofs.Lifecycle
import WordMachine.Proofs.ZeroFlag
import WordMachine.Proofs.FaultCauses
import WordMachine.Proofs.ImageCodec
import WordMachine.Proofs.InstructionLayout
import WordMachine.Proofs.Runs
import WordMachine.Proofs.Frame
import WordMachine.Proofs.AddressSpace
import WordMachine.Proofs.Printing
import WordMachine.Proofs.Sessions
import WordMachine.Proofs.Branches
import WordMachine.Proofs.InstructionLength
import WordMachine.Proofs.Moves
import WordMachine.Proofs.BuiltinCalls
import WordMachine.Proofs.Countdown
import WordMachine.Proofs.TableHistory
import WordMachine.Proofs.OperandChecks
import WordMachine.Proofs.MemoryHistory
import WordMachine.Proofs.UnusedFields
import WordMachine.Proofs.ExecutionLog
import WordMachine.Proofs.LogLines
