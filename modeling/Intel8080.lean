import Intel8080.Main
import Intel8080.Ports.Recorded
import Intel8080.Ports.Scripted
import Intel8080.Proofs.Machine.Terminal
import Intel8080.Proofs.Effect.Writes
import Intel8080.Proofs.Stack.Matching
import Intel8080.Proofs.Interrupt.Accounting
import Intel8080.Proofs.Interrupt.Transparency
import Intel8080.Proofs.Run.Composition
import Intel8080.Proofs.Run.Report
import Intel8080.Proofs.Features.Extension
import Intel8080.Proofs.Arithmetic.Decimal
import Intel8080.Proofs.Arithmetic.Operations
import Intel8080.Proofs.Disassembly.Agreement
import Intel8080.Proofs.Disassembly.Partition
import Intel8080.Proofs.Disassembly.StraightLine
import Intel8080.Proofs.Effect.Flags
import Intel8080.Proofs.Effect.Reads
import Intel8080.Proofs.Listing.Faithful
import Intel8080.Proofs.Ports.Traffic
import Intel8080.Proofs.Features.Disabled
import Intel8080.Proofs.Session.Outcome
import Intel8080.Proofs.Arithmetic.Binary
import Intel8080.Proofs.Effect.Control
import Intel8080.Proofs.Effect.Registers
import Intel8080.Proofs.Machine.Loading
import Intel8080.Proofs.Opcode.SelfCheck
import Intel8080.Proofs.Address.Grammar
import Intel8080.Proofs.Features.Lists
import Intel8080.Proofs.Programs.BlockCopy
import Intel8080.Proofs.Arithmetic.PairSum
import Intel8080.Proofs.Arithmetic.Counting
import Intel8080.Proofs.Arithmetic.Rotations
import Intel8080.Proofs.Listing.Assembly
import Intel8080.Proofs.RegisterDump.Lossless
import Intel8080.Proofs.Log.Setting
import Intel8080.Proofs.Processor.Transfers
import Intel8080.Proofs.Processor.Views
