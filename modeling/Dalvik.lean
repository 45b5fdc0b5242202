import Dalvik.Benchmark.Errors
import Dalvik.Benchmark.Loops
import Dalvik.Benchmark.Objects
import Dalvik.Emulator.Statistics
import Dalvik.Instruction.Mnemonic
import Dalvik.Main
import Dalvik.Proofs.Blocks
import Dalvik.Proofs.Table
import Dalvik.Proofs.DeclaredTables
import Dalvik.Proofs.Actions
import Dalvik.Proofs.SelfContained
import Dalvik.Proofs.Precision
import Dalvik.Proofs.SharedRuns
import Dalvik.Proofs.Steps
import Dalvik.Proofs.GuardedBlocks
import Dalvik.Proofs.ProgramCounter
import Dalvik.Proofs.Matching
import Dalvik.Proofs.CatchDirective
import Dalvik.Proofs.Expressions
import Dalvik.Proofs.GuardedRange
import Dalvik.Proofs.BlockDirectives
import Dalvik.Proofs.NestedBlocks
import Dalvik.Proofs.InstructionFrame
import Dalvik.Proofs.ConstantData
import Dalvik.Proofs.LayoutRuns
import Dalvik.Proofs.Operands
import Dalvik.Proofs.Mnemonics
import Dalvik.Proofs.Printing
import Dalvik.Proofs.Dispatch
import Dalvik.Proofs.ToldExpressions
import Dalvik.Proofs.TameValues
import Dalvik.Proofs.PlainValues
import Dalvik.Proofs.TameInstructions
import Dalvik.Proofs.ContainedFaults
import Dalvik.Proofs.LiteralForms
import Dalvik.Proofs.ExactIntegers
import Dalvik.Proofs.Switches
import Dalvik.Proofs.PendingFaults
import Dalvik.Proofs.Narrowing
import Dalvik.Proofs.Divisions
import Dalvik.Proofs.TextOperands
import Dalvik.Proofs.Characters
import Dalvik.Proofs.ClassNames
import Dalvik.Proofs.Captures
import Dalvik.Proofs.StringLines
import Dalvik.Proofs.Reports
import Dalvik.Proofs.ArrayAccess
import Dalvik.Proofs.ArrayWrites
import Dalvik.Proofs.MethodCalls
import Dalvik.Proofs.TextRanges
import Dalvik.Proofs.ParsedNumerals
import Dalvik.Proofs.Builders
import Dalvik.Proofs.CharArrays
import Dalvik.Proofs.ThreeRegisters
import Dalvik.Proofs.PlacedStores
import Dalvik.Proofs.RepeatedScan
import Dalvik.Proofs.ForwardPrograms
import Dalvik.Proofs.TextFiles
import Dalvik.Proofs.Tracing
import Dalvik.Proofs.Branches
import Dalvik.Proofs.IntegerSpellings
