import RealMode.WordMap
import RealMode.Fault
import RealMode.Registers
import RealMode.Instruction.Decode
import RealMode.Memory
import RealMode.Processor
import RealMode.Timer
import RealMode.Clock
import RealMode.Text.Capital
import RealMode.Dos.Content
import RealMode.Dos.Error
import RealMode.Dos.FileName
import RealMode.Dos.Wildcard
import RealMode.Dos.NameTable
import RealMode.Dos.Disk
import RealMode.Dos.FileSystem
import RealMode.Dos.Services
import RealMode.Bios
import RealMode.Pc
import RealMode.NativeModule.Table
import RealMode.Run
import RealMode.Image
import RealMode.Program
import RealMode.Main
import RealMode.Proofs.DecodeCache
import RealMode.Proofs.Atomicity
import RealMode.Proofs.CheckedReading
import RealMode.Proofs.Addresses
import RealMode.Proofs.NestedRuns
import RealMode.Proofs.StackWords
import RealMode.Proofs.Operands
import RealMode.Proofs.FarCalls
import RealMode.Proofs.FileOperations
import RealMode.Proofs.HostPaths
import RealMode.Proofs.LossyText
import RealMode.Proofs.KnownNames
import RealMode.Proofs.RootDirectory
import RealMode.Proofs.SearchRecords
import RealMode.Proofs.FileServices
import RealMode.Proofs.HandleTable
import RealMode.Proofs.FileChunks
import RealMode.Proofs.NameHistory
import RealMode.Proofs.FreshNames
import RealMode.Proofs.NameMapping
import RealMode.Proofs.DirectoryListing
import RealMode.Proofs.LegibleNames
import RealMode.Proofs.Searches
import RealMode.Proofs.ShownNames
import RealMode.Proofs.Allocations
import RealMode.Proofs.FatalServices
import RealMode.Proofs.TimerReads
import RealMode.Proofs.PortOwnership
import RealMode.Proofs.Interrupts
import RealMode.Proofs.ServiceFrames
import RealMode.Proofs.Reruns
import RealMode.Proofs.Variables
import RealMode.Proofs.TransferArea
import RealMode.Proofs.CallingConvention
import RealMode.Proofs.Places
import RealMode.Proofs.LimbArithmetic
import RealMode.Proofs.RepeatedShifts
import RealMode.Proofs.ConditionalJumps
import RealMode.Proofs.DoubleNumbers
import RealMode.Proofs.ExactProducts
import RealMode.Proofs.BlockCopies
import RealMode.Proofs.RepeatedCompares
import RealMode.Proofs.StackPairs
import RealMode.Proofs.FlagFrames
import RealMode.Proofs.ForeignForms
import RealMode.Proofs.ImageBounds
import RealMode.Proofs.PathPrefixes
import RealMode.Proofs.EnvironmentBlocks
import RealMode.Proofs.ByteOverlays
import RealMode.Proofs.WildcardGrammar
import RealMode.Proofs.NameAssignment
