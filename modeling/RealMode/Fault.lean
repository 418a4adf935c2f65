import RealMode.FarPtr
import RealMode.Text.Quoted

/-!
# Faults

Everything that can end an instruction or a run. A fault is a cause with the values that describe
it; the wording is in `Fault.message` alone. Errors that a program can see and handle are not
faults, they are DOS error codes.
-/

namespace RealMode

/-- What is wrong with an executable file. -/
inductive ImageDefect where
  | missingField (name : String)
  | badSignature (signature : UInt16)
  | headerPastEnd (start stop : Nat)
  | truncatedRelocations
  | relocationOutside (site : FarPtr)
  | missingSegment (index : Nat)
deriving DecidableEq

def ImageDefect.message : ImageDefect → String
  | missingField name => "failed to read " ++ name ++ ": failed to fill whole buffer"
  | badSignature signature => "bad signature " ++ Text.Hex.word signature
  | headerPastEnd start stop =>
    "header claims " ++ toString start ++ " bytes, load module ends at " ++ toString stop
  | truncatedRelocations => "truncated relocation table: failed to fill whole buffer"
  | relocationOutside site => "relocation " ++ toString site ++ " is outside the load module"
  | missingSegment index => "segment index " ++ toString index ++ " out of range"

/-- Why a segment cannot stand at its ordinal. -/
inductive SegmentDefect where
  | tooLarge
  | kindChanged
  | belowModules
  | reserved
deriving DecidableEq

def SegmentDefect.message : SegmentDefect → String
  | tooLarge => "contents larger than 64KiB"
  | kindChanged => "ordinal holds a segment of a different kind"
  | belowModules => "module segments must be above the dynamic segment range"
  | reserved => "reserved for the halt sentinel"

/-- What the timer does not support. -/
inductive TimerDefect where
  | bcdCounting
  | readBack
  | unreadable
  | unwritable
deriving DecidableEq

def TimerDefect.message : TimerDefect → String
  | bcdCounting => "BCD counting is not supported"
  | readBack => "read-back command is not supported"
  | unreadable => "port can't be read"
  | unwritable => "only the control port can be written"

inductive Fault where
  | segmentNotFound (segment : UInt16)
  | offsetOutOfRange (address : FarPtr) (length : Nat)
  | invalidSegment (segment : UInt16) (defect : SegmentDefect)
  | outOfMemory (requested available : Nat)
  | segmentsExhausted
  | variableNotFound (name : String)
  | invalidInstruction (address : FarPtr)
  | unimplementedOpcode (address : FarPtr) (mnemonic : String)
  | divideError (address : FarPtr)
  | unhandledInterrupt (vector : UInt8)
  | portConflict (first last : UInt16)
  | unhandledPort (port : UInt16)
  | unknownModule (segment : UInt16)
  | duplicateModule (segment : UInt16)
  | unsupportedDosFunction (function : UInt8)
  | unsupportedBiosFunction (vector function : UInt8)
  | invalidTimerAccess (port : UInt16) (defect : TimerDefect)
  | invalidImage (defect : ImageDefect)
  | commandLineTooLong (length : Nat)
  | notLoaded
  | hostFailure (reason : String)
  /-- A file name that runs past the end of the search record. The machine cannot go on. -/
  | searchRecordOverflow (length : Nat)
deriving DecidableEq

namespace Fault

def message : Fault → String
  | segmentNotFound segment => "segment " ++ Text.Hex.word segment ++ " is not mapped"
  | offsetOutOfRange address length =>
    "access of " ++ toString length ++ " bytes at " ++ toString address
      ++ " runs past the end of the segment"
  | invalidSegment segment defect =>
    "invalid segment " ++ Text.Hex.word segment ++ ": " ++ defect.message
  | outOfMemory requested available =>
    "out of variable memory: requested " ++ toString requested ++ " bytes, "
      ++ toString available ++ " available"
  | segmentsExhausted => "no free segment ordinals left"
  | variableNotFound name => "variable " ++ Text.Quoted.quote name ++ " has not been allocated"
  | invalidInstruction address => "invalid instruction at " ++ toString address
  | unimplementedOpcode address mnemonic =>
    "unimplemented opcode " ++ mnemonic ++ " at " ++ toString address
  | divideError address => "divide error at " ++ toString address
  | unhandledInterrupt vector => "no handler registered for interrupt " ++ Text.Hex.byte vector
  | portConflict first last =>
    "I/O ports " ++ Text.Hex.word first ++ "..=" ++ Text.Hex.word last
      ++ " overlap a device that's already mapped"
  | unhandledPort port => "no device registered for I/O port " ++ Text.Hex.word port
  | unknownModule segment =>
    "far call into unknown imported module segment " ++ Text.Hex.word segment
  | duplicateModule segment =>
    "module segment " ++ Text.Hex.word segment ++ " is already registered"
  | unsupportedDosFunction function => "unsupported DOS function AH=" ++ Text.Hex.byte function
  | unsupportedBiosFunction vector function =>
    "unsupported BIOS function INT " ++ Text.Hex.byte vector ++ " AH=" ++ Text.Hex.byte function
  | invalidTimerAccess port defect =>
    "invalid timer request on port 0x" ++ Text.Hex.lower 2 port.toNat ++ ": " ++ defect.message
  | invalidImage defect => "invalid executable image: " ++ defect.message
  | commandLineTooLong length =>
    "command line tail is " ++ toString length ++ " bytes, DOS allows at most 126"
  | notLoaded => "no executable has been loaded"
  | hostFailure reason => reason
  | searchRecordOverflow length =>
    "file name of " ++ toString length ++ " bytes does not fit the search record"

end Fault

end RealMode
