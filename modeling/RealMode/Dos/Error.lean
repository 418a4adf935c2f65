/-!
# DOS errors

Failures that a program sees: Carry is set and AX holds the code.
-/

namespace RealMode.Dos

inductive Error where
  | invalidFunction
  | fileNotFound
  | pathNotFound
  | noFileHandlesLeft
  | accessDenied
  | invalidFileHandle
  | insufficientMemory
  | invalidFileAccessMode
  | noMoreFiles
  | fileAlreadyExists
deriving DecidableEq, Inhabited

def Error.code : Error → UInt16
  | invalidFunction => 0x01
  | fileNotFound => 0x02
  | pathNotFound => 0x03
  | noFileHandlesLeft => 0x04
  | accessDenied => 0x05
  | invalidFileHandle => 0x06
  | insufficientMemory => 0x08
  | invalidFileAccessMode => 0x0c
  | noMoreFiles => 0x12
  | fileAlreadyExists => 0x50

end RealMode.Dos
