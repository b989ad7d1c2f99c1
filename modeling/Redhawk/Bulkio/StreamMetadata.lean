import Mathlib.Data.Rat.Defs

/-!
`PrecisionUTCTime` and its addition of seconds, and the `StreamSRI` record with the helpers of
`bulkio_sri_helpers.cpp`. Double precision fields are exact rationals.
-/

namespace Redhawk.Bulkio

structure PrecisionUTCTime where
  tcmode : Int16
  tcstatus : Int16
  toff : ℚ
  twsec : ℚ
  tfsec : ℚ
deriving DecidableEq

namespace PrecisionUTCTime

def wholePart (seconds : ℚ) : ℚ := (seconds.num.tdiv seconds.den : Int)

def fractionPart (seconds : ℚ) : ℚ := seconds - wholePart seconds

def normalize (time : PrecisionUTCTime) : PrecisionUTCTime :=
  let fraction := time.tfsec + fractionPart time.twsec
  let wadj := wholePart fraction
  let tfsec := fractionPart fraction
  if tfsec < 0 then
    { time with tfsec := tfsec + 1, twsec := wholePart time.twsec + (wadj - 1) }
  else
    { time with tfsec := tfsec, twsec := wholePart time.twsec + wadj }

def add (time : PrecisionUTCTime) (seconds : ℚ) : PrecisionUTCTime :=
  normalize { time with
    tfsec := time.tfsec + fractionPart seconds
    twsec := time.twsec + wholePart seconds }

def notSet : PrecisionUTCTime where
  tcmode := 0
  tcstatus := 0
  toff := 0
  twsec := 0
  tfsec := 0

end PrecisionUTCTime

/-- A CORBA Any. `other` stands for every type `compare_anys` has no case for (sequences,
structures, null), kept as its type code and encoded value. -/
inductive Any where
  | boolean (value : Bool)
  | char (value : UInt8)
  | octet (value : UInt8)
  | ushort (value : UInt16)
  | short (value : Int16)
  | float (value : ℚ)
  | double (value : ℚ)
  | ulong (value : UInt32)
  | long (value : Int32)
  | longlong (value : Int64)
  | ulonglong (value : UInt64)
  | string (value : String)
  | other (typeCode value : String)
deriving DecidableEq

def compareAnys : Any → Any → Bool
  | .boolean a, .boolean b => a == b
  | .char a, .char b => a == b
  | .octet a, .octet b => a == b
  | .ushort a, .ushort b => a == b
  | .short a, .short b => a == b
  | .float a, .float b => a == b
  | .double a, .double b => a == b
  | .ulong a, .ulong b => a == b
  | .long a, .long b => a == b
  | .longlong a, .longlong b => a == b
  | .ulonglong a, .ulonglong b => a == b
  | .string a, .string b => a == b
  | _, _ => false

structure DataType where
  id : String
  value : Any
deriving DecidableEq

structure StreamSRI where
  hversion : Int32
  xstart : ℚ
  xdelta : ℚ
  xunits : Int16
  subsize : Int32
  ystart : ℚ
  ydelta : ℚ
  yunits : Int16
  mode : Int16
  streamID : String
  blocking : Bool
  keywords : List DataType
deriving DecidableEq

def StreamSRI.complex (sri : StreamSRI) : Bool := sri.mode != 0

namespace Sri

def compareKeywords (lhs rhs : List DataType) : Bool :=
  lhs.length == rhs.length &&
    (lhs.zip rhs).all fun (left, right) => left.id == right.id && compareAnys left.value right.value

def DefaultComparator (first second : StreamSRI) : Bool :=
  first.hversion == second.hversion &&
  first.xstart == second.xstart &&
  first.xdelta == second.xdelta &&
  first.xunits == second.xunits &&
  first.subsize == second.subsize &&
  first.ystart == second.ystart &&
  first.ydelta == second.ydelta &&
  first.yunits == second.yunits &&
  first.mode == second.mode &&
  first.blocking == second.blocking &&
  first.streamID == second.streamID &&
  compareKeywords first.keywords second.keywords

abbrev Flags := BitVec 32

def NONE : Flags := 0
def HVERSION : Flags := 1 <<< 0
def XSTART : Flags := 1 <<< 1
def XDELTA : Flags := 1 <<< 2
def XUNITS : Flags := 1 <<< 3
def SUBSIZE : Flags := 1 <<< 4
def YSTART : Flags := 1 <<< 5
def YDELTA : Flags := 1 <<< 6
def YUNITS : Flags := 1 <<< 7
def MODE : Flags := 1 <<< 8
def STREAMID : Flags := 1 <<< 9
def BLOCKING : Flags := 1 <<< 10
def KEYWORDS : Flags := 1 <<< 11

def flagIf (differs : Bool) (flag : Flags) : Flags := if differs then flag else NONE

def compareFields (lhs rhs : StreamSRI) : Flags :=
  flagIf (lhs.hversion != rhs.hversion) HVERSION |||
  flagIf (lhs.xstart != rhs.xstart) XSTART |||
  flagIf (lhs.xdelta != rhs.xdelta) XDELTA |||
  flagIf (lhs.xunits != rhs.xunits) XUNITS |||
  flagIf (lhs.subsize != rhs.subsize) SUBSIZE |||
  flagIf (lhs.ystart != rhs.ystart) YSTART |||
  flagIf (lhs.ydelta != rhs.ydelta) YDELTA |||
  flagIf (lhs.yunits != rhs.yunits) YUNITS |||
  flagIf (lhs.mode != rhs.mode) MODE |||
  flagIf (lhs.blocking != rhs.blocking) BLOCKING |||
  flagIf (lhs.streamID != rhs.streamID) STREAMID |||
  flagIf (!compareKeywords lhs.keywords rhs.keywords) KEYWORDS

/-- `bulkio::sri::create` with its default arguments: 1 Hz over time, not blocking. -/
def create (streamID : String) : StreamSRI where
  hversion := 1
  xstart := 0
  xdelta := 1
  xunits := 1
  subsize := 0
  ystart := 0
  ydelta := 0
  yunits := 0
  mode := 0
  streamID := streamID
  blocking := false
  keywords := []

end Sri

end Redhawk.Bulkio
