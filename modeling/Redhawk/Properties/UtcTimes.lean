import Redhawk.Library.Calendar
import Redhawk.Library.Decimals
import Redhawk.Properties.TextConversions

/-!
`CF::UTCTime` (`redhawk::time::utils` of `prop_helpers.cpp` and the operators of
`PropertyInterface.cpp`) over exact rational seconds, with the process in UTC.
-/

namespace Redhawk.Properties

open Library

structure UTCTime where
  tcstatus : Int
  twsec : ℚ
  tfsec : ℚ
deriving DecidableEq

structure Tm where
  tm_year : Int
  tm_mon : Int
  tm_mday : Int
  tm_hour : Int
  tm_min : Int
  tm_sec : Int
deriving DecidableEq

def gmtime (seconds : Int) : Tm :=
  let time := civilTime seconds
  { tm_year := time.year - 1900, tm_mon := time.month - 1, tm_mday := time.day
    tm_hour := time.hour, tm_min := time.minute, tm_sec := time.second }

/-- In UTC, where `timezone` is zero. -/
def mktime (time : Tm) : Int :=
  secondsOf { year := time.tm_year + 1900, month := time.tm_mon + 1, day := time.tm_mday
              hour := time.tm_hour, minute := time.tm_min, second := time.tm_sec }

theorem mktime_gmtime (seconds : Int) : mktime (gmtime seconds) = seconds := by
  simp only [mktime, gmtime, Int.sub_add_cancel]
  exact secondsOf_civilTime seconds

namespace UTCTime

def notSet : UTCTime := { tcstatus := 0, twsec := 0, tfsec := 0 }

def normalize (time : UTCTime) : UTCTime :=
  let (fadj, twsec) := modf time.twsec
  let (tfsec, wadj) := modf (time.tfsec + fadj)
  -- A negative fraction borrows a second from the whole ones.
  if tfsec < 0 then { time with twsec := twsec + (wadj - 1), tfsec := tfsec + 1 }
  else { time with twsec := twsec + wadj, tfsec := tfsec }

def add (lhs : UTCTime) (seconds : ℚ) : UTCTime :=
  let (fraction, whole) := modf seconds
  normalize { lhs with twsec := lhs.twsec + whole, tfsec := lhs.tfsec + fraction }

def sub (lhs : UTCTime) (seconds : ℚ) : UTCTime :=
  let (fraction, whole) := modf seconds
  normalize { lhs with twsec := lhs.twsec - whole, tfsec := lhs.tfsec - fraction }

def difference (lhs rhs : UTCTime) : ℚ := lhs.twsec - rhs.twsec + (lhs.tfsec - rhs.tfsec)

def toString (utc : UTCTime) : Text :=
  let time := gmtime (truncate utc.twsec)
  let usec := roundHalfAway (utc.tfsec * 1000000)
  printInteger (1900 + time.tm_year) ++ ':' :: (padded 2 (time.tm_mon + 1) ++ ':' ::
    (padded 2 time.tm_mday ++ ':' :: ':' :: (padded 2 time.tm_hour ++ ':' ::
      (padded 2 time.tm_min ++ ':' :: (padded 2 time.tm_sec ++ '.' :: padded 6 usec)))))

end UTCTime

def scanInt (text : Text) : Option (Int × Text) :=
  let (number, rest) := readInteger IntegerType.longlong.low IntegerType.longlong.high 10 text
  if rest.length < text.length then some (IntegerType.long.narrow number, rest) else none

def scanLiteral (c : Char) : Text → Option Text
  | [] => none
  | first :: rest => if first = c then some rest else none

structure ScannedTime where
  year : Int
  month : Int
  day : Int
  hour : Int
  minute : Int
  second : ℚ

def scanTime (formatted : Text) : Option ScannedTime :=
  (scanInt formatted).bind fun (year, text) =>
  (scanLiteral ':' text).bind fun text =>
  (scanInt text).bind fun (month, text) =>
  (scanLiteral ':' text).bind fun text =>
  (scanInt text).bind fun (day, text) =>
  (scanLiteral ':' text).bind fun text =>
  (scanLiteral ':' text).bind fun text =>
  (scanInt text).bind fun (hour, text) =>
  (scanLiteral ':' text).bind fun text =>
  (scanInt text).bind fun (minute, text) =>
  (scanLiteral ':' text).bind fun text =>
  (readRational text).map fun (second, _) => ⟨year, month, day, hour, minute, second⟩

def UTCTime.convert (now : UTCTime) (formatted : Text) : UTCTime :=
  if formatted = "now".toList then now
  else
    match scanTime (cStr formatted) with
    | none => notSet
    | some scanned =>
      let time : Tm :=
        { tm_year := IntegerType.long.narrow (scanned.year - 1900)
          tm_mon := IntegerType.long.narrow (scanned.month - 1)
          tm_mday := scanned.day, tm_hour := scanned.hour, tm_min := scanned.minute
          tm_sec := truncate scanned.second }
      { tcstatus := 1, twsec := mktime time, tfsec := scanned.second - truncate scanned.second }

end Redhawk.Properties
