import Redhawk.Properties.UtcTimes

/-!
Which times are read back from their text to the microsecond (`redhawk::time::utils::toString` and
`convert`), and the arithmetic on `CF::UTCTime`.
-/

namespace Redhawk.Properties

open Library IntegerType

namespace UTCTime

def value (time : UTCTime) : ℚ := time.twsec + time.tfsec

structure Normal (time : UTCTime) : Prop where
  whole : ∃ seconds : Int, time.twsec = seconds
  fraction_nonneg : 0 ≤ time.tfsec
  fraction_lt : time.tfsec < 1

structure Represents (result time : UTCTime) (exact : ℚ) : Prop where
  normal : result.Normal
  value_eq : result.value = exact
  tcstatus_eq : result.tcstatus = time.tcstatus

theorem normalize_represents (time : UTCTime) : (normalize time).Represents time time.value := by
  obtain ⟨lower, upper⟩ := modf_bounds (time.tfsec + (modf time.twsec).1)
  have whole := modf_sum time.twsec
  have sum := modf_sum (time.tfsec + (modf time.twsec).1)
  by_cases negative : (modf (time.tfsec + (modf time.twsec).1)).1 < 0
  · have ended : normalize time = { time with
        twsec := (modf time.twsec).2 + ((modf (time.tfsec + (modf time.twsec).1)).2 - 1)
        tfsec := (modf (time.tfsec + (modf time.twsec).1)).1 + 1 } := if_pos negative
    rw [ended]
    refine ⟨⟨⟨(modf time.twsec).2 + ((modf (time.tfsec + (modf time.twsec).1)).2 - 1), ?_⟩, ?_, ?_⟩, ?_, rfl⟩
    · push_cast
      rfl
    · linarith
    · linarith
    · simp only [value]
      linarith
  · have ended : normalize time = { time with
        twsec := (modf time.twsec).2 + (modf (time.tfsec + (modf time.twsec).1)).2
        tfsec := (modf (time.tfsec + (modf time.twsec).1)).1 } := if_neg negative
    rw [ended]
    refine ⟨⟨⟨(modf time.twsec).2 + (modf (time.tfsec + (modf time.twsec).1)).2, ?_⟩, ?_, upper⟩, ?_, rfl⟩
    · push_cast
      rfl
    · linarith
    · simp only [value]
      linarith

theorem add_represents (time : UTCTime) (seconds : ℚ) :
    (time.add seconds).Represents time (time.value + seconds) := by
  have parts := modf_sum seconds
  obtain ⟨normal, same, status⟩ := normalize_represents
    { time with twsec := time.twsec + (modf seconds).2, tfsec := time.tfsec + (modf seconds).1 }
  refine ⟨normal, same.trans ?_, status⟩
  simp only [value]
  linarith

theorem sub_represents (time : UTCTime) (seconds : ℚ) :
    (time.sub seconds).Represents time (time.value - seconds) := by
  have parts := modf_sum seconds
  obtain ⟨normal, same, status⟩ := normalize_represents
    { time with twsec := time.twsec - (modf seconds).2, tfsec := time.tfsec - (modf seconds).1 }
  refine ⟨normal, same.trans ?_, status⟩
  simp only [value]
  linarith

theorem difference_eq (time other : UTCTime) : time.difference other = time.value - other.value := by
  simp only [difference, value]
  ring

structure ExactArithmetic : Prop where
  normalize : ∀ time : UTCTime, time.normalize.Represents time time.value
  add : ∀ (time : UTCTime) (seconds : ℚ), (time.add seconds).Represents time (time.value + seconds)
  sub : ∀ (time : UTCTime) (seconds : ℚ), (time.sub seconds).Represents time (time.value - seconds)
  difference : ∀ time other : UTCTime, time.difference other = time.value - other.value

theorem exactArithmetic : ExactArithmetic :=
  ⟨normalize_represents, add_represents, sub_represents, difference_eq⟩

end UTCTime

section Scanning

variable {value : Int}

theorem scanInt_of_read {text rest : Text}
    (fits : long.low ≤ value ∧ value ≤ long.high) (shorter : text ≠ [])
    (read : readInteger longlong.low longlong.high 10 (text ++ rest) =
      (clamp longlong.low longlong.high value, rest)) :
    scanInt (text ++ rest) = some (value, rest) := by
  have held : clamp longlong.low longlong.high value = value := by
    apply clamp_of_mem <;> simp only [low, high] at * <;> omega
  have length : rest.length < (text ++ rest).length := by
    have := List.length_pos_iff.mpr shorter
    rw [List.length_append]
    omega
  rw [scanInt, read]
  simp only [length, if_true, held, narrow_of_fits _ fits]

theorem scanInt_padded {width : Nat} (positive : 0 ≤ value)
    (fits : value ≤ long.high) {rest : Text} (stops : Stops 10 rest) :
    scanInt (padded width value ++ rest) = some (value, rest) := by
  obtain ⟨number, rfl⟩ := Int.eq_ofNat_of_zero_le positive
  refine scanInt_of_read ⟨?_, fits⟩ (padded_ne_nil width number)
    (readInteger_padded _ _ width number stops)
  simp only [low]
  omega

theorem scanInt_printed (fits : long.low ≤ value ∧ value ≤ long.high) {rest : Text}
    (stops : Stops 10 rest) : scanInt (printInteger value ++ rest) = some (value, rest) :=
  scanInt_of_read fits (printInteger_ne_nil value) (readInteger_printed _ _ value stops)

@[simp] theorem scanLiteral_self (c : Char) (rest : Text) : scanLiteral c (c :: rest) = some rest :=
  if_pos rfl

theorem colon_stops (rest : Text) : Stops 10 (':' :: rest) := stops_cons rfl rest

theorem readRational_padded (whole fraction : Nat) :
    readRational (padded 2 whole ++ '.' :: padded 6 fraction) =
      some ((whole : ℚ) + fraction / 10 ^ (padded 6 fraction).length, []) := by
  rw [readRational_digits (fun _ member => isDigit_of_mem_padded member)
    (fun _ member => isDigit_of_mem_padded member) (padded_ne_nil 2 whole), digitsValue_padded,
    digitsValue_padded]

end Scanning

section Text

theorem mem_toString {utc : UTCTime} {c : Char} (member : c ∈ utc.toString) :
    c = '-' ∨ c = ':' ∨ c = '.' ∨ c.isDigit = true := by
  have printed : ∀ value, c ∈ printInteger value → c = '-' ∨ c = ':' ∨ c = '.' ∨ c.isDigit = true :=
    fun value found => (mem_printInteger found).imp id fun digit => .inr (.inr digit)
  have filled : ∀ width value, c ∈ padded width value → c = '-' ∨ c = ':' ∨ c = '.' ∨ c.isDigit = true := by
    intro width value found
    rcases List.mem_append.mp found with zero | found
    · rw [(List.mem_replicate.mp zero).2]
      decide
    · exact printed value found
  simp only [UTCTime.toString, List.mem_append, List.mem_cons] at member
  rcases member with found | rfl | found | rfl | found | rfl | rfl | found | rfl | found | rfl |
    found | rfl | found
  all_goals first
    | exact printed _ found
    | exact filled _ _ found
    | decide

theorem cStr_toString (utc : UTCTime) : cStr utc.toString = utc.toString :=
  cStr_of_not_mem fun member => by
    rcases mem_toString member with same | same | same | digit
    · exact absurd same (by decide)
    · exact absurd same (by decide)
    · exact absurd same (by decide)
    · exact absurd digit (by decide)

theorem toString_ne_now (utc : UTCTime) : utc.toString ≠ "now".toList := by
  intro same
  have colon : ':' ∈ utc.toString := by simp [UTCTime.toString]
  rw [same] at colon
  exact absurd colon (by decide)

end Text

namespace UTCTime

def Supported (time : UTCTime) : Prop :=
  -2 ^ 31 + 1900 ≤ (civilTime (truncate time.twsec)).year ∧ (civilTime (truncate time.twsec)).year ≤ 2 ^ 31 - 1

variable {time : UTCTime}

theorem Supported.fits (supported : time.Supported) :
    long.low ≤ (civilTime (truncate time.twsec)).year ∧
      (civilTime (truncate time.twsec)).year ≤ long.high := by
  obtain ⟨lower, upper⟩ := supported
  simp only [low, high]
  omega

def usec (time : UTCTime) : Nat := (roundHalfAway (time.tfsec * 1000000)).toNat

theorem usec_eq (nonneg : 0 ≤ time.tfsec) :
    roundHalfAway (time.tfsec * 1000000) = time.usec ∧
      roundHalfAway (time.tfsec * 1000000) = ⌊time.tfsec * 1000000 + 1 / 2⌋ := by
  have scaled : 0 ≤ time.tfsec * 1000000 := by linarith
  have rounded : roundHalfAway (time.tfsec * 1000000) = ⌊time.tfsec * 1000000 + 1 / 2⌋ :=
    if_pos scaled
  have positive : 0 ≤ ⌊time.tfsec * 1000000 + 1 / 2⌋ := Int.floor_nonneg.mpr (by linarith)
  refine ⟨?_, rounded⟩
  rw [usec, rounded, Int.toNat_of_nonneg positive]

theorem scanTime_toString (supported : time.Supported) (nonneg : 0 ≤ time.tfsec) :
    scanTime time.toString =
      some ⟨(civilTime (truncate time.twsec)).year, (civilTime (truncate time.twsec)).month,
        (civilTime (truncate time.twsec)).day, (civilTime (truncate time.twsec)).hour,
        (civilTime (truncate time.twsec)).minute,
        (civilTime (truncate time.twsec)).second + time.usec / 10 ^ (padded 6 time.usec).length⟩ := by
  obtain ⟨months, days, hours, minutes, seconds⟩ := civilTime_ranges (truncate time.twsec)
  have fits : ∀ {value : Int}, value ≤ 60 → value ≤ long.high := fun small =>
    small.trans (by decide)
  have printed : time.toString = printInteger (civilTime (truncate time.twsec)).year ++ ':' ::
      (padded 2 (civilTime (truncate time.twsec)).month ++ ':' ::
        (padded 2 (civilTime (truncate time.twsec)).day ++ ':' :: ':' ::
          (padded 2 (civilTime (truncate time.twsec)).hour ++ ':' ::
            (padded 2 (civilTime (truncate time.twsec)).minute ++ ':' ::
              (padded 2 (civilTime (truncate time.twsec)).second ++ '.' :: padded 6 time.usec))))) := by
    rw [toString, (usec_eq nonneg).1]
    simp [gmtime]
  obtain ⟨second, isSecond⟩ := Int.eq_ofNat_of_zero_le seconds.1
  rw [printed, scanTime, scanInt_printed supported.fits (colon_stops _)]
  -- the month, the day, the hour and the minute
  iterate 4
    simp only [Option.bind_some, scanLiteral_self]
    rw [scanInt_padded (by omega) (fits (by omega)) (colon_stops _)]
  simp only [Option.bind_some, scanLiteral_self]
  rw [isSecond, readRational_padded]
  rfl

theorem convert_toString (now : UTCTime) {seconds : Int}
    (whole : time.twsec = seconds) (supported : time.Supported) (nonneg : 0 ≤ time.tfsec)
    (short : (time.usec : ℚ) / 10 ^ (padded 6 time.usec).length < 1) :
    convert now time.toString = ⟨1, seconds, time.usec / 10 ^ (padded 6 time.usec).length⟩ := by
  have cut : truncate time.twsec = seconds := by rw [whole, truncate_intCast]
  have read := scanTime_toString supported nonneg
  rw [convert, if_neg (toString_ne_now time), cStr_toString, read]
  rw [Supported, cut] at supported
  obtain ⟨months, -, -, -, lower, -⟩ := civilTime_ranges seconds
  have positive : (0 : ℚ) ≤ time.usec / 10 ^ (padded 6 time.usec).length := by positivity
  have second : truncate ((civilTime seconds).second +
      (time.usec : ℚ) / 10 ^ (padded 6 time.usec).length) = (civilTime seconds).second := by
    have held : (0 : ℚ) ≤ (civilTime seconds).second := by exact_mod_cast lower
    rw [truncate_of_nonneg (by linarith), Int.floor_eq_iff]
    constructor <;> linarith
  have year : long.narrow ((civilTime seconds).year - 1900) = (civilTime seconds).year - 1900 :=
    narrow_of_fits _ (by simp only [low, high]; omega)
  have month : long.narrow ((civilTime seconds).month - 1) = (civilTime seconds).month - 1 :=
    narrow_of_fits _ (by simp only [low, high]; omega)
  have back : mktime ⟨(civilTime seconds).year - 1900, (civilTime seconds).month - 1,
      (civilTime seconds).day, (civilTime seconds).hour, (civilTime seconds).minute,
      (civilTime seconds).second⟩ = seconds := mktime_gmtime seconds
  simp [cut, second, year, month, back]

def nearestMicrosecond (time : UTCTime) : UTCTime :=
  let micros := ⌊time.value * 1000000 + 1 / 2⌋
  { tcstatus := time.tcstatus, twsec := (micros / 1000000 : Int)
    tfsec := ((micros % 1000000 : Int) : ℚ) / 1000000 }

theorem usec_lt_iff (nonneg : 0 ≤ time.tfsec) : time.usec < 1000000 ↔ time.tfsec < 9999995 / 10000000 := by
  have rounded := usec_eq nonneg
  have bound : time.usec < 1000000 ↔ ⌊time.tfsec * 1000000 + 1 / 2⌋ < 1000000 := by omega
  rw [bound, Int.floor_lt]
  constructor <;> intro less <;> linarith

theorem usec_le (nonneg : 0 ≤ time.tfsec) (below : time.tfsec < 1) : time.usec ≤ 1000000 := by
  have rounded := usec_eq nonneg
  have less : ⌊time.tfsec * 1000000 + 1 / 2⌋ < 1000001 := by
    rw [Int.floor_lt]
    linarith
  omega

theorem nearestMicrosecond_eq {seconds : Int} (valid : time.tcstatus = 1)
    (whole : time.twsec = seconds) (nonneg : 0 ≤ time.tfsec) :
    time.nearestMicrosecond =
      ⟨1, ((seconds * 1000000 + time.usec) / 1000000 : Int),
        ((seconds * 1000000 + time.usec) % 1000000 : Int) / 1000000⟩ := by
  have rounded := usec_eq nonneg
  have floored : ⌊time.value * 1000000 + 1 / 2⌋ = seconds * 1000000 + time.usec := by
    rw [← rounded.1, rounded.2, ← Int.floor_intCast_add, value, whole]
    push_cast
    ring_nf
  simp only [nearestMicrosecond, floored, valid]

/-- A time is read back to the microsecond exactly where its fraction does not round up to a second. -/
theorem time_text_iff (now : UTCTime) {time : UTCTime} (valid : time.tcstatus = 1)
    (whole : ∃ seconds : Int, time.twsec = seconds) (supported : time.Supported)
    (fraction : 0 ≤ time.tfsec ∧ time.tfsec < 1) :
    (convert now time.toString = time.nearestMicrosecond ∧ ExactArithmetic) ↔
      time.tfsec < 9999995 / 10000000 := by
  obtain ⟨seconds, whole⟩ := whole
  obtain ⟨nonneg, below⟩ := fraction
  have nearest := nearestMicrosecond_eq valid whole nonneg
  rw [← usec_lt_iff nonneg]
  by_cases held : time.usec < 1000000
  · refine iff_of_true ⟨?_, exactArithmetic⟩ held
    have length : (padded 6 time.usec).length = 6 := length_padded (by decide) held
    have short : (time.usec : ℚ) / 10 ^ (padded 6 time.usec).length < 1 := by
      have bound : (time.usec : ℚ) < 1000000 := by exact_mod_cast held
      rw [length, div_lt_one (by norm_num)]
      linarith
    have wholePart : (seconds * 1000000 + time.usec) / 1000000 = seconds := by omega
    have fractionPart : (seconds * 1000000 + time.usec) % 1000000 = time.usec := by omega
    rw [convert_toString now whole supported nonneg short, nearest, length, wholePart, fractionPart]
    norm_num
  · refine iff_of_false (fun both => ?_) held
    have carried : time.usec = 1000000 := le_antisymm (usec_le nonneg below) (not_lt.mp held)
    have length : (padded 6 (1000000 : Nat)).length = 7 := by decide
    have short : (time.usec : ℚ) / 10 ^ (padded 6 time.usec).length < 1 := by
      rw [carried, length]
      norm_num
    have read := both.1
    rw [convert_toString now whole supported nonneg short, nearest, carried, length] at read
    have fractions := congrArg tfsec read
    norm_num at fractions

def leapDay : UTCTime := ⟨1, 951782400, 1234567 / 10000000⟩

theorem leapDay_text : convert notSet leapDay.toString = leapDay.nearestMicrosecond ∧ ExactArithmetic :=
  (time_text_iff notSet rfl ⟨951782400, by norm_num [leapDay]⟩
    (by unfold Supported; decide +kernel) (by norm_num [leapDay])).mpr (by norm_num [leapDay])

/-- Less than half a microsecond before a second ends, a tenth of the second is read back. -/
theorem last_microsecond_lost :
    convert notSet (toString ⟨1, 0, 9999999 / 10000000⟩) = ⟨1, 0, 1 / 10⟩ ∧
    ¬(convert notSet (toString ⟨1, 0, 9999999 / 10000000⟩) =
      nearestMicrosecond ⟨1, 0, 9999999 / 10000000⟩ ∧ ExactArithmetic) := by
  have read : convert notSet (toString ⟨1, 0, 9999999 / 10000000⟩) = ⟨1, 0, 1 / 10⟩ := by
    decide +kernel
  refine ⟨read, fun both => ?_⟩
  exact absurd both.1 (by decide +kernel)

end UTCTime

end Redhawk.Properties
