import PaymentCredentials.Decimal

/-!
Instants of the proleptic Gregorian calendar in UTC, from the year -262143 to the year 262142, and
lengths of time. An instant is written as in RFC 3339 or as a date of HTTP.
-/
namespace PaymentCredentials

/-- The second at which the calendar begins, and its last one. -/
def firstSecond : Int := -8334601228800
def lastSecond : Int := 8210266876799

def nanosPerSecond : Int := 1000000000

/-- An instant: whole seconds since the beginning of 1970, leap seconds not counted, and nanoseconds forward
from there. A leap second has no number of its own. It lengthens the second in front of it, whose nanoseconds
then go on beyond one second. -/
structure Instant where
  seconds : Int
  nanos : Nat
  lower : firstSecond ≤ seconds
  upper : seconds ≤ lastSecond
  nanos_lt : nanos < 2000000000
  deriving DecidableEq

/-- A length of time, in whole nanoseconds. -/
structure Duration where
  nanoseconds : Int
  deriving DecidableEq

namespace Duration

/-- The most seconds in a length of time. -/
def maxSeconds : Nat := 0x7FFFFFFFFFFFFFFF / 1000

def longest : Duration := ⟨0x7FFFFFFFFFFFFFFF * 1000000⟩

/-- A count of seconds as a length of time, if it is not too long. -/
def ofSeconds? (n : Nat) : Option Duration :=
  if n ≤ maxSeconds then some ⟨n * nanosPerSecond⟩ else none

def wholeSeconds (d : Duration) : Int := d.nanoseconds.tdiv nanosPerSecond

end Duration

namespace Instant

/-- The instant at which the calendar begins. -/
def earliest : Instant := ⟨firstSecond, 0, by decide, by decide, by decide⟩

/-- The instant lies in a leap second. -/
def isLeap (t : Instant) : Bool := 1000000000 ≤ t.nanos

/-- How many nanoseconds a second has at most. Only the last one of a minute can be lengthened. -/
def nanosIn (seconds : Int) : Nat := if seconds.fmod 60 = 59 then 2000000000 else 1000000000

theorem nanosIn_le (seconds : Int) : nanosIn seconds ≤ 2000000000 := by
  unfold nanosIn
  split <;> decide

theorem le_nanosIn (seconds : Int) : 1000000000 ≤ nanosIn seconds := by
  unfold nanosIn
  split <;> decide

/-- The instant with the given seconds and nanoseconds, within the calendar. -/
def ofUnix? (seconds : Int) (nanos : Nat) : Option Instant :=
  if h : firstSecond ≤ seconds ∧ seconds ≤ lastSecond ∧ nanos < nanosIn seconds then
    some ⟨seconds, nanos, h.1, h.2.1, Nat.lt_of_lt_of_le h.2.2 (nanosIn_le seconds)⟩
  else none

/-- Nanoseconds since the beginning of 1970, leap seconds in front of the instant's own not counted. -/
def totalNanos (t : Instant) : Int := t.seconds * nanosPerSecond + t.nanos

def before (s t : Instant) : Bool :=
  s.seconds < t.seconds || (s.seconds == t.seconds && s.nanos < t.nanos)

/-- Days since the beginning of 1970. -/
def days (t : Instant) : Int := t.seconds.fdiv 86400

def secondOfDay (t : Instant) : Nat := (t.seconds.fmod 86400).toNat

/-- The nanoseconds from one instant to another. The leap second that the earlier one lies in counts if it lies
between them by the times of day, whatever the days are. -/
def nanosUntil (s t : Instant) : Int :=
  let nanos := t.totalNanos - s.totalNanos
  if s.secondOfDay < t.secondOfDay ∧ s.isLeap then nanos + nanosPerSecond
  else if t.secondOfDay < s.secondOfDay ∧ t.isLeap then nanos - nanosPerSecond
  else nanos

/-- The whole seconds from one instant to another, fractions cut off toward zero. -/
def secondsUntil (s t : Instant) : Int := (s.nanosUntil t).tdiv nanosPerSecond

/-- The instant so many nanoseconds after a whole second, within the calendar. -/
def ofNanos? (seconds nanos : Int) : Option Instant :=
  let total := seconds * nanosPerSecond + nanos
  ofUnix? (total.fdiv nanosPerSecond) (total.fmod nanosPerSecond).toNat

/-- The instant a length of time later, within the calendar. From within a leap second it may lead to another
instant of the same one; beyond its end the leap second has been counted. -/
def add? (t : Instant) (d : Duration) : Option Instant :=
  let nanos := t.nanos + d.nanoseconds
  if t.isLeap then
    if h : 1000000000 ≤ nanos ∧ nanos < 2000000000 then
      some ⟨t.seconds, nanos.toNat, t.lower, t.upper, by omega⟩
    else ofNanos? t.seconds (if nanos < 1000000000 then nanos else nanos - nanosPerSecond)
  else ofNanos? t.seconds nanos

/-- A number fits into 64 bits. -/
def Fits (n : Int) : Prop := -0x8000000000000000 ≤ n ∧ n < 0x8000000000000000

instance (n : Int) : Decidable (Fits n) := inferInstanceAs (Decidable (_ ∧ _))

/-- Nanoseconds since the beginning of 1970, if they fit into 64 bits. They are counted from the end of the
instant's second that is nearer to 1970, and up to there they must fit too. -/
def unixNanos? (t : Instant) : Option Int64 :=
  let near := if t.seconds < 0 then t.seconds + 1 else t.seconds
  if Fits (near * nanosPerSecond) ∧ Fits t.totalNanos then some (Int64.ofInt t.totalNanos) else none

/-- The whole seconds since the beginning of 1970. -/
def timestamp (t : Instant) : Int64 := Int64.ofInt t.seconds

/-! ### Calendar -/

/-- A day of the calendar. -/
structure Date where
  year : Int
  month : Nat
  day : Nat
  deriving DecidableEq

/-- The date of a count of days since the beginning of 1970. Years are counted from March, in eras of
400 years. -/
def dateOfDays (days : Int) : Date :=
  let shifted := days + 719468
  let era := shifted.fdiv 146097
  let dayOfEra := (shifted.fmod 146097).toNat
  let yearOfEra := (dayOfEra - dayOfEra / 1460 + dayOfEra / 36524 - dayOfEra / 146096) / 365
  let dayOfYear := dayOfEra - (365 * yearOfEra + yearOfEra / 4 - yearOfEra / 100)
  let shiftedMonth := (5 * dayOfYear + 2) / 153
  let day := dayOfYear - (153 * shiftedMonth + 2) / 5 + 1
  let month := if shiftedMonth < 10 then shiftedMonth + 3 else shiftedMonth - 9
  let year := (yearOfEra : Int) + era * 400
  ⟨if month ≤ 2 then year + 1 else year, month, day⟩

def date (t : Instant) : Date := dateOfDays t.days

/-- A year of four digits; outside of those, with its sign. -/
def yearText (year : Int) : List Char :=
  if 0 ≤ year ∧ year ≤ 9999 then Decimal.padded 4 year.toNat
  else (if year < 0 then '-' else '+') :: Decimal.padded 4 year.natAbs

/-- Hours, minutes and seconds of the day. A leap second has the number after the one that it lengthens. -/
def clockText (t : Instant) : List Char :=
  let s := t.secondOfDay
  Decimal.padded 2 (s / 3600) ++ ':' :: Decimal.padded 2 (s / 60 % 60) ++
    ':' :: Decimal.padded 2 (s % 60 + if t.isLeap then 1 else 0)

/-- The instant as in RFC 3339, to the second. -/
def rfc3339 (t : Instant) : String :=
  let d := t.date
  String.ofList (yearText d.year ++ '-' :: Decimal.padded 2 d.month ++ '-' :: Decimal.padded 2 d.day ++
    'T' :: t.clockText ++ ['Z'])

def dayNames : List String := ["Sun", "Mon", "Tue", "Wed", "Thu", "Fri", "Sat"]

def monthNames : List String :=
  ["Jan", "Feb", "Mar", "Apr", "May", "Jun", "Jul", "Aug", "Sep", "Oct", "Nov", "Dec"]

/-- The instant as a date of HTTP. -/
def httpDate (t : Instant) : String :=
  let d := t.date
  dayNames.getD ((t.days + 4).fmod 7).toNat "" ++ ", " ++ String.ofList (Decimal.padded 2 d.day) ++
    " " ++ monthNames.getD (d.month - 1) "" ++ " " ++ String.ofList (yearText d.year) ++ " " ++
    String.ofList t.clockText ++ " GMT"

end Instant

end PaymentCredentials
