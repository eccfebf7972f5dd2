/-
  SuiteExplorer/Value/Moment.lean
  ===============================
  Days of the calendar, with or without a time of the day. A time may say how
  far it is ahead of universal time; two such times are the same if they are
  the same instant.
-/

namespace SuiteExplorer

structure Clock where
  hour : Nat
  minute : Nat
  second : Nat := 0
  micro : Nat := 0
  /-- how many seconds the time is ahead of universal time -/
  ahead : Option Int := none
deriving Repr, DecidableEq

/-- A day, or a time on that day. -/
structure Moment where
  year : Nat
  month : Nat
  day : Nat
  clock : Option Clock := none
deriving Repr, DecidableEq

inductive MomentFault where
  | year (n : Nat)
  | month
  | day
  | hour
  | minute
  | second
  | ahead (seconds : Int)
deriving Repr, DecidableEq

namespace Moment

/-! ## 1. The calendar -/

def isLeap (year : Nat) : Bool := year % 4 = 0 && (year % 100 ≠ 0 || year % 400 = 0)

def daysIn (year month : Nat) : Nat :=
  if month = 2 then (if isLeap year then 29 else 28)
  else if [4, 6, 9, 11].contains month then 30 else 31

/-- The number of days from the first day of the year 1. -/
def dayNumber (m : Moment) : Nat :=
  let y := m.year - 1
  365 * y + y / 4 - y / 100 + y / 400 +
    (List.range' 1 (m.month - 1)).foldl (fun days month => days + daysIn m.year month) m.day

/-- Microseconds since the first day of the year 1 in universal time. -/
def instant (m : Moment) (c : Clock) (ahead : Int) : Int :=
  ((((m.dayNumber * 24 + c.hour) * 60 + c.minute) * 60 + c.second : Nat) - ahead) * 1000000 + c.micro

def secondsOfDay : Nat := 86400

def fault? (m : Moment) : Option MomentFault :=
  let far := (m.clock.bind (·.ahead)).filter fun s => secondsOfDay ≤ s.natAbs
  if let some s := far then some (.ahead s)
  else if m.year = 0 then some (.year m.year)
  else if m.month = 0 || 12 < m.month then some .month
  else if m.day = 0 || daysIn m.year m.month < m.day then some .day
  else m.clock.bind fun c =>
    if 23 < c.hour then some .hour
    else if 59 < c.minute then some .minute
    else if 59 < c.second then some .second
    else none

/-! ## 2. In messages -/

/-- A number in at least so many digits. -/
def padded (width n : Nat) : String :=
  let s := toString n
  "".pushn '0' (width - s.length) ++ s

/-- How far ahead a time is, as hours and minutes. -/
def aheadText (s : Int) : String :=
  (if s < 0 then "-" else "+") ++ padded 2 (s.natAbs / 3600) ++ ":" ++ padded 2 (s.natAbs / 60 % 60)

def display (m : Moment) : String :=
  let day := padded 4 m.year ++ "-" ++ padded 2 m.month ++ "-" ++ padded 2 m.day
  match m.clock with
  | none => day
  | some c =>
    day ++ " " ++ padded 2 c.hour ++ ":" ++ padded 2 c.minute ++ ":" ++ padded 2 c.second ++
      (if c.micro = 0 then "" else "." ++ padded 6 c.micro) ++ (c.ahead.map aheadText).getD ""

/-- A stretch of time, in days and the seconds of a last day. -/
def stretchLiteral (seconds : Int) : String :=
  let days := seconds.fdiv secondsOfDay
  let rest := seconds.fmod secondsOfDay
  let parts := (if days = 0 then [] else [s!"days={days}"]) ++
    (if rest = 0 then [] else [s!"seconds={rest}"])
  "datetime.timedelta(" ++ (if parts.isEmpty then "0" else ", ".intercalate parts) ++ ")"

/-- How far ahead a time is, as it appears inside a literal. -/
def aheadLiteral (seconds : Int) : String :=
  if seconds = 0 then "datetime.timezone.utc"
  else "datetime.timezone(" ++ stretchLiteral seconds ++ ")"

/-- A moment as it appears inside another value. Seconds that are zero at the
    end are left out. -/
def literal (m : Moment) : String :=
  let day := [m.year, m.month, m.day]
  match m.clock with
  | none => "datetime.date(" ++ ", ".intercalate (day.map toString) ++ ")"
  | some c =>
    let exact := if c.micro ≠ 0 then [c.second, c.micro] else if c.second ≠ 0 then [c.second] else []
    "datetime.datetime(" ++ ", ".intercalate
      ((day ++ [c.hour, c.minute] ++ exact).map toString ++
        (c.ahead.map fun s => "tzinfo=" ++ aheadLiteral s).toList) ++ ")"

end Moment

def MomentFault.message : MomentFault → String
  | year n => s!"year {n} is out of range"
  | month => "month must be in 1..12"
  | day => "day is out of range for month"
  | hour => "hour must be in 0..23"
  | minute => "minute must be in 0..59"
  | second => "second must be in 0..59"
  | ahead s =>
    "offset must be a timedelta strictly between -timedelta(hours=24) and timedelta(hours=24), not "
      ++ Moment.stretchLiteral s ++ "."

end SuiteExplorer
