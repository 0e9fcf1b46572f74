import IndentLint.Document.Fault
import IndentLint.Text.Numeral

/-! Dates and times of day, as documents hold them and as they are shown. -/
namespace IndentLint.Document

structure Moment where
  year : Nat
  month : Nat
  day : Nat
  hour : Nat
  minute : Nat
  second : Nat
  micro : Nat := 0
  zone : Option Int := none
  deriving DecidableEq, Repr

def padded (width n : Nat) : String :=
  let ds := Text.Numeral.digits n
  String.ofList (List.replicate (width - ds.length) '0' ++ ds)

def dateText (year month day : Nat) : String :=
  padded 4 year ++ "-" ++ padded 2 month ++ "-" ++ padded 2 day

def spanText (minutes : Int) : String :=
  let days := Int.fdiv minutes 1440
  let seconds := Int.fmod minutes 1440 * 60
  let parts := (if days = 0 then [] else [s!"days={days}"])
    ++ (if seconds = 0 then [] else [s!"seconds={seconds}"])
  "datetime.timedelta(" ++ (if parts.isEmpty then "0" else ", ".intercalate parts) ++ ")"

def isLeap (year : Nat) : Bool := year % 4 = 0 && (year % 100 ≠ 0 || year % 400 = 0)

def daysIn (year month : Nat) : Nat :=
  if month = 2 then (if isLeap year then 29 else 28)
  else if [4, 6, 9, 11].contains month then 30 else 31

def checkDate (year month day : Nat) : Except Fault Unit :=
  if year = 0 then .error (.impossibleTime "year 0 is out of range")
  else if month = 0 || 12 < month then .error (.impossibleTime "month must be in 1..12")
  else if day = 0 || daysIn year month < day then
    .error (.impossibleTime "day is out of range for month")
  else .ok ()

def checkZone (minutes : Int) : Except Fault Unit :=
  if minutes.natAbs < 1440 then .ok ()
  else .error (.impossibleTime
    ("offset must be a timedelta strictly between -timedelta(hours=24) and timedelta(hours=24), not "
      ++ spanText minutes ++ "."))

namespace Moment

def check (m : Moment) : Except Fault Moment := do
  if let some minutes := m.zone then checkZone minutes
  checkDate m.year m.month m.day
  if 23 < m.hour then .error (.impossibleTime "hour must be in 0..23")
  else if 59 < m.minute then .error (.impossibleTime "minute must be in 0..59")
  else if 59 < m.second then .error (.impossibleTime "second must be in 0..59")
  else .ok m

def dayNumber (year month day : Nat) : Nat :=
  let years := year - 1
  let leapDays := years / 4 - years / 100 + years / 400
  let monthDays := (List.range (month - 1)).foldl (fun days m => days + daysIn year (m + 1)) 0
  years * 365 + leapDays + monthDays + day

def minuteNumber (m : Moment) : Int :=
  ((dayNumber m.year m.month m.day * 24 + m.hour) * 60 + m.minute : Nat)

def zoneText (minutes : Int) : String :=
  (if minutes < 0 then "-" else "+") ++ padded 2 (minutes.natAbs / 60) ++ ":"
    ++ padded 2 (minutes.natAbs % 60)

def display (m : Moment) : String :=
  dateText m.year m.month m.day ++ " " ++ padded 2 m.hour ++ ":" ++ padded 2 m.minute ++ ":"
    ++ padded 2 m.second ++ (if m.micro = 0 then "" else "." ++ padded 6 m.micro)
    ++ m.zone.elim "" zoneText

def quoted (m : Moment) : String :=
  let numbers := [m.year, m.month, m.day, m.hour, m.minute]
    ++ (if m.second = 0 && m.micro = 0 then [] else [m.second])
    ++ (if m.micro = 0 then [] else [m.micro])
  let zone := match m.zone with
    | none => []
    | some 0 => ["tzinfo=datetime.timezone.utc"]
    | some minutes => ["tzinfo=datetime.timezone(" ++ spanText minutes ++ ")"]
  "datetime.datetime(" ++ ", ".intercalate (numbers.map toString ++ zone) ++ ")"

end Moment
end IndentLint.Document
