/-!
# Dates and times

A point in the calendar as a document gives it: a date, or a date with a time of day and possibly a
distance from universal time.
-/

namespace HubProxy.Document

structure Date where
  year : Nat
  month : Nat
  day : Nat
  deriving DecidableEq, Repr

/-- A day and a time of day. The zone is the distance from universal time in seconds. -/
structure DateTime where
  date : Date
  hour : Nat
  minute : Nat
  second : Nat
  microsecond : Nat
  zone : Option Int
  deriving DecidableEq, Repr

def isLeap (year : Nat) : Bool :=
  year % 4 == 0 && (year % 100 != 0 || year % 400 == 0)

def daysInMonth (year month : Nat) : Nat :=
  if month = 2 then (if isLeap year then 29 else 28)
  else if month ∈ [4, 6, 9, 11] then 30 else 31

/-- Whether the day is one of the calendar, in the years one to 9999. -/
def Date.isValid (d : Date) : Bool :=
  1 ≤ d.year && d.year ≤ 9999 && 1 ≤ d.month && d.month ≤ 12 && 1 ≤ d.day
    && d.day ≤ daysInMonth d.year d.month

/-- Whether the day and the time of day exist and the zone is less than a day away. -/
def DateTime.isValid (t : DateTime) : Bool :=
  t.date.isValid && t.hour < 24 && t.minute < 60 && t.second < 60 && t.microsecond < 1000000
    && t.zone.all fun z => z.natAbs < 86400

/-- The number of days before a day, from the first of the year one. -/
def Date.ordinal (d : Date) : Nat :=
  let y := d.year - 1
  let months := (List.range (d.month - 1)).foldl (fun n m => n + daysInMonth d.year (m + 1)) 0
  y * 365 + y / 4 - y / 100 + y / 400 + months + d.day

/-- The point in time in microseconds, for a time with a zone. -/
def DateTime.instant? (t : DateTime) : Option Int :=
  t.zone.map fun z =>
    ((((t.date.ordinal * 24 + t.hour) * 60 + t.minute) * 60 + t.second : Nat) - z) * 1000000
      + t.microsecond

/-- Whether two times are the same: the same point in time if both have a zone, the same reading if
neither has. -/
def DateTime.same (a b : DateTime) : Bool :=
  match a.instant?, b.instant? with
  | some s, some t => s == t
  | none, none => a == b
  | _, _ => false

def padded (width n : Nat) : String :=
  let digits := Nat.toDigits 10 n
  String.ofList (List.replicate (width - digits.length) '0' ++ digits)

/-- A day as year, month and day with hyphens between. -/
def Date.text (d : Date) : String :=
  padded 4 d.year ++ "-" ++ padded 2 d.month ++ "-" ++ padded 2 d.day

/-- A distance from universal time. -/
def zoneText (z : Int) : String :=
  let s := z.natAbs
  (if z < 0 then "-" else "+") ++ padded 2 (s / 3600) ++ ":" ++ padded 2 (s / 60 % 60)
    ++ (if s % 60 = 0 then "" else ":" ++ padded 2 (s % 60))

/-- A time with a space after the day and the fraction only if there is one. -/
def DateTime.text (t : DateTime) : String :=
  t.date.text ++ " " ++ padded 2 t.hour ++ ":" ++ padded 2 t.minute ++ ":" ++ padded 2 t.second
    ++ (if t.microsecond = 0 then "" else "." ++ padded 6 t.microsecond)
    ++ (t.zone.elim "" zoneText)

/-- A day inside the text of a collection. -/
def Date.inner (d : Date) : String :=
  "datetime.date(" ++ ", ".intercalate ([d.year, d.month, d.day].map toString) ++ ")"

/-- A distance from universal time inside the text of a collection, as days and seconds. -/
def zoneInner (z : Int) : String :=
  if z = 0 then "datetime.timezone.utc"
  else
    let seconds := (Int.emod z 86400).toNat
    let days := if z < 0 then ["days=-1"] else []
    let rest := if seconds = 0 then [] else ["seconds=" ++ toString seconds]
    "datetime.timezone(datetime.timedelta(" ++ ", ".intercalate (days ++ rest) ++ "))"

/-- A time inside the text of a collection. Seconds and their fraction stand there unless they are
zero. -/
def DateTime.inner (t : DateTime) : String :=
  let seconds :=
    if t.microsecond ≠ 0 then [t.second, t.microsecond]
    else if t.second ≠ 0 then [t.second] else []
  let numbers := [t.date.year, t.date.month, t.date.day, t.hour, t.minute] ++ seconds
  "datetime.datetime(" ++ ", ".intercalate (numbers.map toString)
    ++ (t.zone.elim "" fun z => ", tzinfo=" ++ zoneInner z) ++ ")"

end HubProxy.Document
