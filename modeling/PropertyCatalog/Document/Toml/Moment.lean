import PropertyCatalog.Text.Reader

/-!
# Dates and times

The dates and times of a TOML document: a date, a time, or both with an offset. They are bound as
text, in one form: `T` between date and time, two digits for each field, a fraction without zeros at
its end, and an offset `Z` or `+hh:mm`.
-/

namespace PropertyCatalog.Document.Toml

open PropertyCatalog.Text

/-- A day of the calendar. -/
structure Day where
  /-- The year, of four digits. -/
  year : Nat
  /-- The month, from 1. -/
  month : Nat
  /-- The day of the month, from 1. -/
  day : Nat
deriving DecidableEq

/-- A time of the day. -/
structure ClockTime where
  /-- The hour. -/
  hour : Nat
  /-- The minute. -/
  minute : Nat
  /-- The second, if it is written. -/
  second : Option Nat
  /-- The nanoseconds, if a fraction is written. -/
  nanos : Option Nat
deriving DecidableEq

/-- How far a time is from universal time. -/
inductive Offset where
  /-- It is universal time. -/
  | universal
  /-- By so many minutes. -/
  | minutes (n : Int)
deriving DecidableEq

/-- A date, a time, or both. -/
inductive Moment where
  /-- A date. -/
  | day (d : Day)
  /-- A time. -/
  | time (t : ClockTime)
  /-- A date and a time, with an offset if it is written. -/
  | both (d : Day) (t : ClockTime) (offset : Option Offset)
deriving DecidableEq

/-! ## Calendar -/

def isLeapYear (year : Nat) : Bool := year % 4 = 0 && (year % 100 ≠ 0 || year % 400 = 0)

/-- The number of days of a month, and none for what is no month. -/
def daysIn (year month : Nat) : Nat :=
  match month with
  | 2 => if isLeapYear year then 29 else 28
  | 4 | 6 | 9 | 11 => 30
  | 1 | 3 | 5 | 7 | 8 | 10 | 12 => 31
  | _ => 0

/-! ## Reading -/

namespace Moment

/-- Takes a number of exactly so many digits that is not above the greatest. -/
def field (width greatest : Nat) : Reader Nat := do
  let n := Nat.ofDigitChars 10 (← Reader.takeExactly width Char.isDigit) 0
  Reader.ensure (n ≤ greatest)
  return n

def readDay : Reader Day := do
  let year ← field 4 9999
  Reader.literal ['-']
  let month ← field 2 12
  Reader.literal ['-']
  let day ← field 2 (daysIn year month)
  Reader.ensure (0 < day)
  return { year, month, day }

/-- Takes the fraction of a second. Digits beyond the ninth do not count. -/
def readFraction : Reader (Option Nat) := do
  if ← Reader.accept ['.'] then
    let digits ← Reader.takeWhile Char.isDigit
    Reader.ensure !digits.isEmpty
    let nine := (digits ++ List.replicate 9 '0').take 9
    return some (Nat.ofDigitChars 10 nine 0)
  else return none

/-- Takes a time. Seconds may be left out; a minute may have a leap second. -/
def readTime : Reader ClockTime := do
  let hour ← field 2 23
  Reader.literal [':']
  let minute ← field 2 59
  if ← Reader.accept [':'] then
    let second ← field 2 60
    return { hour, minute, second := some second, nanos := ← readFraction }
  else return { hour, minute, second := none, nanos := none }

def greatestOffset : Nat := 24 * 60

/-- Takes an offset, if there is one. -/
def readOffset : Reader (Option Offset) := do
  match ← Reader.peek with
  | some 'Z' | some 'z' => let _ ← Reader.next; return some .universal
  | some '+' => let _ ← Reader.next; return some (.minutes (← distance))
  | some '-' => let _ ← Reader.next; return some (.minutes (-(← distance : Nat)))
  | _ => return none
where
  /-- Takes hours and minutes. -/
  distance : Reader Nat := do
    let hours ← field 2 24
    Reader.literal [':']
    let n := hours * 60 + (← field 2 59)
    Reader.ensure (n ≤ greatestOffset)
    return n

/-- The character may stand between a date and a time. -/
def isDelimiter (c : Char) : Bool := c = 'T' || c = 't' || c = ' '

/-- Takes a date, with a time behind it if there is one. -/
def readDated : Reader Moment := do
  let day ← readDay
  match ← Reader.peek with
  | none => return .day day
  | some _ =>
    Reader.ensure (isDelimiter (← Reader.next))
    let time ← readTime
    return .both day time (← readOffset)

/-- Reads a whole text as a date, a time, or both. -/
def read? (cs : List Char) : Option Moment :=
  (Reader.whole readDated cs).or ((Reader.whole readTime cs).map time)

/-! ## Writing -/

/-- A number with zeros in front up to the width. -/
def padded (width n : Nat) : List Char :=
  let digits := Nat.toDigits 10 n
  List.replicate (width - digits.length) '0' ++ digits

def writeDay (d : Day) : List Char :=
  padded 4 d.year ++ '-' :: padded 2 d.month ++ '-' :: padded 2 d.day

/-- Nanoseconds as a fraction without zeros at its end; one zero stays if there is no other
digit. -/
def writeFraction (nanos : Nat) : List Char :=
  let digits := ((padded 9 nanos).reverse.dropWhile (· = '0')).reverse
  '.' :: if digits.isEmpty then ['0'] else digits

def writeTime (t : ClockTime) : List Char :=
  padded 2 t.hour ++ ':' :: padded 2 t.minute ++ (t.second.elim [] fun s ↦ ':' :: padded 2 s) ++
    t.nanos.elim [] writeFraction

def writeOffset : Offset → List Char
  | .universal => ['Z']
  | .minutes n =>
    (if n < 0 then '-' else '+') :: padded 2 (n.natAbs / 60) ++ ':' :: padded 2 (n.natAbs % 60)

/-- A moment as it is bound. -/
def write : Moment → String
  | day d => String.ofList (writeDay d)
  | time t => String.ofList (writeTime t)
  | both d t offset =>
    String.ofList (writeDay d ++ 'T' :: writeTime t ++ offset.elim [] writeOffset)

end Moment

end PropertyCatalog.Document.Toml
