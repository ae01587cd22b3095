import TournamentDesk.Text.Blank
import TournamentDesk.Text.Scan
import TournamentDesk.Time.Date

/-!
# Instants and their texts

An instant is kept in universal time, to the nanosecond. Its text is the date, a `T`, the time of day
with as few of 0, 3, 6 or 9 fraction digits as are exact, and a `Z`, or `+00:00` where the offset is
wanted in figures.

Reading is more lenient than writing: parts may be short or have blanks before them, `t` or a space
may stand for the `T`, and an offset from universal time, which is subtracted, for the `Z`. A second
numbered 60 is a leap second: it is kept as the second before it with a billion nanoseconds more.
-/

namespace TournamentDesk
namespace Time

open Text (Scan expect numberOf wholeNumber)

/-- An instant in universal time. -/
structure Instant where
  /-- The day. -/
  date : Date
  /-- The second of the day. -/
  second : Nat
  /-- The nanosecond, from a billion on in a leap second. -/
  nano : Nat
  second_ok : second < 86400
  nano_ok : nano < 2000000000
  leap_ok : 1000000000 ≤ nano → second % 60 = 59
deriving DecidableEq, Repr

/-! ## Writing -/

/-- A number in base ten with at least so many digits. -/
def padded (width n : Nat) : List Char :=
  let ds := Nat.toDigits 10 n
  List.replicate (width - ds.length) '0' ++ ds

/-- A year: four digits from 0 to 9999, and a sign before at least four digits outside of that. -/
def yearText (year : Int) : List Char :=
  if 0 ≤ year ∧ year ≤ 9999 then padded 4 year.toNat
  else (if year < 0 then '-' else '+') :: padded 4 year.natAbs

/-- The fraction of a second: the fewest of 0, 3, 6 or 9 digits that are exact. -/
def fractionText (nano : Nat) : List Char :=
  if nano = 0 then []
  else if nano % 1000000 = 0 then '.' :: padded 3 (nano / 1000000)
  else if nano % 1000 = 0 then '.' :: padded 6 (nano / 1000)
  else '.' :: padded 9 nano

/-- The date and the time of day of an instant, with nothing behind them. -/
def Instant.stamp (t : Instant) : List Char :=
  let leap := t.nano / 1000000000
  yearText t.date.year ++ '-' :: padded 2 t.date.month ++ '-' :: padded 2 t.date.day ++
    'T' :: padded 2 (t.second / 3600) ++ ':' :: padded 2 (t.second / 60 % 60) ++
    ':' :: padded 2 (t.second % 60 + leap) ++ fractionText (t.nano % 1000000000)

/-- The text of an instant. -/
def Instant.text (t : Instant) : List Char :=
  t.stamp ++ ['Z']

def Instant.render (t : Instant) : String :=
  String.ofList t.text

/-- The text of an instant with the offset from universal time in figures. -/
def Instant.renderOffset (t : Instant) : String :=
  String.ofList t.stamp ++ "+00:00"

/-! ## Reading -/

/-- One to `most` decimal digits, with blanks before them. -/
def number (most : Nat) : Scan Nat := fun s =>
  let s := Text.skipBlanks s
  let ds := (s.take most).takeWhile Char.isDigit
  if ds.isEmpty then none else some (numberOf ds, s.drop ds.length)

/-- A given character, with blanks before it. -/
def expectSpaced (c : Char) : Scan Unit := fun s =>
  expect c (Text.skipBlanks s)

/-- A year: up to four digits, or any number of them behind a sign. -/
def year : Scan Int := fun s =>
  match Text.skipBlanks s with
  | '-' :: s => (wholeNumber s).map fun r => (-(r.1 : Int), r.2)
  | '+' :: s => (wholeNumber s).map fun r => ((r.1 : Int), r.2)
  | s => (number 4 s).map fun r => ((r.1 : Int), r.2)

/-- The fraction of a second in nanoseconds, if there is one; digits behind the ninth are passed
over. -/
def fraction : Scan Nat
  | '.' :: s =>
    let ds := s.takeWhile Char.isDigit
    if ds.isEmpty then none
    else some (numberOf ((ds ++ List.replicate 9 '0').take 9), s.dropWhile Char.isDigit)
  | s => some (0, s)

def twoDigits : Scan Nat
  | a :: b :: s => if a.isDigit && b.isDigit then some (numberOf [a, b], s) else none
  | _ => none

/-- The sign of an offset. The minus sign proper is taken besides the hyphen. -/
def sign : Scan Int
  | c :: s =>
    if c = '+' then some (1, s)
    else if c = '-' || c = Char.ofNat 0x2212 then some (-1, s)
    else none
  | [] => none

/-- An offset from universal time in seconds: `Z`, `UTC`, or a sign, two digits for the hours, any
colons and blanks, and two digits for the minutes. -/
def offset : Scan Int
  | u :: t :: c :: s =>
    if u.toLower = 'u' && t.toLower = 't' && c.toLower = 'c' then some (0, s)
    else numeric (u :: t :: c :: s)
  | s => numeric s
where
  /-- An offset other than the word for universal time. -/
  numeric : Scan Int
    | [] => none
    | z :: s =>
      if z = 'Z' || z = 'z' then some (0, s)
      else do
        let (sign, s) ← sign (z :: s)
        let (hours, s) ← twoDigits s
        let (minutes, s) ← twoDigits (s.dropWhile fun c => c = ':' || Text.isBlankChar c)
        if minutes < 60 then some (sign * (hours * 3600 + minutes * 60), s) else none

/-- The least and the greatest year of an instant. -/
def yearRange : Int × Int :=
  (-262143, 262142)

def Date.inRange (d : Date) : Bool :=
  yearRange.1 ≤ d.year && d.year ≤ yearRange.2

/-- Whether a second of the day may have so many nanoseconds: a billion and more only in the last
second of a minute. -/
def mayHave (second nano : Nat) : Bool :=
  nano < 2000000000 && (nano < 1000000000 || second % 60 = 59)

/-- The instant at a local time of day, given its offset from universal time. The shift to universal
time leaves the day by at most one. -/
def instantAt? (date : Date) (second nano : Nat) (offset : Int) : Option Instant :=
  let shifted := (second : Int) - offset
  let day : Date :=
    if shifted < 0 then date.prev else if shifted < 86400 then date else date.next
  let second := (shifted % 86400).toNat
  if h : second < 86400 ∧ mayHave second nano = true then
    if day.inRange then
      some
        { date := day
          second
          nano
          second_ok := h.1
          nano_ok := by
            have := h.2
            simp only [mayHave, Bool.and_eq_true, decide_eq_true_eq] at this
            exact this.1
          leap_ok := by
            have := h.2
            simp only [mayHave, Bool.and_eq_true, Bool.or_eq_true, decide_eq_true_eq] at this
            omega }
    else none
  else none

/-- The nanosecond of the day's second `s` of minute: a second numbered 60 belongs to the second
before it. -/
def splitSecond (s nano : Nat) : Nat × Nat :=
  if s = 60 then (59, 1000000000 + nano) else (s, nano)

/-- The separator between date and time of day. -/
def separator : Scan Unit
  | c :: s => if c = 'T' || c = 't' || c = ' ' then some ((), s) else none
  | [] => none

/-- Reads the text of an instant. -/
def Instant.ofText? (s : List Char) : Option Instant := do
  let (year, s) ← year s
  let (_, s) ← expectSpaced '-' s
  let (month, s) ← number 2 s
  let (_, s) ← expectSpaced '-' s
  let (day, s) ← number 2 s
  let (_, s) ← separator s
  let (hour, s) ← number 2 s
  let (_, s) ← expectSpaced ':' s
  let (minute, s) ← number 2 s
  let (_, s) ← expectSpaced ':' s
  let (second, s) ← number 2 s
  let (nano, s) ← fraction s
  let (offset, s) ← offset (Text.skipBlanks s)
  let date ← Date.of? year month day
  if date.inRange && hour < 24 && minute < 60 && second ≤ 60 && offset.natAbs < 86400 &&
      (Text.skipBlanks s).isEmpty then
    let (second, nano) := splitSecond second nano
    instantAt? date (hour * 3600 + minute * 60 + second) nano offset
  else none

/-- Reads the text of an instant from a string. -/
def Instant.parse? (s : String) : Option Instant :=
  Instant.ofText? s.toList

end Time
end TournamentDesk
