import TemplateFill.Text.Blank

/-!
# Time stamps

A time stamp is an instant in universal time with a resolution of a nanosecond; a leap second has
sixty as its number of seconds.  It is read from RFC 3339 text with some liberties: the separator
of date and time may be a blank, numbers need not be padded, blanks may stand between the parts,
and the offset may be written without its colon.  It is always written with a `Z` and as many of
0, 3, 6 or 9 digits of a second's fraction as it needs.
-/

namespace TemplateFill

/-- An instant, counted in days from 1970-01-01, seconds of the day, and nanoseconds.  In a leap
second the nanoseconds are `10 ^ 9` or more. -/
structure Timestamp where
  day : Int
  second : Nat
  nanos : Nat
  deriving DecidableEq, Repr

namespace Timestamp

/-- The instant that is a number of seconds and nanoseconds after the start of 1970. -/
def ofSeconds (seconds : Int) (nanos : Nat) : Timestamp :=
  ⟨seconds / 86400, (seconds % 86400).toNat, nanos⟩

/-! ### The calendar -/

/-- Whether a year has a leap day. -/
def isLeap (year : Int) : Bool :=
  year % 4 = 0 && (year % 100 ≠ 0 || year % 400 = 0)

/-- The number of days in a month. -/
def daysIn (year : Int) (month : Nat) : Nat :=
  match month with
  | 2 => if isLeap year then 29 else 28
  | 4 | 6 | 9 | 11 => 30
  | _ => 31

/-- The number of days from 0000-01-01 to the first day of a year. -/
def daysBefore (year : Int) : Int :=
  365 * year + (year + 3) / 4 - (year + 99) / 100 + (year + 399) / 400

/-- The number of days from the first day of a year to the first day of a month. -/
def daysBeforeMonth (year : Int) (month : Nat) : Nat :=
  (List.range (month - 1)).foldl (fun days m => days + daysIn year (m + 1)) 0

/-- The number of days from 0000-01-01 to 1970-01-01. -/
def epoch : Int := daysBefore 1970

/-- The day of a date, counted from 1970-01-01. -/
def dayOf (year : Int) (month day : Nat) : Int :=
  daysBefore year + daysBeforeMonth year month + (day - 1 : Nat) - epoch

/-- The month and the day of the month of the day that is `n` days after the first of `month`. -/
def monthOf (year : Int) (month n : Nat) : Nat → Nat × Nat
  | 0 => (month, n + 1)
  | left + 1 =>
    if n < daysIn year month then (month, n + 1)
    else monthOf year (month + 1) (n - daysIn year month) left

/-- The date of a day. -/
def dateOf (day : Int) : Int × Nat × Nat :=
  let n := day + epoch
  let guess := n * 400 / 146097
  let year := if daysBefore (guess + 1) ≤ n then guess + 1
    else if daysBefore guess ≤ n then guess else guess - 1
  (year, monthOf year 1 (n - daysBefore year).toNat 11)

/-! ### Writing -/

/-- A number with zeros in front up to a width. -/
def padded (width n : Nat) : Text :=
  let ds := Text.ofNat n
  List.replicate (width - ds.length) '0' ++ ds

/-- The year: four digits, or a sign and at least four if it has more or is negative. -/
def yearText (year : Int) : Text :=
  if 0 ≤ year ∧ year ≤ 9999 then padded 4 year.toNat
  else if year < 0 then '-' :: padded 4 year.natAbs
  else '+' :: padded 4 year.toNat

/-- The fraction of a second, with no more digits than it needs, in threes. -/
def fractionText (nanos : Nat) : Text :=
  if nanos = 0 then []
  else if nanos % Nat.pow 10 6 = 0 then '.' :: padded 3 (nanos / Nat.pow 10 6)
  else if nanos % Nat.pow 10 3 = 0 then '.' :: padded 6 (nanos / Nat.pow 10 3)
  else '.' :: padded 9 nanos

/-- The time stamp as it is written. -/
def write (t : Timestamp) : Text :=
  let (year, month, day) := dateOf t.day
  let leap := t.nanos / Nat.pow 10 9
  yearText year ++ '-' :: padded 2 month ++ '-' :: padded 2 day ++ 'T' :: padded 2 (t.second / 3600)
    ++ ':' :: padded 2 (t.second / 60 % 60) ++ ':' :: padded 2 (t.second % 60 + leap)
    ++ fractionText (t.nanos % Nat.pow 10 9) ++ ['Z']

/-! ### Reading -/

/-- The text without the blanks at its start. -/
def skipBlanks (s : Text) : Text := s.dropWhile isBlank

/-- The number at the start of a text, of at least one and at most `width` digits. -/
def readNumber (width : Nat) (s : Text) : Option (Nat × Text) :=
  let ds := (s.take width).takeWhile Char.isDigit
  if ds.isEmpty then none else some (Nat.ofDigitChars 10 ds 0, s.drop ds.length)

/-- The number at the start of a text, after blanks, if it lies within bounds. -/
def readField (width low high : Nat) (s : Text) : Option (Nat × Text) := do
  let (n, r) ← readNumber width (skipBlanks s)
  if low ≤ n ∧ n ≤ high then some (n, r) else none

/-- The text after a separator at its start, before which blanks may stand. -/
def readSeparator (c : Char) (s : Text) : Option Text :=
  match skipBlanks s with
  | x :: r => if x = c then some r else none
  | [] => none

/-- The year at the start of a text: up to four digits, or any number of them after a sign. -/
def readYear (s : Text) : Option (Int × Text) :=
  match skipBlanks s with
  | '-' :: r => (readNumber r.length r).map fun p => (-p.1, p.2)
  | '+' :: r => (readNumber r.length r).map fun p => (p.1, p.2)
  | r => (readNumber 4 r).map fun p => (p.1, p.2)

/-- The fraction of a second at the start of a text, in nanoseconds; further digits are dropped. -/
def readFraction : Text → Option (Nat × Text)
  | '.' :: r => do
    let (n, rest) ← readNumber 9 r
    let width := r.length - rest.length
    return (n * Nat.pow 10 (9 - width), rest.dropWhile Char.isDigit)
  | s => some (0, s)

/-- Two digits at the start of a text. -/
def readTwoDigits : Text → Option (Nat × Text)
  | a :: b :: r => if a.isDigit ∧ b.isDigit then some (Nat.ofDigitChars 10 [a, b] 0, r) else none
  | _ => none

/-- The offset from universal time at the start of a text, in seconds. -/
def readOffset (s : Text) : Option (Int × Text) :=
  let numeric (sign : Int) (s : Text) : Option (Int × Text) := do
    let (h, s) ← readTwoDigits s
    let (m, s) ← readTwoDigits (s.dropWhile fun c => c = ':' || isBlank c)
    if m < 60 then some (sign * (3600 * h + 60 * m : Nat), s) else none
  match s with
  | 'Z' :: r | 'z' :: r => some (0, r)
  | '+' :: r => numeric 1 r
  | '-' :: r | '\u2212' :: r => numeric (-1) r
  | u :: t :: c :: r =>
    if [u, t, c].map Char.toUpper = ['U', 'T', 'C'] then some (0, r) else none
  | _ => none

/-- The instant of a local date and time at an offset from universal time. -/
def ofLocal (day : Int) (second nanos : Nat) (offset : Int) : Timestamp :=
  let n : Int := second - offset
  ⟨day + n / 86400, (n % 86400).toNat, nanos⟩

/-- The years that a time stamp may have. -/
def isYear (year : Int) : Bool := -262143 ≤ year && year ≤ 262142

/-- The time stamp that a text holds. -/
def read (s : Text) : Option Timestamp := do
  let (year, s) ← readYear s
  let (month, s) ← readField 2 1 12 (← readSeparator '-' s)
  let (dayOfMonth, s) ← readField 2 1 31 (← readSeparator '-' s)
  let s ← match s with
    | 'T' :: r | 't' :: r | ' ' :: r => some r
    | _ => none
  let (hour, s) ← readField 2 0 23 s
  let (minute, s) ← readField 2 0 59 (← readSeparator ':' s)
  let (second, s) ← readField 2 0 60 (← readSeparator ':' s)
  let (nanos, s) ← readFraction s
  let (offset, s) ← readOffset (skipBlanks s)
  guard (s.all isBlank)
  guard (isYear year ∧ dayOfMonth ≤ daysIn year month ∧ offset.natAbs < 86400)
  let leap := second / 60
  let t := ofLocal (dayOf year month dayOfMonth)
    (3600 * hour + 60 * minute + (second - leap)) (nanos + leap * Nat.pow 10 9) offset
  guard (isYear (dateOf t.day).1)
  return t

end Timestamp

end TemplateFill
