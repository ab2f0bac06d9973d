import CashLedger.Calendar
import CashLedger.Text.Blank
import CashLedger.Timestamp

/-!
# Moments as text

A moment is written in the notation of RFC 3339: the fraction of the second has no digits,
or the fewest of 3, 6 and 9 that are exact, and years outside 0 to 9999 carry a sign. What
is read may be looser: leading zeros may be missing, blanks may stand before a number or a
mark and at the end, and the zone may be any offset of hours and minutes.
-/

namespace CashLedger.Timestamp

/-- The last `width` decimal digits of `n`, most significant first. -/
def decimalDigits : Nat → Nat → List Char
  | 0, _ => []
  | width + 1, n => decimalDigits width (n / 10) ++ [Char.ofNat (0x30 + n % 10)]

/-- Years outside 0 to 9999 carry a sign. -/
def yearText (year : Int) : List Char :=
  if 0 ≤ year ∧ year ≤ 9999 then decimalDigits 4 year.toNat
  else
    let digits := Nat.toDigits 10 year.natAbs
    (if year < 0 then '-' else '+') :: (List.replicate (4 - digits.length) '0' ++ digits)

def fractionText (nanos : Nat) : List Char :=
  if nanos = 0 then []
  else if nanos % 1000000 = 0 then '.' :: decimalDigits 3 (nanos / 1000000)
  else if nanos % 1000 = 0 then '.' :: decimalDigits 6 (nanos / 1000)
  else '.' :: decimalDigits 9 nanos

/-- A leap second is second 60. -/
def toChars (moment : Timestamp) : List Char :=
  let date := Date.ofDays (moment.seconds / 86400)
  let clock := (moment.seconds % 86400).toNat
  let second := clock % 60 + moment.nanos / 1000000000
  yearText date.year ++ '-' :: (decimalDigits 2 date.month ++ '-' ::
    (decimalDigits 2 date.day ++ 'T' :: (decimalDigits 2 (clock / 3600) ++ ':' ::
      (decimalDigits 2 (clock / 60 % 60) ++ ':' :: (decimalDigits 2 second ++
        (fractionText (moment.nanos % 1000000000) ++ ['Z']))))))

def toText (moment : Timestamp) : String := String.ofList moment.toChars

def isDigit (c : Char) : Bool := '0' ≤ c && c ≤ '9'

def digitsValue (digits : List Char) : Nat :=
  digits.foldl (fun n c => 10 * n + (c.toNat - 0x30)) 0

/-- The number that the digits at the front stand for: one digit at least, and no more
than `most`. -/
def readNumber? (most : Nat) (text : List Char) : Option (Nat × List Char) :=
  let digits := (text.take most).takeWhile isDigit
  if digits = [] then none else some (digitsValue digits, text.drop digits.length)

def skipBlanks (text : List Char) : List Char := text.dropWhile Text.isBlank

/-- A part of a date or a time of day: one digit or two. -/
def readPart? (text : List Char) : Option (Nat × List Char) := readNumber? 2 (skipBlanks text)

def readMark? (mark : Char) (text : List Char) : Option (List Char) :=
  match skipBlanks text with
  | [] => none
  | c :: rest => if c = mark then some rest else none

/-- A year of up to four digits, or one of any length behind a sign. -/
def readYear? (text : List Char) : Option (Int × List Char) :=
  match skipBlanks text with
  | '-' :: rest => (readNumber? rest.length rest).map fun (n, rest) => (-(n : Int), rest)
  | '+' :: rest => (readNumber? rest.length rest).map fun (n, rest) => ((n : Int), rest)
  | rest => (readNumber? 4 rest).map fun (n, rest) => ((n : Int), rest)

def readDate? (text : List Char) : Option (Date × List Char) := do
  let (year, rest) ← readYear? text
  let rest ← readMark? '-' rest
  let (month, rest) ← readPart? rest
  let rest ← readMark? '-' rest
  let (day, rest) ← readPart? rest
  let date : Date := ⟨year, month, day⟩
  if date.isValid && Date.covers date.toDays then some (date, rest) else none

/-- What divides the date from the time of day. -/
def readDivider? : List Char → Option (List Char)
  | 'T' :: rest | 't' :: rest | ' ' :: rest => some rest
  | _ => none

/-- Nanoseconds that a fraction of a second stands for; digits past the ninth are
dropped. -/
def fractionNanos (digits : List Char) : Nat :=
  digitsValue ((digits ++ List.replicate 9 '0').take 9)

/-- A fraction, if there is one: a point and at least one digit. -/
def readFraction? : List Char → Option (Nat × List Char)
  | '.' :: rest =>
    let digits := rest.takeWhile isDigit
    if digits = [] then none else some (fractionNanos digits, rest.dropWhile isDigit)
  | rest => some (0, rest)

/-- Minutes since midnight, the second of the minute and its fraction. -/
def readClock? (text : List Char) : Option (Nat × Nat × Nat × List Char) := do
  let (hour, rest) ← readPart? text
  let rest ← readMark? ':' rest
  let (minute, rest) ← readPart? rest
  let rest ← readMark? ':' rest
  let (second, rest) ← readPart? rest
  let (fraction, rest) ← readFraction? rest
  if hour < 24 ∧ minute < 60 then some (hour * 60 + minute, second, fraction, rest) else none

/-- A sign: 1 or -1. The minus may be the hyphen or the sign of its own. -/
def readSign? : List Char → Option (Int × List Char)
  | '+' :: rest => some (1, rest)
  | '-' :: rest | '\u2212' :: rest => some (-1, rest)
  | _ => none

/-- Two digits. -/
def readPair? : List Char → Option (Nat × List Char)
  | a :: b :: rest => if isDigit a && isDigit b then some (digitsValue [a, b], rest) else none
  | _ => none

/-- Minutes by which a zone is ahead of UTC, less than a day. Colons and blanks may stand
between the hours and the minutes. -/
def readOffset? (text : List Char) : Option (Int × List Char) := do
  let (sign, rest) ← readSign? text
  let (hours, rest) ← readPair? rest
  let (minutes, rest) ← readPair? (rest.dropWhile fun c => c = ':' || Text.isBlank c)
  if hours < 24 ∧ minutes < 60 then some (sign * (hours * 60 + minutes), rest) else none

/-- UTC by its name or its letter, in either case, or an offset. -/
def readZone? (text : List Char) : Option (Int × List Char) :=
  if (text.take 3).map Char.toUpper = ['U', 'T', 'C'] then some (0, text.drop 3)
  else if (text.take 1).map Char.toUpper = ['Z'] then some (0, text.drop 1)
  else readOffset? text

def parseChars? (text : List Char) : Option Timestamp := do
  let (date, rest) ← readDate? text
  let rest ← readDivider? rest
  let (minute, second, fraction, rest) ← readClock? rest
  let (ahead, rest) ← readZone? (skipBlanks rest)
  let moment ← inMinute? (date.toDays * 1440 + minute - ahead) second fraction
  if skipBlanks rest = [] ∧ Date.covers (moment.seconds / 86400) then some moment else none

def parse? (text : String) : Option Timestamp := parseChars? text.toList

end CashLedger.Timestamp
