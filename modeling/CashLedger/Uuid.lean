/-!
# 128-bit identifiers

A universally unique identifier is a 128-bit number. It is written as 32 lower-case hex
digits in hyphenated groups, and read in four notations. Identifiers are ordered as
numbers, which is the order of their bytes.
-/

namespace CashLedger

structure Uuid where
  value : BitVec 128
  deriving DecidableEq

namespace Uuid

instance : Inhabited Uuid := ⟨⟨0⟩⟩

instance : LE Uuid := ⟨fun a b => a.value.toNat ≤ b.value.toNat⟩

instance : LT Uuid := ⟨fun a b => a.value.toNat < b.value.toNat⟩

instance (a b : Uuid) : Decidable (a ≤ b) :=
  inferInstanceAs (Decidable (a.value.toNat ≤ b.value.toNat))

instance (a b : Uuid) : Decidable (a < b) :=
  inferInstanceAs (Decidable (a.value.toNat < b.value.toNat))

def hexDigit (n : Nat) : Char :=
  if n < 10 then Char.ofNat (0x30 + n) else Char.ofNat (0x57 + n)

def hexValue? (c : Char) : Option Nat :=
  if '0' ≤ c ∧ c ≤ '9' then some (c.toNat - 0x30)
  else if 'a' ≤ c ∧ c ≤ 'f' then some (c.toNat - 0x57)
  else if 'A' ≤ c ∧ c ≤ 'F' then some (c.toNat - 0x37)
  else none

/-- The last `count` hex digits of `n`, most significant first. -/
def hexDigits : Nat → Nat → List Char
  | 0, _ => []
  | count + 1, n => hexDigits count (n / 16) ++ [hexDigit (n % 16)]

/-- The number that hex digits of either case stand for. -/
def readHex? (digits : List Char) : Option Nat :=
  digits.foldlM (fun n c => (hexValue? c).map (16 * n + ·)) 0

/-- The same characters with a hyphen after the 8th, 12th, 16th and 20th. -/
def hyphenate (digits : List Char) : List Char :=
  digits.take 8 ++ '-' :: ((digits.drop 8).take 4 ++ '-' :: ((digits.drop 12).take 4 ++
    '-' :: ((digits.drop 16).take 4 ++ '-' :: digits.drop 20)))

/-- The 32 characters that four hyphens divide into groups. -/
def unhyphenate? (text : List Char) : Option (List Char) :=
  if text.length = 36 ∧ text[8]? = some '-' ∧ text[13]? = some '-' ∧ text[18]? = some '-'
      ∧ text[23]? = some '-' then
    some (text.take 8 ++ ((text.drop 9).take 4 ++ ((text.drop 14).take 4 ++
      ((text.drop 19).take 4 ++ text.drop 24))))
  else
    none

def toText (id : Uuid) : String :=
  String.ofList (hyphenate (hexDigits 32 id.value.toNat))

def urnStart : List Char := "urn:uuid:".toList

/-- The hex digits of an identifier written plain, hyphenated, in braces or as a URN, whose
start may be in either case. -/
def digits? (text : List Char) : Option (List Char) :=
  if text.length = 32 then some text
  else if text.length = 36 then unhyphenate? text
  else if text.length = 38 ∧ text.head? = some '\x7b' ∧ text.getLast? = some '\x7d' then
    unhyphenate? ((text.drop 1).take 36)
  else if text.length = 45 ∧ (text.take 9).map Char.toLower = urnStart then unhyphenate? (text.drop 9)
  else none

/-- Reads the hyphenated form, 32 digits without hyphens, the hyphenated form in braces
and behind `urn:uuid:`; nothing may stand around them. -/
def parse? (text : String) : Option Uuid :=
  ((digits? text.toList).bind readHex?).map fun n => ⟨BitVec.ofNat 128 n⟩

/-- The number in the four bits that tell how an identifier was made. -/
def version (id : Uuid) : Nat := (id.value.extractLsb' 76 4).toNat

/-- A time-ordered identifier: 48 bits of milliseconds, then 74 bits of a serial number
around the version and variant marks. -/
def timeOrdered (millis serial : Nat) : Uuid :=
  let low := BitVec.ofNat 74 serial
  ⟨BitVec.ofNat 48 millis ++ 7#4 ++ low.extractLsb' 62 12 ++ 2#2 ++ low.extractLsb' 0 62⟩

end Uuid

end CashLedger
