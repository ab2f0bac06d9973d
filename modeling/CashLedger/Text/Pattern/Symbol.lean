import CashLedger.Text.Blank
import CashLedger.Uuid

/-!
# Symbols of patterns

The flags that hold at a place of a regular expression, and its single symbols. There are
no tables of characters, so that classes of characters and any case are known for ASCII only,
and what is matched is never a part of a character.
-/

namespace CashLedger.Text.Pattern

structure Flags where
  anyCase : Bool := false
  unicode : Bool := true
  /-- Blanks do not count, nor what a `#` takes out of a line. -/
  spaced : Bool := false

namespace Flags

/-- Drops blanks and comments. -/
def skipBlanks : (inComment : Bool) → List Char → List Char
  | _, [] => []
  | true, c :: rest => skipBlanks (c ≠ '\n') rest
  | false, c :: rest =>
    if isBlank c then skipBlanks false rest
    else if c = '#' then skipBlanks true rest
    else c :: rest

def skip (flags : Flags) (chars : List Char) : List Char :=
  if flags.spaced then skipBlanks false chars else chars

/-- The next character that counts. A look ahead sees into the first comment. -/
def peek (flags : Flags) (chars : List Char) : Option Char :=
  if flags.spaced then
    match chars.dropWhile isBlank with
    | '#' :: rest => (rest.dropWhile isBlank).head?
    | rest => rest.head?
  else chars.head?

end Flags

inductive Symbol where
  /-- A character, which two digits behind `\x` may stand for as a byte. -/
  | char (code : Nat) (isByte : Bool)
  | any
  /-- The digits, the blanks or the characters of words, or all others. -/
  | ofClass (negated : Bool)
  /-- An end of the text or of a line. -/
  | edge
  | wordEdge

namespace Symbol

def isKnown (flags : Flags) : Symbol → Bool
  | char code isByte => if flags.unicode then !flags.anyCase else !isByte || code < 0x80
  | any => flags.unicode
  | ofClass negated => !flags.unicode && !negated
  | edge | wordEdge => true

/-- Without Unicode the members of a set are bytes. -/
def isMember (flags : Flags) : Symbol → Bool
  | char code _ => if flags.unicode then !flags.anyCase else code < 0x80
  | ofClass negated => !flags.unicode && !negated
  | any | edge | wordEdge => false

/-- Control characters by the letter behind a backslash. -/
def controls : List (Char × Nat) :=
  [('a', 0x07), ('t', 0x09), ('n', 0x0A), ('v', 0x0B), ('f', 0x0C), ('r', 0x0D)]

/-- As many hex digits, each with blanks behind it. -/
def readDigits? (flags : Flags) : (count code : Nat) → List Char → Option (Nat × List Char)
  | 0, code, chars => some (code, chars)
  | _, _, [] => none
  | count + 1, code, c :: rest => do
    let digit ← Uuid.hexValue? c
    readDigits? flags count (16 * code + digit) (flags.skip rest)

def readCode? (flags : Flags) (count : Nat) (chars : List Char) : Option (Symbol × List Char) := do
  let (code, rest) ← readDigits? flags count 0 (flags.skip chars)
  if Nat.isValidChar code then some (char code (count = 2), rest) else none

/-- What is written behind a backslash. -/
def readEscape? (flags : Flags) : List Char → Option (Symbol × List Char)
  | [] => none
  | c :: rest =>
    match c with
    | 'x' => readCode? flags 2 rest
    | 'u' => readCode? flags 4 rest
    | 'U' => readCode? flags 8 rest
    | 'd' | 's' | 'w' => some (ofClass false, rest)
    | 'D' | 'S' | 'W' => some (ofClass true, rest)
    | 'A' | 'z' => some (edge, rest)
    | 'b' | 'B' | '<' | '>' => some (wordEdge, rest)
    | _ =>
      if c.toNat < 0x80 && !c.isAlphanum then some (char c.toNat false, rest)
      else (controls.lookup c).map fun code => (char code false, rest)

end Symbol

/-- The height of things beside each other, given their heights. -/
def heightBeside : List Nat → Nat
  | [] => 0
  | [height] => height
  | heights => heights.foldl max 0 + 1

end CashLedger.Text.Pattern
