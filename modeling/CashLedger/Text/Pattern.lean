import CashLedger.Text.Alphanumeric
import CashLedger.Text.Pattern.CharSet

/-!
# Patterns

Which texts are regular expressions that can be matched one byte after the other. Groups
and sets have to be closed, a repetition needs something to repeat, and nothing may stand
too deep inside other things. The edges of words are known for ASCII only.
-/

namespace CashLedger.Text.Pattern

/-- Why a text is no pattern, or none that can be used. -/
inductive Flaw where
  | malformed
  | unicodeWords
  deriving DecidableEq

def deepest : Nat := 250

/-- A group that is open: the flags outside of it, and what stands before it. -/
structure Outside where
  flags : Flags
  items : List Nat
  branches : List Nat

/-- What was read of a pattern: in the innermost open group the heights of the items since
the last bar, latest first, and of the branches before it. -/
structure Reading where
  flags : Flags := {}
  items : List Nat := []
  branches : List Nat := []
  repeatable : Bool := false
  outside : List Outside := []
  names : List (List Char) := []
  unicodeWords : Bool := false

namespace Reading

def add (reading : Reading) (height : Nat) : Reading :=
  { reading with items := height :: reading.items, repeatable := true }

def addSymbol? (reading : Reading) (symbol : Symbol) : Option Reading :=
  if !symbol.isKnown reading.flags then none
  else
    match symbol with
    | .wordEdge =>
      some { reading.add 0 with
        unicodeWords := reading.unicodeWords || reading.flags.unicode }
    | _ => some (reading.add 0)

def repeat? (reading : Reading) : Option Reading :=
  match reading.repeatable, reading.items with
  | true, height :: items => some { reading with items := (height + 1) :: items }
  | _, _ => none

def bar (reading : Reading) : Reading :=
  { reading with
    items := [], branches := heightBeside reading.items :: reading.branches
    repeatable := false }

/-- The height of what was read since the last group was opened. -/
def height (reading : Reading) : Nat :=
  match reading.branches with
  | [] => heightBeside reading.items
  | branches => heightBeside (heightBeside reading.items :: branches)

def openGroup (reading : Reading) (flags : Flags) : Reading :=
  { reading with
    flags, items := [], branches := [], repeatable := false
    outside := ⟨reading.flags, reading.items, reading.branches⟩ :: reading.outside }

def closeGroup? (reading : Reading) : Option Reading :=
  match reading.outside with
  | [] => none
  | ⟨flags, items, branches⟩ :: outside =>
    some { reading with
      flags, items := (reading.height + 1) :: items, branches, repeatable := true, outside }

/-- A flag is set, or taken back if it stands behind a hyphen. -/
def isSet (word : List Char) (flag : Char) (before : Bool) : Bool :=
  if flag ∈ word.takeWhile (· ≠ '-') then true
  else if flag ∈ word then false
  else before

def flagged (flags : Flags) (word : List Char) : Flags where
  anyCase := isSet word 'i' flags.anyCase
  unicode := isSet word 'u' flags.unicode
  spaced := isSet word 'x' flags.spaced

/-- Each flag stands once, and one hyphen before some of them. -/
def areFlags (word : List Char) : Bool :=
  word.all (· ∈ ['i', 'm', 's', 'U', 'u', 'R', 'x', '-']) && word.eraseDups = word
    && word.getLast? ≠ some '-'

/-- Flags up to a bracket hold from there on, flags up to a colon inside a group. Flags are
nothing to repeat. -/
def readFlags? (reading : Reading) (chars : List Char) : Option (Reading × List Char) :=
  let word := chars.takeWhile fun c => c ≠ ':' && c ≠ ')'
  let flags := flagged reading.flags word
  if !areFlags word then none
  else
    match chars.drop word.length with
    | ':' :: rest => some (reading.openGroup flags, rest)
    | ')' :: rest =>
      if word = [] then none
      else some ({ reading.add 0 with flags, repeatable := false }, rest)
    | _ => none

/-- The name of a group starts with a letter or an underscore. -/
def isName (name : List Char) : Bool :=
  ((name.take 1).any fun c => c = '_' || isAlphabetic c)
    && (name.drop 1).all fun c => isAlphanumeric c || c ∈ ['_', '.', '[', ']']

/-- No two groups have the same name. -/
def readName? (reading : Reading) (chars : List Char) : Option (Reading × List Char) :=
  let name := chars.takeWhile (· ≠ '>')
  match chars.drop name.length with
  | '>' :: rest =>
    if isName name && name ∉ reading.names then
      some ({ reading.openGroup reading.flags with names := name :: reading.names }, rest)
    else none
  | _ => none

/-- What stands behind an opening bracket. -/
def readGroup? (reading : Reading) : List Char → Option (Reading × List Char)
  | '?' :: 'P' :: '<' :: rest => reading.readName? rest
  | '?' :: '<' :: rest => reading.readName? rest
  | '?' :: rest => reading.readFlags? rest
  | rest => some (reading.openGroup reading.flags, rest)

def isRepetition (c : Char) : Bool := c ∈ ['*', '+', '?']

/-- One item of a pattern, or a mark. Counted repetitions are left out. -/
def step? (reading : Reading) : List Char → Option (Reading × List Char)
  | [] => none
  | c :: rest =>
    match c with
    | '(' => reading.readGroup? (reading.flags.skip rest)
    | ')' => reading.closeGroup?.map (·, rest)
    | '|' => some (reading.bar, rest)
    | '[' => do
      let inner ← CharSet.enter? reading.flags rest
      let (height, rest) ← CharSet.read? reading.flags (rest.length + 1) true none [] inner
      some (reading.add (height + 1), rest)
    | '{' => none
    | '\\' => do
      let (symbol, rest) ← Symbol.readEscape? reading.flags rest
      let reading ← reading.addSymbol? symbol
      some (reading, rest)
    | '.' => (reading.addSymbol? .any).map (·, rest)
    | '^' | '$' => (reading.addSymbol? .edge).map (·, rest)
    | _ =>
      if isRepetition c then
        reading.repeat?.map (·, if rest.head? = some '?' then rest.drop 1 else rest)
      else (reading.addSymbol? (.char c.toNat false)).map (·, rest)

def run? : (fuel : Nat) → Reading → List Char → Option Reading
  | 0, _, _ => none
  | fuel + 1, reading, chars =>
    match reading.flags.skip chars with
    | [] => some reading
    | chars => do
      let (reading, rest) ← reading.step? chars
      run? fuel reading rest

end Reading

/-- What is wrong with a text as a pattern. -/
def flaw? (chars : List Char) : Option Flaw :=
  match Reading.run? (chars.length + 1) {} chars with
  | none => some .malformed
  | some reading =>
    if reading.outside.length ≠ 0 || deepest < reading.height then some .malformed
    else if reading.unicodeWords then some .unicodeWords
    else none

end CashLedger.Text.Pattern
