import CashLedger.Text.Pattern.Symbol

/-!
# Sets of characters in patterns

What stands between brackets: characters, ranges that do not run backwards, classes with a
name, sets, and the operations `&&`, `--` and `~~` on what stands on their left and right.
-/

namespace CashLedger.Text.Pattern.CharSet

def classNames : List String :=
  ["alnum", "alpha", "ascii", "blank", "cntrl", "digit", "graph", "lower", "print", "punct",
   "space", "upper", "word", "xdigit"]

/-- A class with a name, behind its first bracket: whether all other characters are meant,
and what follows. -/
def readClass? (chars : List Char) : Option (Bool × List Char) :=
  match chars with
  | ':' :: rest =>
    let negated := rest.head? = some '^'
    let word := if negated then rest.drop 1 else rest
    let name := word.takeWhile (· ≠ ':')
    match word.drop name.length with
    | ':' :: ']' :: rest =>
      if String.ofList name ∈ classNames then some (negated, rest) else none
    | _ => none
  | _ => none

/-- A class is made of characters, and without Unicode it must not reach beyond ASCII. -/
def isKnownClass (flags : Flags) (negated : Bool) : Bool :=
  if flags.unicode then !flags.anyCase else !negated

/-- One end of a range. -/
def readEnd? (flags : Flags) : List Char → Option (Symbol × List Char)
  | [] => none
  | '\\' :: rest => Symbol.readEscape? flags rest
  | c :: rest => some (.char c.toNat false, rest)

/-- A character, a class or a range. A hyphen before a bracket or a hyphen makes no range. -/
def readMember? (flags : Flags) (chars : List Char) : Option (List Char) := do
  let (low, rest) ← readEnd? flags chars
  let rest := flags.skip rest
  if !low.isMember flags then none
  else
    match rest with
    | '-' :: after =>
      if flags.peek after = some ']' || flags.peek after = some '-' then some rest
      else
        let (high, rest) ← readEnd? flags (flags.skip after)
        match low, high with
        | .char first _, .char last _ =>
          if high.isMember flags && first ≤ last then some rest else none
        | _, _ => none
    | _ => some rest

/-- Behind the bracket that opens a set. All but some characters may be meant, but without
Unicode that would reach beyond ASCII. -/
def enter? (flags : Flags) (chars : List Char) : Option (List Char) :=
  match flags.skip chars with
  | '^' :: rest => if flags.unicode then some rest else none
  | rest => some rest

/-- The height of an operation, if something stands on its left. -/
def heightOf (left : Option Nat) (members : List Nat) : Nat :=
  match left with
  | none => heightBeside members
  | some left => max left (heightBeside members) + 1

/-- The height of a set and what follows it, given the heights of what was read of it.
Hyphens that come first stand for themselves, and so does a closing bracket that does. -/
def read? (flags : Flags) : (fuel : Nat) → (fresh : Bool) → (left : Option Nat) →
    (members : List Nat) → List Char → Option (Nat × List Char)
  | 0, _, _, _, _ => none
  | fuel + 1, fresh, left, members, chars =>
    let isMark := fresh && (Symbol.char 0 false).isMember flags
    match flags.skip chars with
    | [] => none
    | ']' :: rest =>
      if fresh && members = [] then
        if isMark then read? flags fuel false left [0] rest else none
      else some (heightOf left members, rest)
    | '[' :: rest =>
      match readClass? rest with
      | some (negated, rest) =>
        if isKnownClass flags negated then read? flags fuel false left (0 :: members) rest
        else none
      | none => do
        let inner ← enter? flags rest
        let (height, rest) ← read? flags fuel true none [] inner
        read? flags fuel false left ((height + 1) :: members) rest
    | '&' :: '&' :: rest => read? flags fuel false (some (heightOf left members)) [] rest
    | '~' :: '~' :: rest => read? flags fuel false (some (heightOf left members)) [] rest
    | '-' :: rest =>
      if fresh then
        if isMark then read? flags fuel true left (0 :: members) rest else none
      else
        match rest with
        | '-' :: rest => read? flags fuel false (some (heightOf left members)) [] rest
        | _ => do
          let rest ← readMember? flags ('-' :: rest)
          read? flags fuel false left (0 :: members) rest
    | chars => do
      let rest ← readMember? flags chars
      read? flags fuel false left (0 :: members) rest

end CashLedger.Text.Pattern.CharSet
