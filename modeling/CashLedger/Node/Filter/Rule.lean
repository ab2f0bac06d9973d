import CashLedger.Limits
import CashLedger.Log
import CashLedger.Text.Alphanumeric
import CashLedger.Text.Blank
import CashLedger.Text.Pattern

/-!
# Rules of a log filter

A rule is a level by itself, for everything, or `PATH[SPAN{FIELD}]=LEVEL`. Its brackets, its
braces and its level may be missing, and either the path or the brackets. A level is a word
or a number. A field may have a value, `NAME=VALUE`, which is a number or a pattern.
-/

namespace CashLedger.Node

/-- The least level that is shown, if anything is. -/
abbrev Threshold := Option Level

namespace Threshold

/-- Shows all: everything that is logged here is shown at both of the two lowest levels. -/
def everything : Threshold := some .debug

/-- The thresholds by number, from 0 on. -/
def named : List (String × Threshold) :=
  [("off", none), ("error", some .error), ("warn", some .warn), ("info", some .info),
   ("debug", everything), ("trace", everything)]

/-- The case of a level word does not matter. -/
def read? (text : String) : Option Threshold :=
  match readUnsigned? (named.length - 1) text with
  | some n => (named[n]?).map Prod.snd
  | none => named.lookup (String.ofList (text.toList.map Char.toLower))

def shows (threshold : Threshold) (level : Level) : Bool :=
  threshold.any fun least => least.rank ≤ level.rank

end Threshold

/-- A field that has to be there, with this value if one is given. -/
structure WantedField where
  name : String
  value : Option String := none
  deriving DecidableEq

structure Rule where
  /-- How the path of a component has to begin. -/
  path : String := ""
  span : Option String := none
  field : Option WantedField := none
  threshold : Threshold
  deriving DecidableEq

/-- Why a rule makes no sense. -/
inductive Misrule where
  | shape
  | level
  | value (flaw : Text.Pattern.Flaw)
  deriving DecidableEq

def Misrule.message : Misrule → String
  | shape => "invalid filter directive"
  | level => "error parsing level filter: expected one of \"off\", \"error\", \"warn\", "
      ++ "\"info\", \"debug\", \"trace\", or a number 0-5"
  | value .malformed => "invalid field filter: error building NFA"
  | value .unicodeWords => "invalid field filter: unsupported regex feature for DFAs: "
      ++ "cannot build DFAs for regexes with Unicode word boundaries; switch to ASCII word "
      ++ "boundaries, or heuristically enable Unicode word boundaries or use a different "
      ++ "regex engine"

/-- A decimal number with or without a point and an exponent, or a word for one that is not
finite. -/
def isDecimal (chars : List Char) : Bool :=
  let isExponentMark : Char → Bool := fun c => c = 'e' || c = 'E'
  let mantissa := chars.takeWhile fun c => !isExponentMark c
  let exponent := (chars.drop mantissa.length).drop 1
  let power := if exponent.head?.any (· ∈ ['+', '-']) then exponent.drop 1 else exponent
  let digits := mantissa.erase '.'
  (digits ≠ [] && digits.all Char.isDigit
      && (mantissa.length = chars.length || power ≠ [] && power.all Char.isDigit))
    || String.ofList (chars.map Char.toLower) ∈ ["inf", "infinity", "nan"]

/-- All numbers without a sign, and the words `true` and `false`, are patterns. -/
def flawOfValue? (value : String) : Option Text.Pattern.Flaw :=
  match value.toList with
  | '+' :: chars => if isDecimal chars then none else some .malformed
  | chars => Text.Pattern.flaw? chars

/-- The text of a rule. Its marks are looked for between the blanks around it, but its words
are cut out of the whole text at the places of the marks: blanks in front of a rule move all
of its words. -/
structure RuleText where
  chars : List Char

namespace RuleText

def marked (text : RuleText) : List Char := Text.trimChars text.chars

/-- The place of the first of some marks from a place on, or the end. -/
def find (text : RuleText) (marks : List Char) (place : Nat) : Nat :=
  place + ((text.marked.drop place).takeWhile fun c => c ∉ marks).length

def cut (text : RuleText) (first last : Nat) : String :=
  String.ofList ((text.chars.take last).drop first)

def readLevel (text : RuleText) (place : Nat) : Except Misrule Threshold :=
  let word := String.ofList (text.chars.drop place)
  if word = "" then .ok .everything
  else
    match Threshold.read? word with
    | some threshold => .ok threshold
    | none => .error .level

/-- A rule that ends with its brackets shows all. -/
def readEnding (text : RuleText) (place : Nat) : Except Misrule Threshold :=
  match text.marked.drop place with
  | [] => .ok .everything
  | '=' :: _ => text.readLevel (place + 1)
  | _ => .error .shape

def readField (word : String) : Except Misrule WantedField :=
  match word.splitOn "=" with
  | name :: value :: _ =>
    match flawOfValue? value with
    | none => .ok { name, value }
    | some flaw => .error (.value flaw)
  | _ => if word = "" then .error .shape else .ok { name := word }

/-- Braces from a place on. Without a name before them no span is meant. -/
def readBraces (text : RuleText) (path span : String) (place : Nat) : Except Misrule Rule := do
  let close := text.find ['}'] place
  if text.marked.length ≤ close then .error .shape
  let field ← readField (text.cut place close)
  if text.marked[close + 1]? ≠ some ']' then .error .shape
  let threshold ← text.readEnding (close + 2)
  return { path, span := if span = "" then none else some span, field, threshold }

def readBrackets (text : RuleText) (path : String) (place : Nat) : Except Misrule Rule := do
  let close := text.find [']', '{'] place
  let span := text.cut place close
  match text.marked.drop close with
  | ']' :: _ => return { path, span, threshold := ← text.readEnding (close + 1) }
  | '{' :: _ => text.readBraces path span (close + 1)
  | _ => .error .shape

/-- Whether a rule can start so. -/
def canStart (c : Char) : Bool := Text.isAlphanumeric c || c ∈ ['-', ':', '_', '[']

def read (text : RuleText) : Except Misrule Rule := do
  if !(text.marked.take 1).any canStart then .error .shape
  else
    let close := text.find ['=', '['] 0
    let path := text.cut 0 close
    match text.marked.drop close with
    | [] =>
      let word := String.ofList text.chars
      return ((Threshold.read? word).map fun threshold => { threshold }).getD
        { path := word, threshold := .everything }
    | '[' :: _ => text.readBrackets path (close + 1)
    | _ => return { path, threshold := ← text.readLevel (close + 1) }

end RuleText

namespace Rule

def read (text : String) : Except Misrule Rule := RuleText.read ⟨text.toList⟩

def wantsValue (rule : Rule) : Bool := rule.field.any fun field => field.value.isSome

def fitsPath (rule : Rule) (component : Component) : Bool :=
  rule.path.toList.isPrefixOf component.path.toList

def fitsFields (rule : Rule) (fields : List String) : Bool :=
  rule.field.all fun field => field.name ∈ fields

/-- A rule that names a span or wants a value says nothing about events by themselves. The
message of an event is one of its fields. -/
def fitsEvent (rule : Rule) (component : Component) (fields : LogFields) : Bool :=
  rule.span.isNone && !rule.wantsValue && rule.fitsPath component
    && rule.fitsFields ("message" :: fields.map Prod.fst)

/-- A rule that names neither a span nor a field says nothing about spans. No operation of a
node opens a span with fields, so that values are never compared. -/
def fitsSpan (rule : Rule) (component : Component) (name : String) (fields : LogFields) :
    Bool :=
  (rule.span.isSome || rule.field.isSome) && rule.fitsPath component
    && rule.span.all (· = name) && rule.fitsFields (fields.map Prod.fst)

/-- Whether two rules differ in their thresholds only. -/
def sameScope (rule other : Rule) : Bool :=
  rule.path = other.path && rule.span = other.span && rule.field = other.field

/-- Whether a rule says at least as much as another one of where it holds: by the length of
its path, then by its field. -/
def isAsClose (rule other : Rule) : Bool :=
  if rule.path.length = other.path.length then
    match other.field, rule.field with
    | none, _ => true
    | some _, none => false
    | some theirs, some ours => theirs.name ≤ ours.name
  else other.path.length < rule.path.length

end Rule

end CashLedger.Node
