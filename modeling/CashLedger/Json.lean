import CashLedger.Amount

/-!
# JSON values

Values with the fields of an object in order, and their compact text: no spaces, every
character above the control characters as it is.
-/

namespace CashLedger

inductive Json where
  | null
  | bool (value : Bool)
  /-- `mantissa` divided by ten to the power of `places`. -/
  | number (mantissa : Int) (places : Nat)
  | string (text : String)
  | array (items : List Json)
  | object (fields : List (String × Json))

namespace Json

instance : Inhabited Json := ⟨null⟩

def int (n : Int) : Json := number n 0

/-- The first field of a name; a value that is no object has none. -/
def get? (json : Json) (name : String) : Option Json :=
  match json with
  | object fields => fields.lookup name
  | _ => none

def escapeChar (c : Char) : List Char :=
  if c = '"' then ['\\', '"']
  else if c = '\\' then ['\\', '\\']
  else if c = '\n' then ['\\', 'n']
  else if c = '\r' then ['\\', 'r']
  else if c = '\t' then ['\\', 't']
  else if c.toNat = 0x08 then ['\\', 'b']
  else if c.toNat = 0x0C then ['\\', 'f']
  else if c.toNat < 0x20 then
    ['\\', 'u', '0', '0', Nat.digitChar (c.toNat / 16), Nat.digitChar (c.toNat % 16)]
  else [c]

def quote (text : String) : String :=
  "\"" ++ String.ofList (text.toList.flatMap escapeChar) ++ "\""

def renderNumber (mantissa : Int) (places : Nat) : String :=
  String.ofList ((if mantissa < 0 then ['-'] else []) ++
    Amount.pointed places (Nat.toDigits 10 mantissa.natAbs))

mutual

def render : Json → String
  | null => "null"
  | bool value => if value then "true" else "false"
  | number mantissa places => renderNumber mantissa places
  | string text => quote text
  | array items => "[" ++ renderItems items ++ "]"
  | object fields => "\x7b" ++ renderFields fields ++ "\x7d"

def renderItems : List Json → String
  | [] => ""
  | [item] => render item
  | item :: rest => render item ++ "," ++ renderItems rest

def renderFields : List (String × Json) → String
  | [] => ""
  | [(name, value)] => quote name ++ ":" ++ render value
  | (name, value) :: rest => quote name ++ ":" ++ render value ++ "," ++ renderFields rest

end

end Json

end CashLedger
