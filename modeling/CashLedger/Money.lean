import CashLedger.Amount
import CashLedger.Text.Blank
import CashLedger.Text.UpperCase

/-!
# Money

Currency codes and amounts of a currency. A code is kept as it was given; only
`Currency.ofText` trims and upper-cases it.
-/

namespace CashLedger

structure Currency where
  code : String
  deriving DecidableEq

namespace Currency

instance : Inhabited Currency := ⟨⟨""⟩⟩

/-- The currency a user means by a text: blanks around it and its case do not matter. -/
def ofText (text : String) : Currency := ⟨Text.upper (Text.trim text)⟩

/-- A code is three capital letters. -/
def isValid (currency : Currency) : Bool :=
  currency.code.toList.length = 3 && currency.code.toList.all fun c => 'A' ≤ c && c ≤ 'Z'

def decimalPlaces (currency : Currency) : Nat :=
  if currency.code ∈ ["JPY", "KRW", "VND"] then 0
  else if currency.code ∈ ["BHD", "KWD", "OMR"] then 3
  else 2

def toText (currency : Currency) : String := currency.code

def usd : Currency := ofText "USD"
def eur : Currency := ofText "EUR"
def rub : Currency := ofText "RUB"
def uzs : Currency := ofText "UZS"

/-- Codes are ordered character by character, which is the order of their UTF-8 bytes. -/
instance : LE Currency := ⟨fun a b => a.code ≤ b.code⟩

instance (a b : Currency) : Decidable (a ≤ b) := inferInstanceAs (Decidable (a.code ≤ b.code))

end Currency

/-- An amount of a currency. The sign means something only where it is said so. -/
structure Money where
  amount : Amount
  currency : Currency
  deriving DecidableEq

namespace Money

def toMajor (money : Money) : String :=
  Amount.toMajor money.amount money.currency.decimalPlaces

/-- The amount in major units and the currency, such as `123.45 USD`. -/
def toText (money : Money) : String := money.toMajor ++ " " ++ money.currency.toText

end Money

end CashLedger
