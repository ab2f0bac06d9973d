import CashLedger.Amount

/-!
# Kinds of legs, records and debts

A leg moves money out of a balance or into it. Records and debts say the same in their
own words; each word has one direction, and each kind an older integer code.
-/

namespace CashLedger

/-- Which way a leg moves money over a balance. -/
inductive Direction where
  | debit
  | credit
  deriving DecidableEq

inductive RecordKind where
  /-- Money went out of the balance. -/
  | sell
  /-- Money came into the balance. -/
  | buy
  deriving DecidableEq

inductive DebtKind where
  /-- The user lent money, which left a balance; such amounts are kept negative. -/
  | lend
  /-- The user borrowed money, which came into a balance; kept positive. -/
  | borrow
  deriving DecidableEq

inductive DebtStatus where
  | opening
  | installment
  deriving DecidableEq

namespace Direction

def word : Direction → String
  | debit => "Debit"
  | credit => "Credit"

def ofWord? (word : String) : Option Direction :=
  if word = "Debit" then some debit else if word = "Credit" then some credit else none

end Direction

namespace RecordKind

def direction : RecordKind → Direction
  | sell => .debit
  | buy => .credit

def ofDirection : Direction → RecordKind
  | .debit => sell
  | .credit => buy

def word : RecordKind → String
  | sell => "SELL"
  | buy => "BUY"

def code : RecordKind → Int
  | sell => 1
  | buy => 2

def ofWord? (word : String) : Option RecordKind :=
  if word = "SELL" then some sell else if word = "BUY" then some buy else none

def ofCode? (code : Int) : Option RecordKind :=
  if code = 1 then some sell else if code = 2 then some buy else none

theorem ofDirection_direction (kind : RecordKind) : ofDirection kind.direction = kind := by
  cases kind <;> rfl

theorem direction_ofDirection (way : Direction) : (ofDirection way).direction = way := by
  cases way <;> rfl

end RecordKind

namespace DebtKind

def direction : DebtKind → Direction
  | lend => .debit
  | borrow => .credit

/-- A positive amount with the sign that debts of this kind are kept with. -/
def signed (kind : DebtKind) (amount : Amount) : Amount :=
  match kind with
  | lend => -amount
  | borrow => amount

def word : DebtKind → String
  | lend => "LEND"
  | borrow => "BORROW"

def code : DebtKind → Int
  | lend => 1
  | borrow => 2

def ofWord? (word : String) : Option DebtKind :=
  if word = "LEND" then some lend else if word = "BORROW" then some borrow else none

def ofCode? (code : Int) : Option DebtKind :=
  if code = 1 then some lend else if code = 2 then some borrow else none

end DebtKind

namespace DebtStatus

def word : DebtStatus → String
  | opening => "OPENING"
  | installment => "INSTALLMENT"

def ofWord? (word : String) : Option DebtStatus :=
  if word = "OPENING" then some opening
  else if word = "INSTALLMENT" then some installment
  else none

end DebtStatus

end CashLedger
