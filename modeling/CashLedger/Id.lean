import CashLedger.Uuid

/-!
# Identifiers of ledger rows

Each kind of row has identifiers of its own type, so that a balance's identifier cannot
stand where a debtor's is due.
-/

namespace CashLedger

inductive IdKind where
  | user
  | company
  | balance
  | record
  | transaction
  | exchange
  | debtor
  | debt
  deriving DecidableEq

structure Id (kind : IdKind) where
  uuid : Uuid
  deriving DecidableEq

abbrev UserId := Id .user
abbrev CompanyId := Id .company
abbrev BalanceId := Id .balance
abbrev RecordId := Id .record
/-- Groups the two legs of a manual transaction. -/
abbrev TransactionId := Id .transaction
abbrev ExchangeId := Id .exchange
abbrev DebtorId := Id .debtor
abbrev DebtId := Id .debt

namespace Id

variable {kind : IdKind}

instance : Inhabited (Id kind) := ⟨⟨default⟩⟩

instance : LE (Id kind) := ⟨fun a b => a.uuid ≤ b.uuid⟩

instance : LT (Id kind) := ⟨fun a b => a.uuid < b.uuid⟩

instance (a b : Id kind) : Decidable (a ≤ b) := inferInstanceAs (Decidable (a.uuid ≤ b.uuid))

instance (a b : Id kind) : Decidable (a < b) := inferInstanceAs (Decidable (a.uuid < b.uuid))

def toText (id : Id kind) : String := id.uuid.toText

def parse? (text : String) : Option (Id kind) := (Uuid.parse? text).map Id.mk

end Id

end CashLedger
