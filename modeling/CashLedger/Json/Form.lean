import CashLedger.Debt
import CashLedger.Exchange
import CashLedger.Json
import CashLedger.Limits
import CashLedger.Timestamp.Text

/-!
# JSON forms

How the values of the ledger are written as JSON and read back. An object may hold fields
that its form does not know; a text that may be missing is written as null and read from
null or from nothing. In place of an object, an array of all its fields in their order can
be read, and in place of a word an object whose only field has that name and is null.
-/

namespace CashLedger

class Form (α : Type) where
  write : α → Json
  read? : Json → Option α

namespace Json

/-- An array with one item for each name, as an object with these names. -/
def named (json : Json) (names : List String) : Json :=
  match json with
  | array items => if items.length = names.length then object (names.zip items) else json
  | _ => json

/-- A word, or the name of the only field of an object, which is null. -/
def word? : Json → Option String
  | string word => some word
  | object [(word, null)] => some word
  | _ => none

/-- The field of a name, which has to be there. -/
def member? {α : Type} [Form α] (json : Json) (name : String) : Option α :=
  (json.get? name).bind Form.read?

/-- A field that may be null or missing. -/
def optionalText? (json : Json) (name : String) : Option (Option String) :=
  match json.get? name with
  | none | some null => some none
  | some (string text) => some (some text)
  | some _ => none

/-- A field that holds an unsigned number up to a bound; a missing one has its default. -/
def unsigned? (json : Json) (name : String) (bound default : Nat) : Option Nat :=
  match json.get? name with
  | none => some default
  | some (number (.ofNat n) 0) => if n ≤ bound then some n else none
  | some _ => none

def optionalText : Option String → Json
  | some text => string text
  | none => null

end Json

namespace Form

instance : Form String where
  write := .string
  read?
    | .string text => some text
    | _ => none

instance : Form Int64 where
  write n := .int n.toInt
  read?
    | .number n 0 => Amount.ofInt? n
    | _ => none

instance {kind : IdKind} : Form (Id kind) where
  write id := .string id.toText
  read?
    | .string text => Id.parse? text
    | _ => none

instance : Form Timestamp where
  write moment := .string moment.toText
  read?
    | .string text => Timestamp.parse? text
    | _ => none

/-- A code is taken as it is written. -/
instance : Form Currency where
  write currency := .string currency.code
  read?
    | .string code => some ⟨code⟩
    | _ => none

instance {α : Type} [Form α] : Form (List α) where
  write values := .array (values.map write)
  read?
    | .array items => items.mapM read?
    | _ => none

/-- A limit that is missing has its standard value. -/
instance : Form Limits where
  write limits := .object
    [("max_debt_legs", .int limits.maxDebtLegs), ("max_details_len", .int limits.maxDetailsLen)]
  read?
    | .object fields => do
      let json := Json.object fields
      let maxDebtLegs ←
        json.unsigned? "max_debt_legs" Limits.largest Limits.standard.maxDebtLegs
      let maxDetailsLen ←
        json.unsigned? "max_details_len" Limits.largest Limits.standard.maxDetailsLen
      some { maxDebtLegs, maxDetailsLen }
    | _ => none

instance : Form Direction where
  write way := .string way.word
  read? json := json.word?.bind Direction.ofWord?

instance : Form RecordKind where
  write kind := .string kind.word
  read? json := json.word?.bind RecordKind.ofWord?

instance : Form DebtKind where
  write kind := .string kind.word
  read? json := json.word?.bind DebtKind.ofWord?

instance : Form DebtStatus where
  write status := .string status.word
  read? json := json.word?.bind DebtStatus.ofWord?

instance : Form Money where
  write money := .object [("amount", write money.amount), ("currency", write money.currency)]
  read? json := do
    let json := json.named ["amount", "currency"]
    let amount ← json.member? "amount"
    let currency ← json.member? "currency"
    some ⟨amount, currency⟩

instance : Form User where
  write user := .object [("id", write user.id), ("company_id", write user.companyId)]
  read? json := do
    let json := json.named ["id", "company_id"]
    let id ← json.member? "id"
    let companyId ← json.member? "company_id"
    some ⟨id, companyId⟩

/-- The word and the identifier of a source. Only the word of an object may itself be an
object with one field. -/
def sourceParts? (json : Json) : Option (String × Json) :=
  match json with
  | .array [.string word, id] => some (word, id)
  | .object _ => (json.get? "type").bind Json.word? |>.map (·, (json.get? "id").getD .null)
  | _ => none

/-- The word says which kind of source it is; a manual one has no identifier. -/
instance : Form RecordSource where
  write
    | .manual => .object [("type", .string "manual")]
    | .transaction id => .object [("type", .string "transaction"), ("id", write id)]
    | .exchange id => .object [("type", .string "exchange"), ("id", write id)]
    | .debt id => .object [("type", .string "debt"), ("id", write id)]
  read? json := do
    let (word, id) ← sourceParts? json
    if word = "manual" then
      match id with
      | .null => some .manual
      | _ => none
    else if word = "transaction" then (read? id).map .transaction
    else if word = "exchange" then (read? id).map .exchange
    else if word = "debt" then (read? id).map .debt
    else none

instance : Form Balance where
  write balance := .object
    [("id", write balance.id), ("user_id", write balance.userId),
     ("company_id", write balance.companyId), ("currency", write balance.currency),
     ("balance", write balance.funds), ("in_out_lay", write balance.outgoing),
     ("out_in_lay", write balance.incoming), ("version", write balance.version),
     ("created_at", write balance.createdAt), ("updated_at", write balance.updatedAt)]
  read? json := do
    let json := json.named
      ["id", "user_id", "company_id", "currency", "balance", "in_out_lay", "out_in_lay",
       "version", "created_at", "updated_at"]
    let id ← json.member? "id"
    let userId ← json.member? "user_id"
    let companyId ← json.member? "company_id"
    let currency ← json.member? "currency"
    let funds ← json.member? "balance"
    let outgoing ← json.member? "in_out_lay"
    let incoming ← json.member? "out_in_lay"
    let version ← json.member? "version"
    let createdAt ← json.member? "created_at"
    let updatedAt ← json.member? "updated_at"
    some { id, userId, companyId, currency, funds, outgoing, incoming, version, createdAt,
           updatedAt }

instance : Form Record where
  write record := .object
    [("id", write record.id), ("balance_id", write record.balanceId),
     ("user_id", write record.userId), ("company_id", write record.companyId),
     ("kind", write record.kind), ("amount", write record.amount),
     ("currency", write record.currency), ("source", write record.source),
     ("details", Json.optionalText record.details), ("created_at", write record.createdAt),
     ("updated_at", write record.updatedAt)]
  read? json := do
    let json := json.named
      ["id", "balance_id", "user_id", "company_id", "kind", "amount", "currency", "source",
       "details", "created_at", "updated_at"]
    let id ← json.member? "id"
    let balanceId ← json.member? "balance_id"
    let userId ← json.member? "user_id"
    let companyId ← json.member? "company_id"
    let kind ← json.member? "kind"
    let amount ← json.member? "amount"
    let currency ← json.member? "currency"
    let source ← json.member? "source"
    let details ← json.optionalText? "details"
    let createdAt ← json.member? "created_at"
    let updatedAt ← json.member? "updated_at"
    some { id, balanceId, userId, companyId, kind, amount, currency, source, details,
           createdAt, updatedAt }

instance : Form Exchange where
  write exchange := .object
    [("id", write exchange.id), ("user_id", write exchange.userId),
     ("company_id", write exchange.companyId), ("received", write exchange.received),
     ("sold", write exchange.sold), ("details", Json.optionalText exchange.details),
     ("created_at", write exchange.createdAt), ("updated_at", write exchange.updatedAt)]
  read? json := do
    let json := json.named
      ["id", "user_id", "company_id", "received", "sold", "details", "created_at", "updated_at"]
    let id ← json.member? "id"
    let userId ← json.member? "user_id"
    let companyId ← json.member? "company_id"
    let received ← json.member? "received"
    let sold ← json.member? "sold"
    let details ← json.optionalText? "details"
    let createdAt ← json.member? "created_at"
    let updatedAt ← json.member? "updated_at"
    some { id, userId, companyId, received, sold, details, createdAt, updatedAt }

instance : Form Debtor where
  write debtor := .object
    [("id", write debtor.id), ("user_id", write debtor.userId),
     ("company_id", write debtor.companyId), ("name", write debtor.name),
     ("phone", Json.optionalText debtor.phone), ("currency", write debtor.currency),
     ("balance", write debtor.balance), ("version", write debtor.version),
     ("created_at", write debtor.createdAt), ("updated_at", write debtor.updatedAt)]
  read? json := do
    let json := json.named
      ["id", "user_id", "company_id", "name", "phone", "currency", "balance", "version",
       "created_at", "updated_at"]
    let id ← json.member? "id"
    let userId ← json.member? "user_id"
    let companyId ← json.member? "company_id"
    let name ← json.member? "name"
    let phone ← json.optionalText? "phone"
    let currency ← json.member? "currency"
    let balance ← json.member? "balance"
    let version ← json.member? "version"
    let createdAt ← json.member? "created_at"
    let updatedAt ← json.member? "updated_at"
    some { id, userId, companyId, name, phone, currency, balance, version, createdAt,
           updatedAt }

instance : Form Debt where
  write debt := .object
    [("id", write debt.id), ("debtor_id", write debt.debtorId),
     ("user_id", write debt.userId), ("company_id", write debt.companyId),
     ("kind", write debt.kind), ("status", write debt.status),
     ("debted", write debt.debted), ("received", write debt.received),
     ("details", Json.optionalText debt.details), ("created_at", write debt.createdAt),
     ("updated_at", write debt.updatedAt)]
  read? json := do
    let json := json.named
      ["id", "debtor_id", "user_id", "company_id", "kind", "status", "debted", "received",
       "details", "created_at", "updated_at"]
    let id ← json.member? "id"
    let debtorId ← json.member? "debtor_id"
    let userId ← json.member? "user_id"
    let companyId ← json.member? "company_id"
    let kind ← json.member? "kind"
    let status ← json.member? "status"
    let debted ← json.member? "debted"
    let received ← json.member? "received"
    let details ← json.optionalText? "details"
    let createdAt ← json.member? "created_at"
    let updatedAt ← json.member? "updated_at"
    some { id, debtorId, userId, companyId, kind, status, debted, received, details,
           createdAt, updatedAt }

instance : Form NewExchange where
  write request := .object
    [("user_id", write request.userId), ("received", write request.received),
     ("sold", write request.sold), ("details", Json.optionalText request.details)]
  read? json := do
    let json := json.named ["user_id", "received", "sold", "details"]
    let userId ← json.member? "user_id"
    let received ← json.member? "received"
    let sold ← json.member? "sold"
    let details ← json.optionalText? "details"
    some { userId, received, sold, details }

instance : Form ManualExchange where
  write request := .object
    [("user_id", write request.userId), ("received", write request.received),
     ("sold", write request.sold), ("details", Json.optionalText request.details)]
  read? json := do
    let json := json.named ["user_id", "received", "sold", "details"]
    let userId ← json.member? "user_id"
    let received ← json.member? "received"
    let sold ← json.member? "sold"
    let details ← json.optionalText? "details"
    some { userId, received, sold, details }

instance : Form ExchangeAmounts where
  write amounts := .object
    [("received", write amounts.received), ("sold", write amounts.sold)]
  read? json := do
    let json := json.named ["received", "sold"]
    let received ← json.member? "received"
    let sold ← json.member? "sold"
    some { received, sold }

instance : Form NewDebt where
  write request := .object
    [("user_id", write request.userId), ("debtor_name", write request.debtorName),
     ("debtor_phone", Json.optionalText request.debtorPhone), ("kind", write request.kind),
     ("debted", write request.debted), ("received", write request.received),
     ("details", Json.optionalText request.details)]
  read? json := do
    let json := json.named
      ["user_id", "debtor_name", "debtor_phone", "kind", "debted", "received", "details"]
    let userId ← json.member? "user_id"
    let debtorName ← json.member? "debtor_name"
    let debtorPhone ← json.optionalText? "debtor_phone"
    let kind ← json.member? "kind"
    let debted ← json.member? "debted"
    let received ← json.member? "received"
    let details ← json.optionalText? "details"
    some { userId, debtorName, debtorPhone, kind, debted, received, details }

instance : Form DebtInstallment where
  write request := .object
    [("debtor_id", write request.debtorId), ("kind", write request.kind),
     ("debted", write request.debted), ("received", write request.received),
     ("details", Json.optionalText request.details)]
  read? json := do
    let json := json.named ["debtor_id", "kind", "debted", "received", "details"]
    let debtorId ← json.member? "debtor_id"
    let kind ← json.member? "kind"
    let debted ← json.member? "debted"
    let received ← json.member? "received"
    let details ← json.optionalText? "details"
    some { debtorId, kind, debted, received, details }

instance : Form DebtAmounts where
  write amounts := .object
    [("kind", write amounts.kind), ("debted", write amounts.debted),
     ("received", write amounts.received)]
  read? json := do
    let json := json.named ["kind", "debted", "received"]
    let kind ← json.member? "kind"
    let debted ← json.member? "debted"
    let received ← json.member? "received"
    some { kind, debted, received }

end Form

end CashLedger
