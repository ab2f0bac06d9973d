import CashLedger.Proofs.Json
import CashLedger.Proofs.Timestamp
import CashLedger.Proofs.Uuid

/-!
# Values read back from their JSON forms

What is written of a value is read as that value: each field is found under the name that it was
written under, whatever else stands in the object, and read back by a form of its own.  Times are
read back if their years have no more than four digits, whatever their fraction of a second.
-/

namespace CashLedger.Form

/-! ## Texts and numbers -/

/-- A value that is written as a text leaves nothing to vary. -/
theorem readsBack_of_string {α : Type} [Form α] {value : α} {text : String}
    (hwrite : write value = .string text) (hread : read? (.string text) = some value) :
    ReadsBack value where
  ne_null := by
    rw [hwrite]
    exact nofun
  read?_eq json hvaried := by
    rw [hwrite] at hvaried
    rw [hvaried.eq_of_string, hread]

theorem readsBack_string (text : String) : ReadsBack text :=
  readsBack_of_string rfl rfl

theorem readsBack_id {kind : IdKind} (id : Id kind) : ReadsBack id :=
  readsBack_of_string rfl id.parse?_toText

theorem readsBack_currency (currency : Currency) : ReadsBack currency :=
  readsBack_of_string rfl rfl

theorem readsBack_timestamp {moment : Timestamp} (hyear : moment.HasShortYear) :
    ReadsBack moment :=
  readsBack_of_string rfl (Timestamp.parse?_toText hyear)

theorem readsBack_direction (way : Direction) : ReadsBack way :=
  readsBack_of_string rfl (by cases way <;> rfl)

theorem readsBack_recordKind (kind : RecordKind) : ReadsBack kind :=
  readsBack_of_string rfl (by cases kind <;> rfl)

theorem readsBack_debtKind (kind : DebtKind) : ReadsBack kind :=
  readsBack_of_string rfl (by cases kind <;> rfl)

theorem readsBack_debtStatus (status : DebtStatus) : ReadsBack status :=
  readsBack_of_string rfl (by cases status <;> rfl)

theorem readsBack_int64 (n : Int64) : ReadsBack n where
  ne_null := nofun
  read?_eq json hvaried := by
    cases hvaried
    exact Amount.ofInt?_eq_some_iff.mpr rfl

/-! ## Lists -/

theorem mapM_read? {α : Type} [Form α] {values : List α}
    (hvalues : ∀ value ∈ values, ReadsBack value) {items : List Json}
    (hitems : List.Forall₂ Json.Varied (values.map write) items) :
    items.mapM read? = some values := by
  induction values generalizing items with
  | nil =>
    rw [List.map_nil, List.forall₂_nil_left_iff] at hitems
    rw [hitems]
    rfl
  | cons value values ih =>
    rw [List.map_cons, List.forall₂_cons_left_iff] at hitems
    obtain ⟨item, others, hitem, hothers, rfl⟩ := hitems
    have hread := (hvalues value List.mem_cons_self).read?_eq item hitem
    have hrest := ih (fun other hother => hvalues other (List.mem_cons_of_mem value hother)) hothers
    simp only [List.mapM_cons, hread, hrest, Option.bind_eq_bind, Option.bind_some, Option.pure_def]

theorem readsBack_list {α : Type} [Form α] {values : List α}
    (hvalues : ∀ value ∈ values, ReadsBack value) : ReadsBack values where
  ne_null := nofun
  read?_eq json hvaried := by
    have hitems : ∃ items, json = .array items ∧
        List.Forall₂ Json.Varied (values.map write) items := by
      cases hvaried with
      | same => exact ⟨values.map write, rfl, List.forall₂_same.mpr fun item _ => .same item⟩
      | @inArray _ items hitems => exact ⟨items, rfl, hitems⟩
    obtain ⟨items, rfl, hitems⟩ := hitems
    exact mapM_read? hvalues hitems

/-! ## Objects -/

theorem readsBack_money (money : Money) : ReadsBack money where
  ne_null := nofun
  read?_eq json hvaried := by
    simp only [read?, hvaried.named, hvaried.member? "amount" (readsBack_int64 _) rfl,
      hvaried.member? "currency" (readsBack_currency _) rfl, Option.bind_eq_bind, Option.bind_some]

theorem readsBack_moneys (moneys : List Money) : ReadsBack moneys :=
  readsBack_list fun money _ => readsBack_money money

theorem readsBack_user (user : User) : ReadsBack user where
  ne_null := nofun
  read?_eq json hvaried := by
    simp only [read?, hvaried.named, hvaried.member? "id" (readsBack_id _) rfl,
      hvaried.member? "company_id" (readsBack_id _) rfl, Option.bind_eq_bind, Option.bind_some]

/-- The word of a source and its identifier, if it has one. -/
theorem sourceParts?_eq {fields : List (String × Json)} {json : Json} {word : String}
    (hvaried : Json.Varied (.object fields) json)
    (htype : fields.lookup "type" = some (.string word)) :
    sourceParts? json = some (word, (json.get? "id").getD .null) := by
  obtain ⟨other, hother, hvary⟩ := hvaried.exists_get? htype nofun
  rw [hvary.eq_of_string] at hother
  obtain ⟨others, rfl, -⟩ := hvaried.exists_fields
  simp only [sourceParts?, hother, Option.bind_some, Json.word?, Option.map_some]

/-- The identifier beside the word of a source is read back. -/
theorem exists_sourceParts? {kind : IdKind} {id : Id kind} {word : String} {json : Json}
    (hvaried : Json.Varied (.object [("type", .string word), ("id", write id)]) json) :
    ∃ other, sourceParts? json = some (word, other) ∧ read? other = some id := by
  obtain ⟨other, hother, hvary⟩ :=
    hvaried.exists_get? (show List.lookup "id" _ = some (write id) from rfl) nofun
  refine ⟨other, ?_, (readsBack_id id).read?_eq other hvary⟩
  rw [sourceParts?_eq hvaried rfl, hother, Option.getD_some]

theorem readsBack_recordSource (source : RecordSource) : ReadsBack source where
  ne_null := by cases source <;> nofun
  read?_eq json hvaried := by
    cases source with
    | manual =>
      have hid : json.get? "id" = none := hvaried.get?_eq_none (by simp [Json.knownNames]) rfl
      simp only [read?, sourceParts?_eq hvaried rfl, hid, Option.bind_eq_bind, Option.bind_some,
        Option.getD_none, if_true]
    | transaction id | exchange id | debt id =>
      obtain ⟨other, hparts, hid⟩ := exists_sourceParts? hvaried
      simp only [read?, hparts, Option.bind_eq_bind, Option.bind_some] at hid ⊢
      simp [hid]

theorem readsBack_balance {balance : Balance} (hcreated : balance.createdAt.HasShortYear)
    (hupdated : balance.updatedAt.HasShortYear) : ReadsBack balance where
  ne_null := nofun
  read?_eq json hvaried := by
    simp only [read?, hvaried.named, hvaried.member? "id" (readsBack_id _) rfl,
      hvaried.member? "user_id" (readsBack_id _) rfl,
      hvaried.member? "company_id" (readsBack_id _) rfl,
      hvaried.member? "currency" (readsBack_currency _) rfl,
      hvaried.member? "balance" (readsBack_int64 _) rfl,
      hvaried.member? "in_out_lay" (readsBack_int64 _) rfl,
      hvaried.member? "out_in_lay" (readsBack_int64 _) rfl,
      hvaried.member? "version" (readsBack_int64 _) rfl,
      hvaried.member? "created_at" (readsBack_timestamp hcreated) rfl,
      hvaried.member? "updated_at" (readsBack_timestamp hupdated) rfl,
      Option.bind_eq_bind, Option.bind_some]

theorem readsBack_record {record : Record} (hcreated : record.createdAt.HasShortYear)
    (hupdated : record.updatedAt.HasShortYear) : ReadsBack record where
  ne_null := nofun
  read?_eq json hvaried := by
    simp only [read?, hvaried.named, hvaried.member? "id" (readsBack_id _) rfl,
      hvaried.member? "balance_id" (readsBack_id _) rfl,
      hvaried.member? "user_id" (readsBack_id _) rfl,
      hvaried.member? "company_id" (readsBack_id _) rfl,
      hvaried.member? "kind" (readsBack_recordKind _) rfl,
      hvaried.member? "amount" (readsBack_int64 _) rfl,
      hvaried.member? "currency" (readsBack_currency _) rfl,
      hvaried.member? "source" (readsBack_recordSource _) rfl,
      hvaried.optionalText? "details" (by simp) rfl,
      hvaried.member? "created_at" (readsBack_timestamp hcreated) rfl,
      hvaried.member? "updated_at" (readsBack_timestamp hupdated) rfl,
      Option.bind_eq_bind, Option.bind_some]

theorem readsBack_exchange {exchange : Exchange} (hcreated : exchange.createdAt.HasShortYear)
    (hupdated : exchange.updatedAt.HasShortYear) : ReadsBack exchange where
  ne_null := nofun
  read?_eq json hvaried := by
    simp only [read?, hvaried.named,
      hvaried.member? "id" (readsBack_id _) rfl,
      hvaried.member? "user_id" (readsBack_id _) rfl,
      hvaried.member? "company_id" (readsBack_id _) rfl,
      hvaried.member? "received" (readsBack_money _) rfl,
      hvaried.member? "sold" (readsBack_money _) rfl,
      hvaried.optionalText? "details" (by simp) rfl,
      hvaried.member? "created_at" (readsBack_timestamp hcreated) rfl,
      hvaried.member? "updated_at" (readsBack_timestamp hupdated) rfl,
      Option.bind_eq_bind, Option.bind_some]

theorem readsBack_debtor {debtor : Debtor} (hcreated : debtor.createdAt.HasShortYear)
    (hupdated : debtor.updatedAt.HasShortYear) : ReadsBack debtor where
  ne_null := nofun
  read?_eq json hvaried := by
    simp only [read?, hvaried.named,
      hvaried.member? "id" (readsBack_id _) rfl,
      hvaried.member? "user_id" (readsBack_id _) rfl,
      hvaried.member? "company_id" (readsBack_id _) rfl,
      hvaried.member? "name" (readsBack_string _) rfl,
      hvaried.optionalText? "phone" (by simp) rfl,
      hvaried.member? "currency" (readsBack_currency _) rfl,
      hvaried.member? "balance" (readsBack_int64 _) rfl,
      hvaried.member? "version" (readsBack_int64 _) rfl,
      hvaried.member? "created_at" (readsBack_timestamp hcreated) rfl,
      hvaried.member? "updated_at" (readsBack_timestamp hupdated) rfl,
      Option.bind_eq_bind, Option.bind_some]

theorem readsBack_debt {debt : Debt} (hcreated : debt.createdAt.HasShortYear)
    (hupdated : debt.updatedAt.HasShortYear) : ReadsBack debt where
  ne_null := nofun
  read?_eq json hvaried := by
    simp only [read?, hvaried.named,
      hvaried.member? "id" (readsBack_id _) rfl,
      hvaried.member? "debtor_id" (readsBack_id _) rfl,
      hvaried.member? "user_id" (readsBack_id _) rfl,
      hvaried.member? "company_id" (readsBack_id _) rfl,
      hvaried.member? "kind" (readsBack_debtKind _) rfl,
      hvaried.member? "status" (readsBack_debtStatus _) rfl,
      hvaried.member? "debted" (readsBack_money _) rfl,
      hvaried.member? "received" (readsBack_moneys _) rfl,
      hvaried.optionalText? "details" (by simp) rfl,
      hvaried.member? "created_at" (readsBack_timestamp hcreated) rfl,
      hvaried.member? "updated_at" (readsBack_timestamp hupdated) rfl,
      Option.bind_eq_bind, Option.bind_some]

theorem readsBack_newExchange (request : NewExchange) : ReadsBack request where
  ne_null := nofun
  read?_eq json hvaried := by
    simp only [read?, hvaried.named,
      hvaried.member? "user_id" (readsBack_id _) rfl,
      hvaried.member? "received" (readsBack_money _) rfl,
      hvaried.member? "sold" (readsBack_money _) rfl,
      hvaried.optionalText? "details" (by simp) rfl,
      Option.bind_eq_bind, Option.bind_some]

theorem readsBack_manualExchange (request : ManualExchange) : ReadsBack request where
  ne_null := nofun
  read?_eq json hvaried := by
    simp only [read?, hvaried.named,
      hvaried.member? "user_id" (readsBack_id _) rfl,
      hvaried.member? "received" (readsBack_money _) rfl,
      hvaried.member? "sold" (readsBack_money _) rfl,
      hvaried.optionalText? "details" (by simp) rfl,
      Option.bind_eq_bind, Option.bind_some]

theorem readsBack_exchangeAmounts (amounts : ExchangeAmounts) : ReadsBack amounts where
  ne_null := nofun
  read?_eq json hvaried := by
    simp only [read?, hvaried.named,
      hvaried.member? "received" (readsBack_money _) rfl,
      hvaried.member? "sold" (readsBack_money _) rfl,
      Option.bind_eq_bind, Option.bind_some]

theorem readsBack_newDebt (request : NewDebt) : ReadsBack request where
  ne_null := nofun
  read?_eq json hvaried := by
    simp only [read?, hvaried.named,
      hvaried.member? "user_id" (readsBack_id _) rfl,
      hvaried.member? "debtor_name" (readsBack_string _) rfl,
      hvaried.optionalText? "debtor_phone" (by simp) rfl,
      hvaried.member? "kind" (readsBack_debtKind _) rfl,
      hvaried.member? "debted" (readsBack_money _) rfl,
      hvaried.member? "received" (readsBack_moneys _) rfl,
      hvaried.optionalText? "details" (by simp) rfl,
      Option.bind_eq_bind, Option.bind_some]

theorem readsBack_debtInstallment (request : DebtInstallment) : ReadsBack request where
  ne_null := nofun
  read?_eq json hvaried := by
    simp only [read?, hvaried.named,
      hvaried.member? "debtor_id" (readsBack_id _) rfl,
      hvaried.member? "kind" (readsBack_debtKind _) rfl,
      hvaried.member? "debted" (readsBack_money _) rfl,
      hvaried.member? "received" (readsBack_moneys _) rfl,
      hvaried.optionalText? "details" (by simp) rfl,
      Option.bind_eq_bind, Option.bind_some]

theorem readsBack_debtAmounts (amounts : DebtAmounts) : ReadsBack amounts where
  ne_null := nofun
  read?_eq json hvaried := by
    simp only [read?, hvaried.named,
      hvaried.member? "kind" (readsBack_debtKind _) rfl,
      hvaried.member? "debted" (readsBack_money _) rfl,
      hvaried.member? "received" (readsBack_moneys _) rfl,
      Option.bind_eq_bind, Option.bind_some]

/-! ## All forms -/

/-- Every value is read back from what is written of it, up to null fields left out and unknown ones
added.  A row is, if its times lie in years that need no sign. -/
structure RoundTrips : Prop where
  money (money : Money) : ReadsBack money
  user (user : User) : ReadsBack user
  direction (way : Direction) : ReadsBack way
  recordKind (kind : RecordKind) : ReadsBack kind
  debtKind (kind : DebtKind) : ReadsBack kind
  debtStatus (status : DebtStatus) : ReadsBack status
  recordSource (source : RecordSource) : ReadsBack source
  balance (balance : Balance) : balance.createdAt.HasShortYear →
    balance.updatedAt.HasShortYear → ReadsBack balance
  record (record : Record) : record.createdAt.HasShortYear →
    record.updatedAt.HasShortYear → ReadsBack record
  exchange (exchange : Exchange) : exchange.createdAt.HasShortYear →
    exchange.updatedAt.HasShortYear → ReadsBack exchange
  debtor (debtor : Debtor) : debtor.createdAt.HasShortYear →
    debtor.updatedAt.HasShortYear → ReadsBack debtor
  debt (debt : Debt) : debt.createdAt.HasShortYear →
    debt.updatedAt.HasShortYear → ReadsBack debt
  newExchange (request : NewExchange) : ReadsBack request
  manualExchange (request : ManualExchange) : ReadsBack request
  exchangeAmounts (amounts : ExchangeAmounts) : ReadsBack amounts
  newDebt (request : NewDebt) : ReadsBack request
  debtInstallment (request : DebtInstallment) : ReadsBack request
  debtAmounts (amounts : DebtAmounts) : ReadsBack amounts

theorem roundTrips : RoundTrips where
  money := readsBack_money
  user := readsBack_user
  direction := readsBack_direction
  recordKind := readsBack_recordKind
  debtKind := readsBack_debtKind
  debtStatus := readsBack_debtStatus
  recordSource := readsBack_recordSource
  balance _ := readsBack_balance
  record _ := readsBack_record
  exchange _ := readsBack_exchange
  debtor _ := readsBack_debtor
  debt _ := readsBack_debt
  newExchange := readsBack_newExchange
  manualExchange := readsBack_manualExchange
  exchangeAmounts := readsBack_exchangeAmounts
  newDebt := readsBack_newDebt
  debtInstallment := readsBack_debtInstallment
  debtAmounts := readsBack_debtAmounts

/-- A leg of an exchange, recorded a quarter of a millisecond after a noon. -/
def purchase : Record where
  id := ⟨⟨1⟩⟩
  balanceId := ⟨⟨2⟩⟩
  userId := ⟨⟨3⟩⟩
  companyId := ⟨⟨4⟩⟩
  kind := .buy
  amount := 500
  currency := .usd
  source := .exchange ⟨⟨5⟩⟩
  details := none
  createdAt := .ofNanos 946728000000250000
  updatedAt := .ofNanos 946728000000250000

/-- The record is read without its details, with a field that is not known in it and in its
source. -/
theorem roundTrips_purchase : purchase.createdAt.HasShortYear ∧ purchase.updatedAt.HasShortYear ∧
    read? (.object [("note", .null), ("id", write purchase.id),
      ("balance_id", write purchase.balanceId), ("user_id", write purchase.userId),
      ("company_id", write purchase.companyId), ("kind", write purchase.kind),
      ("amount", write purchase.amount), ("currency", write purchase.currency),
      ("source", .object [("type", .string "exchange"), ("rate", .int 3),
        ("id", write (⟨⟨5⟩⟩ : ExchangeId))]),
      ("created_at", write purchase.createdAt), ("updated_at", write purchase.updatedAt)]) =
        some purchase := by
  have hcreated : purchase.createdAt.HasShortYear := by decide
  have hupdated : purchase.updatedAt.HasShortYear := by decide
  refine ⟨hcreated, hupdated, (roundTrips.record purchase hcreated hupdated).read?_eq _ ?_⟩
  have hsource : Json.Varied (write purchase.source) (.object [("type", .string "exchange"),
      ("rate", .int 3), ("id", write (⟨⟨5⟩⟩ : ExchangeId))]) :=
    .inObject (.keep (.same _) (.keep (.same _) .nil))
  apply Json.Varied.inObject
  exact .keep (.same _) (.keep (.same _) (.keep (.same _) (.keep (.same _) (.keep (.same _)
    (.keep (.same _) (.keep (.same _) (.keep hsource (.leaveOut (.keep (.same _)
      (.keep (.same _) .nil))))))))))

end CashLedger.Form
