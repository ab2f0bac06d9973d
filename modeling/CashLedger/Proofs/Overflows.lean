import CashLedger.Proofs.Engine.Movements
import CashLedger.Proofs.Findings
import CashLedger.Proofs.Lending
import CashLedger.Proofs.Undoing

/-!
# Overflows

On a desk the total of a balance can leave its range in one way only: by money that comes in.  A
debit takes no more than is there, and what is taken back of a record is part of the totals.  Nor
does the sign of an amount that is owed ever wrap around.
-/

namespace CashLedger

open Engine

/-! ## Balances in order -/

namespace Balance.InOrder

variable {balance : Balance} {amount : Amount} {leg : Leg} {now : Timestamp}

/-- A leg overflows a balance in order only if it brings more in than it has room for. -/
theorem credit_of_apply (horder : balance.InOrder)
    (hfails : (balance.apply leg now).2 = .error balance.overflow) :
    leg.direction = .credit ∧ Amount.highest < balance.incoming.toInt + leg.amount.toInt := by
  have hhalted := balance.halted_apply leg now (by rw [hfails]; nofun)
  obtain ⟨⟨hpositive, hcovered⟩, hnot⟩ := hhalted.overflow_iff.mp hfails
  obtain ⟨hfunds, houtgoing, htotals⟩ := horder
  obtain ⟨direction, amount⟩ := leg
  have hlow : Amount.lowest ≤ 0 := by decide
  have htold := toInt_le_highest balance.incoming
  cases direction with
  | debit =>
    simp only [forall_const, Leg.incoming, Leg.outgoing, turnover] at hpositive hcovered hnot
    exact absurd ⟨⟨by omega, by omega⟩, ⟨by omega, by omega⟩⟩ hnot
  | credit =>
    simp only [Leg.incoming, Leg.outgoing, turnover] at hnot
    refine ⟨rfl, not_le.mp fun hroom => hnot ⟨⟨?_, ?_⟩, ⟨?_, hroom⟩⟩⟩ <;> simp only at * <;> omega

/-- A leg that is part of the totals of a balance in order is taken back without overflow. -/
theorem reverse_ne_overflow (horder : balance.InOrder)
    (hpart : leg.outgoing ≤ balance.outgoing.toInt) :
    (balance.reverse leg now).2 ≠ .error balance.overflow := by
  intro hfails
  have hhalted := balance.halted_reverse leg now (by rw [hfails]; nofun)
  obtain ⟨⟨hpositive, hcovered⟩, hnot⟩ := hhalted.overflow_iff.mp hfails
  obtain ⟨hfunds, houtgoing, htotals⟩ := horder
  obtain ⟨direction, amount⟩ := leg
  have hlow : Amount.lowest ≤ 0 := by decide
  have htold := toInt_le_highest balance.incoming
  apply hnot
  cases direction with
  | debit =>
    simp only [Leg.outgoing, Leg.incoming, turnover] at *
    exact ⟨⟨by omega, by omega⟩, ⟨by omega, by omega⟩⟩
  | credit =>
    simp only [forall_const, Leg.outgoing, Leg.incoming, turnover] at *
    exact ⟨⟨by omega, by omega⟩, ⟨by omega, by omega⟩⟩

end Balance.InOrder

/-! ## Movements on the way -/

namespace Movement

/-- What a movement takes back of all that went out of a balance. -/
def returned (id : BalanceId) : Movement → Int
  | .undone place leg => if place = id then leg.outgoing else 0
  | .applied _ _ | .passed _ => 0

theorem outgoing_tally_ge {movement : Movement} (hpositive : movement.Positive)
    (id : BalanceId) : -movement.returned id ≤ (movement.tally id).outgoing := by
  cases movement with
  | applied place leg =>
    cases place with
    | none => exact le_rfl
    | some place =>
      rw [returned, tally, Pi.single_apply]
      split
      · exact (leg.nonneg hpositive).1
      · exact le_rfl
  | undone place leg =>
    rw [returned, tally, Pi.single_apply]
    by_cases hplace : place = id
    · rw [if_pos hplace, if_pos hplace.symm]
    · rw [if_neg hplace, if_neg (Ne.symm hplace)]
      exact le_rfl
  | passed test => exact le_rfl

theorem outgoing_tallyAll_ge {movements : List Movement}
    (hpositive : ∀ movement ∈ movements, movement.Positive) (id : BalanceId) :
    -(movements.map (returned id)).sum ≤ (tallyAll movements id).outgoing := by
  induction movements with
  | nil => exact le_rfl
  | cons movement rest ih =>
    obtain ⟨hhead, hrest⟩ := List.forall_mem_cons.mp hpositive
    have hfirst := outgoing_tally_ge hhead id
    have hothers := ih hrest
    rw [List.map_cons, List.sum_cons]
    simp only [tallyAll, Pi.add_apply, Tally.add_outgoing]
    omega

end Movement

namespace Accounts

variable {accounts later : Accounts} {movement : Movement} {movements : List Movement}
  {id : BalanceId}

theorem exists_of_change {place : Option BalanceId} {step : Balance → Option Balance}
    (hchange : accounts.change place step = some later) :
    ∃ id balance after, accounts id = some balance ∧ step balance = some after ∧
      later = Function.update accounts id (some after) := by
  obtain ⟨id, -, hmapped⟩ := Option.bind_eq_some_iff.mp hchange
  obtain ⟨after, hafter, hlater⟩ := Option.map_eq_some_iff.mp hmapped
  obtain ⟨balance, hbefore, hdone⟩ := Option.bind_eq_some_iff.mp hafter
  exact ⟨id, balance, after, hbefore, hdone, hlater.symm⟩

/-- No balance is below nothing. -/
def Covered (accounts : Accounts) : Prop :=
  ∀ id balance, accounts id = some balance → 0 ≤ balance.funds.toInt

theorem Covered.change {place : Option BalanceId} {step : Balance → Option Balance}
    (hcovered : accounts.Covered)
    (hstep : ∀ {balance after}, step balance = some after → 0 ≤ balance.funds.toInt →
      0 ≤ after.funds.toInt)
    (hchange : accounts.change place step = some later) : later.Covered := by
  obtain ⟨id, balance, after, hbefore, hdone, rfl⟩ := exists_of_change hchange
  intro other found hfound
  by_cases hid : other = id
  · subst hid
    rw [Function.update_self, Option.some.injEq] at hfound
    subst hfound
    exact hstep hdone (hcovered other balance hbefore)
  · rw [Function.update_of_ne hid] at hfound
    exact hcovered other found hfound

/-- A movement that goes through leaves no balance below nothing. -/
theorem Covered.move (hcovered : accounts.Covered) (hmove : accounts.move movement = some later) :
    later.Covered := by
  cases movement with
  | applied place leg =>
    refine hcovered.change (fun hstep hfunds => ?_) hmove
    obtain ⟨middle, happlied, rfl⟩ := Balance.applied?_eq_some_iff.mp hstep
    exact happlied.funds_nonneg hfunds
  | undone place leg =>
    refine hcovered.change (fun hstep hfunds => ?_) hmove
    obtain ⟨middle, hundone, rfl⟩ := Balance.undone?_eq_some_iff.mp hstep
    exact hundone.funds_nonneg hfunds
  | passed test =>
    cases test <;> cases hmove
    exact hcovered

theorem Covered.moves (hcovered : accounts.Covered)
    (hmoves : accounts.moves movements = some later) : later.Covered := by
  induction movements generalizing accounts with
  | nil =>
    cases hmoves
    exact hcovered
  | cons movement rest ih =>
    obtain ⟨middle, hmove, hrest⟩ := Option.bind_eq_some_iff.mp hmoves
    exact ih (hcovered.move hmove) hrest

/-- What goes through moves more than nothing. -/
theorem positive_of_move (hmove : accounts.move movement = some later) : movement.Positive := by
  cases movement with
  | passed test => trivial
  | applied place leg =>
    obtain ⟨_, _, _, -, hdone, -⟩ := exists_of_change hmove
    obtain ⟨middle, happlied, -⟩ := Balance.applied?_eq_some_iff.mp hdone
    exact happlied.positive
  | undone place leg =>
    obtain ⟨_, _, _, -, hdone, -⟩ := exists_of_change hmove
    obtain ⟨middle, hundone, -⟩ := Balance.undone?_eq_some_iff.mp hdone
    exact hundone.positive

theorem positive_of_moves (hmoves : accounts.moves movements = some later) :
    ∀ movement ∈ movements, movement.Positive := by
  induction movements generalizing accounts with
  | nil => exact nofun
  | cons movement rest ih =>
    obtain ⟨middle, hmove, hrest⟩ := Option.bind_eq_some_iff.mp hmoves
    exact List.forall_mem_cons.mpr ⟨positive_of_move hmove, ih hrest⟩

/-- No beginning of the movements takes more back than went out. -/
def Returns (accounts : Accounts) (movements : List Movement) : Prop :=
  ∀ early, early <+: movements → ∀ id balance, accounts id = some balance →
    (early.map (Movement.returned id)).sum ≤ balance.outgoing.toInt

theorem InOrder.covered (horder : accounts.InOrder) : accounts.Covered := by
  intro id balance hbefore
  obtain ⟨hfunds, -, htotals⟩ := horder id balance hbefore
  omega

theorem outgoing_ge_of_moves (hmoves : accounts.moves movements = some later)
    {balance after : Balance} (hbefore : accounts id = some balance)
    (hafter : later id = some after) :
    balance.outgoing.toInt - (movements.map (Movement.returned id)).sum ≤
      after.outgoing.toInt := by
  obtain ⟨found, hfound, hshifted⟩ := (shifted_of_moves hmoves).exists_before hafter
  rw [hbefore, Option.some.injEq] at hfound
  subst hfound
  have htally := Movement.outgoing_tallyAll_ge (positive_of_moves hmoves) id
  rw [hshifted.outgoing]
  omega

/-- On the way all balances stay in order. -/
theorem InOrder.moves (horder : accounts.InOrder) (hreturns : accounts.Returns movements)
    (hmoves : accounts.moves movements = some later) : later.InOrder := by
  intro id after hafter
  obtain ⟨balance, hbefore, hshifted⟩ := (shifted_of_moves hmoves).exists_before hafter
  have hfunds := (horder id balance hbefore).funds
  have hcovered := horder.covered.moves hmoves id after hafter
  have houtgoing := outgoing_ge_of_moves hmoves hbefore hafter
  have hback := hreturns movements List.prefix_rfl id balance hbefore
  have hafterFunds : after.funds.toInt = after.incoming.toInt - after.outgoing.toInt := by
    rw [hshifted.funds, hshifted.incoming, hshifted.outgoing]
    omega
  exact ⟨hafterFunds, by omega, by omega⟩

/-- When its turn comes, a credit among the movements brings more in over a balance than the
total of all that came in has room for. -/
def LacksRoom (accounts : Accounts) (movements : List Movement) (id : BalanceId) : Prop :=
  ∃ early amount late middle balance,
    movements = early ++ .applied (some id) ⟨.credit, amount⟩ :: late ∧
      accounts.moves early = some middle ∧ middle id = some balance ∧
      Amount.highest < balance.incoming.toInt + amount.toInt

/-- Of balances in order, of which no more is taken back than went out, one overflows only for
want of room. -/
theorem InOrder.lacksRoom (horder : accounts.InOrder) (hreturns : accounts.Returns movements)
    (hoverflow : accounts.Overflow movements id) : accounts.LacksRoom movements id := by
  obtain ⟨early, movement, late, middle, rfl, hmoves, hmovement⟩ := hoverflow
  have hearly : early <+: early ++ movement :: late := List.prefix_append _ _
  have hmiddle := horder.moves (fun first hfirst => hreturns first (hfirst.trans hearly)) hmoves
  cases movement with
  | passed test => exact hmovement.elim
  | applied place leg =>
    obtain ⟨rfl, balance, hfound, hfails⟩ := hmovement
    obtain ⟨hcredit, hroom⟩ := (hmiddle id balance hfound).credit_of_apply hfails
    obtain ⟨direction, amount⟩ := leg
    obtain rfl := hcredit
    exact ⟨early, amount, late, middle, balance, rfl, hmoves, hfound, hroom⟩
  | undone place leg =>
    obtain ⟨rfl, balance, hfound, hfails⟩ := hmovement
    refine absurd hfails ((hmiddle place balance hfound).reverse_ne_overflow ?_)
    -- the leg is part of what went out before any movement, and no more than that is taken back
    obtain ⟨start, hstart, -⟩ := (shifted_of_moves hmoves).exists_before hfound
    have hleft := outgoing_ge_of_moves hmoves hstart hfound
    have hone : early ++ [.undone place leg] <+: early ++ .undone place leg :: late :=
      (List.prefix_append_right_inj early).mpr ⟨late, rfl⟩
    have hback := hreturns _ hone place start hstart
    rw [List.map_append, List.sum_append, List.map_singleton, List.sum_singleton,
      Movement.returned, if_pos rfl] at hback
    omega

end Accounts

/-! ## Requests -/

/-- The leg that a movement takes back, and from where. -/
def Movement.undone? : Movement → Option (BalanceId × Leg)
  | .undone place leg => some (place, leg)
  | .applied _ _ | .passed _ => none

/-- What movements take back are the legs of records that are there. -/
def Tables.Backs (tables : Tables) (movements : List Movement) : Prop :=
  ∃ chosen : List Record, chosen.Subperm tables.records.rows ∧
    movements.filterMap Movement.undone? = chosen.map fun record => (record.balanceId, record.leg)

theorem Movement.sum_returned_eq {movements : List Movement} {chosen : List Record}
    (hundone : movements.filterMap undone? =
      chosen.map fun record => (record.balanceId, record.leg)) (id : BalanceId) :
    (movements.map (returned id)).sum = (chosen.map (Record.outgoingFrom id)).sum := by
  induction movements generalizing chosen with
  | nil =>
    obtain rfl := List.map_eq_nil_iff.mp hundone.symm
    rfl
  | cons movement rest ih =>
    cases movement with
    | undone place leg =>
      obtain ⟨record, others, rfl, hrecord, hothers⟩ := List.map_eq_cons_iff.mp hundone.symm
      obtain ⟨rfl, rfl⟩ := Prod.mk.inj hrecord
      rw [List.map_cons, List.sum_cons, ih hothers.symm, List.map_cons, List.sum_cons]
      rfl
    | applied place leg | passed test =>
      rw [List.map_cons, List.sum_cons, ih hundone]
      exact Int.zero_add _

namespace Tables

variable {tables : Tables} {movements more : List Movement} {chosen : List Record}

theorem backs_of_none (hnone : movements.filterMap Movement.undone? = []) :
    tables.Backs movements :=
  ⟨[], List.nil_subperm, hnone⟩

theorem Backs.append (hbacks : tables.Backs movements)
    (hnone : more.filterMap Movement.undone? = []) : tables.Backs (movements ++ more) := by
  obtain ⟨chosen, hchosen, hundone⟩ := hbacks
  refine ⟨chosen, hchosen, ?_⟩
  rw [List.filterMap_append, hundone, hnone, List.append_nil]

theorem backs_undoing (hchosen : chosen.Subperm tables.records.rows) :
    tables.Backs (chosen.map Record.undoing) := by
  refine ⟨chosen, hchosen, ?_⟩
  rw [List.filterMap_map]
  exact congrFun List.filterMap_eq_map' chosen

theorem backs_restating (hchosen : chosen.Subperm tables.records.rows) (place : Places)
    (user : UserId) (amounts : ExchangeAmounts) :
    tables.Backs (chosen.flatMap (Record.restating place user amounts)) := by
  refine ⟨chosen, hchosen, ?_⟩
  clear hchosen
  induction chosen with
  | nil => rfl
  | cons record rest ih =>
    rw [List.flatMap_cons, List.filterMap_append, ih]
    rfl

/-- In balanced books no more is taken back of records than went out. -/
theorem Backs.returns (hbacks : tables.Backs movements)
    (hbalanced : Balanced tables.balances tables.records) :
    tables.balances.accounts.Returns movements := by
  obtain ⟨chosen, hchosen, hundone⟩ := hbacks
  rintro early ⟨late, rfl⟩ id account haccount
  obtain ⟨balance, hmem, rfl, rfl⟩ := Table.accounts_eq_some_iff.mp haccount
  rw [List.filterMap_append] at hundone
  obtain ⟨first, others, rfl, hfirst, -⟩ := List.map_eq_append_iff.mp hundone.symm
  rw [Movement.sum_returned_eq hfirst.symm]
  exact hbalanced.sum_outgoingFrom_le
    ((List.sublist_append_left first others).subperm.trans hchosen) hmem

end Tables

theorem Money.undone?_posting (place : Places) (user : UserId) (direction : Direction)
    (legs : List Money) :
    (legs.map (posting place user direction)).filterMap Movement.undone? = [] := by
  rw [List.filterMap_map, List.filterMap_eq_nil_iff]
  exact fun _ _ => rfl

namespace Engine

theorem backs_unposting (tables : Tables) (debt : Debt) (debtor : Debtor) :
    tables.Backs (unposting tables debt debtor) :=
  (Tables.backs_undoing (tables.subperm_recordsWhere _)).append rfl

theorem undone?_postingLegs (place : Places) (user : UserId) (amounts : DebtAmounts)
    (balance : Option Amount) :
    (postingLegs place user amounts balance).filterMap Movement.undone? = [] := by
  rw [postingLegs, List.filterMap_append, Money.undone?_posting]
  rfl

end Engine

theorem Request.backs_movements (tables : Tables) (request : Request) :
    tables.Backs (request.movements tables) := by
  have hone {id : RecordId} {record : Record} (hfind : tables.records.find? id = some record) :
      [record].Subperm tables.records.rows :=
    List.singleton_subperm_iff.mpr (Table.mem_of_find? hfind)
  have hnothing : tables.Backs [] := Tables.backs_of_none rfl
  cases request with
  | performBalanceRecord wanted => exact Tables.backs_of_none rfl
  | postBalanceRecord user kind money details => exact Tables.backs_of_none rfl
  | createExchange wanted => exact Tables.backs_of_none rfl
  | rollbackRecord id =>
    rw [movements]
    cases hfind : tables.records.find? id with
    | none => exact hnothing
    | some record => exact Tables.backs_undoing (hone hfind)
  | updateRecord id kind money =>
    rw [movements]
    cases hfind : tables.records.find? id with
    | none => exact hnothing
    | some record => exact (Tables.backs_undoing (hone hfind)).append rfl
  | updateExchange id amounts =>
    rw [movements]
    cases tables.exchanges.find? id with
    | none => exact hnothing
    | some exchange => exact Tables.backs_restating (tables.subperm_recordsWhere _) _ _ _
  | deleteExchange id => exact Tables.backs_undoing (tables.subperm_recordsWhere _)
  | createDebt wanted =>
    exact Tables.backs_of_none (Money.undone?_posting _ _ _ _)
  | settleDebt wanted =>
    rw [movements]
    cases tables.debtors.find? wanted.debtorId with
    | none => exact hnothing
    | some debtor => exact Tables.backs_of_none (undone?_postingLegs _ _ _ _)
  | updateDebt id amounts =>
    rw [movements]
    cases tables.debts.find? id with
    | none => exact hnothing
    | some debt =>
      rw [Option.elim_some]
      cases tables.debtors.find? debt.debtorId with
      | none => exact hnothing
      | some debtor =>
        exact (backs_unposting tables debt debtor).append (undone?_postingLegs _ _ _ _)
  | deleteDebt id =>
    rw [movements]
    cases tables.debts.find? id with
    | none => exact hnothing
    | some debt =>
      rw [Option.elim_some]
      cases tables.debtors.find? debt.debtorId with
      | none => exact hnothing
      | some debtor => exact backs_unposting tables debt debtor
  | _ => exact hnothing

/-! ## Work and checks -/

namespace Engine

open Work Posting

variable {limits : Limits} {tables : Tables} {supply : Supply}

theorem calm_openBalance (user : UserId) (currency : Currency) :
    (openBalance user currency).work.Calm :=
  (calm_findUser _).bind fun _ => calm_now.bind fun _ => calm_newId.bind fun _ =>
    (calm_ask _).bind fun _ => calm_pure _

/-- In balanced books the integrity check does not fail. -/
theorem blames_verifyIntegrity (hbalanced : Balanced tables.balances tables.records)
    {movements : List Movement} :
    verifyIntegrity.work.Blames (.start tables supply) movements := by
  have hlisted : tables.allBalances.Perm tables.balances.rows := List.mergeSort_perm _ _
  obtain ⟨last, hchecked⟩ := perform_checkBalances
    (fun balance hmem => hbalanced.reconciled (hlisted.mem_iff.mp hmem)) hbalanced.positive {}
    (show ((Course.start tables supply).answered .allBalances ⟨tables, {}⟩).unit.working = tables
      from rfl)
  intro subject hperform
  rw [show verifyIntegrity.work = ask .allBalances >>= checkBalances {} from rfl,
    perform_bind_of_ok ((perform_read_eq_ok rfl).mpr ⟨rfl, rfl⟩)] at hperform
  exact absurd (hchecked.symm.trans hperform) nofun

end Engine

/-- Of all that a request does over balanced books only its movements overflow a balance. -/
theorem Request.blames {tables : Tables} (hbalanced : Balanced tables.balances tables.records)
    (limits : Limits) (request : Request) (supply : Supply) :
    (request.operation limits).work.Blames (.start tables supply) (request.movements tables) := by
  have hone := hbalanced.unique
  cases request with
  | openBalance user currency => exact (calm_openBalance user currency).blames
  | performBalanceRecord wanted => exact blames_performBalanceRecord hone wanted
  | postBalanceRecord user kind money details =>
    exact blames_postBalanceRecord hone user kind money details
  | rollbackRecord id => exact blames_rollbackRecord id
  | updateRecord id kind money => exact blames_updateRecord hone id kind money
  | createExchange wanted => exact blames_createExchange hone wanted
  | updateExchange id amounts => exact blames_updateExchange hone id amounts
  | deleteExchange id => exact blames_deleteExchange hone id
  | createDebt wanted => exact blames_createDebt hone wanted
  | settleDebt wanted => exact blames_settleDebt hone wanted
  | updateDebt id amounts => exact blames_updateDebt hone id amounts
  | deleteDebt id => exact blames_deleteDebt hone id
  | verifyIntegrity => exact blames_verifyIntegrity hbalanced
  | balance user currency | balanceById id | record id | exchange id | debtor id | debt id =>
    exact (Work.calm_askRequire fun _ h => by cases h).blames
  | balancesForUser user | balancesForCompany company | recordsForBalance id
  | recordsForExchange id | recordsForDebt id | debtorsForUser user | debtsForDebtor id =>
    exact (Work.calm_ask _).blames

/-- A check that never fails with an overflow. -/
def Except.Calm {α : Type} (checked : Except LedgerError α) : Prop :=
  ∀ subject, checked ≠ .error (.amountOverflow subject)

namespace Except.Calm

variable {α β : Type}

theorem ok (value : α) : Except.Calm (.ok value) := nofun

theorem bind {checked : Except LedgerError α} {next : α → Except LedgerError β}
    (hchecked : Except.Calm checked) (hnext : ∀ value, Except.Calm (next value)) :
    Except.Calm (checked >>= next) := by
  intro subject hfails
  cases checked with
  | ok value => exact hnext value subject hfails
  | error cause =>
    cases hfails
    exact hchecked subject rfl

theorem forM {items : List α} {step : α → Except LedgerError Unit}
    (hstep : ∀ item, Except.Calm (step item)) : Except.Calm (items.forM step) := by
  induction items with
  | nil => exact .ok ()
  | cons item rest ih => exact (hstep item).bind fun _ => ih

end Except.Calm

namespace Engine

open Posting

variable {limits : Limits}

theorem calm_checkLeg (money : Money) : Except.Calm (checkLeg money) := by
  intro subject hfails
  cases (checkPositive_eq_error hfails).2

theorem calm_checkDetails (details : Option String) :
    Except.Calm (checkDetails limits details) := by
  unfold checkDetails
  cases details with
  | none => exact .ok ()
  | some text =>
    simp only
    split
    · exact .ok ()
    · exact fun _ h => by cases h

theorem calm_checkLegs (legs : List Money) : Except.Calm (checkLegs legs) := by
  induction legs with
  | nil => exact .ok ()
  | cons money rest ih => exact (calm_checkLeg money).bind fun _ => ih

theorem calm_checkDebt (amounts : DebtAmounts) (details : Option String) :
    Except.Calm (checkDebt limits amounts details) := by
  refine (calm_checkLeg _).bind fun _ => ?_
  split
  · exact fun _ h => by cases h
  · exact (calm_checkLegs _).bind fun _ => calm_checkDetails details

theorem calm_checkName (name : String) : Except.Calm (checkName name) := by
  unfold checkName
  split
  · exact fun _ h => by cases h
  · exact .ok ()

end Engine

theorem Request.calm_check (limits : Limits) (request : Request) :
    Except.Calm (request.operation limits).check := by
  cases request with
  | openBalance user currency =>
    change Except.Calm (if currency.isValid then _ else _)
    split
    · exact .ok ()
    · exact fun _ h => by cases h
  | performBalanceRecord wanted =>
    exact (calm_checkLeg _).bind fun _ => (calm_checkLeg _).bind fun _ => calm_checkDetails _
  | createExchange wanted =>
    exact (calm_checkLeg _).bind fun _ => (calm_checkLeg _).bind fun _ => calm_checkDetails _
  | postBalanceRecord user kind money details =>
    exact (calm_checkLeg _).bind fun _ => calm_checkDetails _
  | updateRecord id kind money => exact calm_checkLeg money
  | updateExchange id amounts => exact (calm_checkLeg _).bind fun _ => calm_checkLeg _
  | createDebt wanted => exact (calm_checkName _).bind fun _ => calm_checkDebt _ _
  | settleDebt wanted => exact calm_checkDebt _ _
  | updateDebt id amounts => exact calm_checkDebt _ _
  | _ => exact .ok ()

/-- What a commit refuses is no overflow. -/
theorem MemoryUnit.calm_commit (unit : MemoryUnit) (shared : Tables) :
    Except.Calm (unit.commit shared) := by
  refine .bind (.bind (.forM fun ⟨id, base⟩ => ?_) fun _ => .forM fun ⟨id, base⟩ => ?_)
    fun _ => .ok _
  · cases base with
    | stored version =>
      rw [checkBalance]
      split
      · exact .ok ()
      · exact fun _ h => by cases h
    | created =>
      rw [checkBalance]
      split
      · exact .ok ()
      · split
        · exact fun _ h => by cases h
        · exact .ok ()
  · cases base with
    | stored version =>
      rw [checkDebtor]
      split
      · exact .ok ()
      · exact fun _ h => by cases h
    | created => exact .ok ()

/-! ## Sessions -/

namespace Session

variable {session : Session} {shared next : Tables} {subject : OverflowSubject}

/-- A session that ends with an overflow failed in its work. -/
theorem course_of_overflow
    (hfinish : session.finish shared = (.error (.amountOverflow subject), next)) :
    session.course = .error (.amountOverflow subject) := by
  cases hcheck : session.operation.check with
  | error cause =>
    simp only [finish, hcheck, Prod.mk.injEq, Except.error.injEq] at hfinish
    exact absurd (hfinish.1 ▸ hcheck) (session.request.calm_check session.limits subject)
  | ok _ =>
    rw [finish_eq hcheck] at hfinish
    cases hcourse : session.course with
    | error cause =>
      rw [hcourse, Operation.outcome, Prod.mk.injEq] at hfinish
      exact congrArg Except.error (Except.error.inj hfinish.1)
    | ok done =>
      rw [hcourse] at hfinish
      cases hpurpose : session.operation.purpose with
      | query =>
        rw [hpurpose] at hfinish
        cases hfinish
      | change =>
        simp only [hpurpose, Operation.outcome] at hfinish
        cases hcommit : done.2.unit.commit shared with
        | ok published =>
          rw [hcommit] at hfinish
          cases hfinish
        | error cause =>
          rw [hcommit, Prod.mk.injEq, Except.error.injEq] at hfinish
          exact absurd (hcommit.trans (congrArg Except.error hfinish.1))
            (done.2.unit.calm_commit shared subject)

end Session

/-- The amounts of a debt that a request names. -/
def Request.owes : Request → Option DebtAmounts
  | .createDebt wanted => some wanted.amounts
  | .settleDebt wanted => some wanted.amounts
  | .updateDebt _ amounts => some amounts
  | _ => none

/-- A debt that passes the check has positive amounts. -/
theorem Request.positive_of_check {limits : Limits} {request : Request} {amounts : DebtAmounts}
    (howes : request.owes = some amounts) (hcheck : (request.operation limits).check = .ok ()) :
    ∀ money ∈ amounts.debted :: amounts.received, 0 < money.amount.toInt := by
  have hdebt {details : Option String} (hchecked : checkDebt limits amounts details = .ok ()) :
      ∀ money ∈ amounts.debted :: amounts.received, 0 < money.amount.toInt :=
    List.forall_mem_cons.mpr
      ⟨positive_of_checkDebt hchecked, positive_of_checkDebt_received hchecked⟩
  cases request with
  | createDebt wanted =>
    cases howes
    exact hdebt (check_createDebt_eq_ok_iff.mp hcheck).2
  | settleDebt wanted =>
    cases howes
    exact hdebt hcheck
  | updateDebt id amounts =>
    cases howes
    exact hdebt hcheck
  | _ => cases howes

namespace Desk

variable {promise : Promise} {desk : Desk}

/-- Whatever the sessions do, an overflow is of a debtor or of a balance, and of a balance only
where a credit brings in more than its total has room for.  All amounts of a debt can be given the
sign of its kind, and all that is owed can be turned around. -/
theorem reachable_overflows (hreachable : desk.Reachable promise) {session : Session}
    (hmem : session ∈ desk.sessions) :
    (∀ subject next,
      session.finish desk.shared = (.error (.amountOverflow subject), next) →
        (∃ debtor, subject = .debtor debtor) ∨
          ∃ id, subject = .balance id ∧
            session.snapshot.balances.accounts.LacksRoom
              (session.request.movements session.snapshot) id) ∧
      (session.operation.check = .ok () → ∀ amounts, session.request.owes = some amounts →
        ∀ money ∈ amounts.debted :: amounts.received,
          (amounts.kind.signed money.amount).toInt = amounts.kind.owed money.amount.toInt) ∧
      ∀ debt ∈ session.snapshot.debts.rows,
        (-debt.debted.amount).toInt = -debt.debted.amount.toInt := by
  have hconsistent := (hreachable.sound.sessions session hmem).sound.consistent
  have hbalanced := hconsistent.balanced
  refine ⟨fun subject next hfinish => ?_, fun hcheck amounts howes money hmoney => ?_,
    fun debt hdebt => (hconsistent.debts debt hdebt).1.toInt_neg⟩
  · have hblames := session.request.blames hbalanced session.limits session.supply subject
      (Session.course_of_overflow hfinish)
    refine hblames.imp_right fun ⟨id, hid, hoverflow⟩ => ⟨id, hid, ?_⟩
    have hreturns := (session.request.backs_movements session.snapshot).returns hbalanced
    exact hbalanced.inOrder.lacksRoom hreturns hoverflow
  · exact amounts.kind.toInt_signed (Request.positive_of_check howes hcheck money hmoney)

/-- As much has come in as a total can hold. -/
def brimTurns : List Turn :=
  [opens 1 (.openBalance cashier.id ⟨"USD"⟩), .ends 0,
   opens 2 (.postBalanceRecord cashier.id .buy ⟨Int64.maxValue, ⟨"USD"⟩⟩ none), .ends 0]

/-- One more unit is to come in. -/
def surplus : Session :=
  ⟨.standard, .postBalanceRecord cashier.id .buy ⟨1, ⟨"USD"⟩⟩ none, (morning.run brimTurns).shared,
    (supplied 3).moment, (supplied 3).uuid⟩

def brim : Desk :=
  (morning.run brimTurns).turn (.opens surplus.limits surplus.request surplus.moment surplus.uuid)

theorem overflows_surplus :
    (surplus.finish brim.shared).1 = .error (.amountOverflow (.balance ⟨⟨1000⟩⟩)) ∧
      surplus.snapshot.balances.accounts.LacksRoom (surplus.request.movements surplus.snapshot)
        ⟨⟨1000⟩⟩ := by
  have hreachable : brim.Reachable .distinct :=
    ((Reachable.start _ : morning.Reachable _).run (by decide +kernel)).turn _ trivial
  obtain ⟨hoverflow, -, -⟩ :=
    reachable_overflows hreachable (List.mem_cons_self : surplus ∈ brim.sessions)
  have hfails : (surplus.finish brim.shared).1 =
      .error (.amountOverflow (.balance ⟨⟨1000⟩⟩)) := rfl
  refine ⟨hfails, ?_⟩
  obtain ⟨debtor, hdebtor⟩ | ⟨id, hid, hroom⟩ := hoverflow _ _ (Prod.ext hfails rfl)
  · cases hdebtor
  · cases hid
    exact hroom

end Desk

end CashLedger
