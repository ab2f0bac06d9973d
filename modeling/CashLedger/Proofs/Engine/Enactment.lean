import CashLedger.Proofs.Engine.Posting
import CashLedger.Proofs.Store.Tallies

/-!
# Work that enacts movements

Each step of the engine that changes balances enacts a movement: it goes through exactly if the
movement does, and leaves the balances that the movement leaves.  A step that posts, takes back
or reposts also says what it makes of the records; everything else stays.
-/

namespace CashLedger

/-- Which balance is a user's in a currency. -/
abbrev Places := UserId → Currency → Option BalanceId

namespace Course

def accounts (course : Course) : Accounts := course.unit.working.balances.accounts

/-- A point at which the balances are in these places. -/
structure Placed (place : Places) (course : Course) : Prop where
  onePerPair : course.unit.working.balances.OnePerPair
  place_eq : course.unit.working.place = place

theorem Placed.still {place : Places} {first middle : Course} (hplaced : first.Placed place)
    (hstill : middle.unit.working.balances = first.unit.working.balances) :
    middle.Placed place where
  onePerPair := hstill ▸ hplaced.onePerPair
  place_eq := by
    rw [← hplaced.place_eq]
    funext user currency
    rw [Tables.place, Tables.place, Tables.balanceFor, Tables.balanceFor, hstill]

/-- On the way balances may have changed, and the records have become these. -/
def Restates (first last : Course) (records : Table Record) : Prop :=
  last.unit.working =
    { first.unit.working with balances := last.unit.working.balances, records := records }

/-- Movements lead from one point to the other: they leave its balances, and a balance that none
of them is over is the same row as before. -/
structure Moves (first : Course) (movements : List Movement) (last : Course) : Prop where
  accounts : first.accounts.moves movements = some last.accounts
  still : ∀ id, (Movement.tallyAll movements id).count = 0 →
    last.unit.working.balances.find? id = first.unit.working.balances.find? id

variable {first middle last : Course} {records later : Table Record}
  {movements more : List Movement}

theorem Moves.refl (course : Course) : course.Moves [] course := ⟨rfl, fun _ _ => rfl⟩

theorem Moves.trans (hfirst : first.Moves movements middle) (hlast : middle.Moves more last) :
    first.Moves (movements ++ more) last where
  accounts := by rw [Accounts.moves_append, hfirst.accounts, Option.bind_some, hlast.accounts]
  still id hcount := by
    rw [Movement.tallyAll_append, Pi.add_apply, Tally.add_count, Nat.add_eq_zero_iff] at hcount
    rw [hlast.still id hcount.2, hfirst.still id hcount.1]

/-- Nothing has moved yet. -/
theorem Moves.of_still (hstill : middle.unit.working.balances = first.unit.working.balances)
    (hmoves : middle.Moves movements last) : first.Moves movements last where
  accounts := by
    rw [← hmoves.accounts, Course.accounts, Course.accounts, hstill]
  still id hcount := by rw [← hstill, hmoves.still id hcount]

theorem Restates.trans (hfirst : first.Restates middle records)
    (hlast : middle.Restates last later) : first.Restates last later := by
  rw [Restates, hlast, hfirst]

theorem Restates.insert {record : Record} (hfirst : first.Restates middle records)
    (hlast : last.unit.working =
      { middle.unit.working with records := middle.unit.working.records.insert record }) :
    first.Restates last (records.insert record) := by
  rw [Restates, hlast, hfirst]

theorem Restates.records_eq (hrestates : first.Restates last records) :
    last.unit.working.records = records := by
  rw [hrestates]

end Course

/-- The posting of a leg on the user's balance in its currency. -/
def Money.posting (place : Places) (user : UserId) (direction : Direction) (money : Money) :
    Movement :=
  .applied (place user money.currency) ⟨direction, money.amount⟩

/-- The taking back of the leg that a record stands for. -/
def Record.undoing (record : Record) : Movement := .undone record.balanceId record.leg

namespace Work

variable {α β : Type} {place : Places} {first middle : Course} {movements more : List Movement}
  {post : α → Course → Prop} {next : α → Work β} {after : β → Course → Prop} {value : α}

/-- From a point on, the work goes through exactly if the movements do; then it leaves the
balances that they leave, all in their places, and what else is said of it is so. -/
structure Enacts (place : Places) (work : Work α) (first : Course) (movements : List Movement)
    (post : α → Course → Prop) : Prop where
  ok : ∀ {value last}, work.perform first = .ok (value, last) →
    first.Moves movements last ∧ last.Placed place ∧ post value last
  error : ∀ {cause}, work.perform first = .error cause → first.accounts.moves movements = none

theorem Enacts.bind {work : Work α} (hwork : work.Enacts place first movements post)
    (hnext : ∀ {value middle}, work.perform first = .ok (value, middle) → middle.Placed place →
      post value middle → (next value).Enacts place middle more after) :
    (work >>= next).Enacts place first (movements ++ more) after where
  ok hperform := by
    obtain ⟨value, middle, hfirst, hrest⟩ := perform_bind_eq_ok.mp hperform
    obtain ⟨hmoves, hplaced, hpost⟩ := hwork.ok hfirst
    obtain ⟨hmore, hdone⟩ := (hnext hfirst hplaced hpost).ok hrest
    exact ⟨hmoves.trans hmore, hdone⟩
  error hperform := by
    change (work.bind next).perform first = _ at hperform
    rw [perform_bind] at hperform
    rw [Accounts.moves_append]
    cases hfirst : work.perform first with
    | error cause => rw [hwork.error hfirst, Option.bind_none]
    | ok done =>
      obtain ⟨hmoves, hplaced, hpost⟩ := hwork.ok hfirst
      rw [hfirst] at hperform
      rw [hmoves.accounts]
      exact (hnext hfirst hplaced hpost).error hperform

/-- Work may end with what is sure to go through and moves nothing. -/
theorem Enacts.bind_still {work : Work α} (hwork : work.Enacts place first movements post)
    (hnext : ∀ {value middle}, work.perform first = .ok (value, middle) → middle.Placed place →
      post value middle → (next value).Enacts place middle [] after) :
    (work >>= next).Enacts place first movements after := by
  have hboth := hwork.bind hnext
  rwa [List.append_nil] at hboth

/-- Work may begin with what is sure to go through and moves nothing. -/
theorem enacts_bind {work : Work α} (hperform : work.perform first = .ok (value, middle))
    (hstill : middle.unit.working.balances = first.unit.working.balances)
    (hnext : (next value).Enacts place middle movements after) :
    (work >>= next).Enacts place first movements after := by
  have haccounts : middle.accounts = first.accounts := congrArg Table.accounts hstill
  have hrest : (work >>= next).perform first = (next value).perform middle := by
    change (work.bind next).perform first = _
    rw [perform_bind, hperform]
    rfl
  constructor
  · intro value last hdone
    obtain ⟨hmoves, hplaced, hpost⟩ := hnext.ok (hrest ▸ hdone)
    exact ⟨.of_still hstill hmoves, hplaced, hpost⟩
  · intro cause hdone
    rw [← haccounts]
    exact hnext.error (hrest ▸ hdone)

theorem Enacts.mono {work : Work α} {post' : α → Course → Prop}
    (hwork : work.Enacts place first movements post)
    (hpost : ∀ {value last}, post value last → post' value last) :
    work.Enacts place first movements post' where
  ok hperform := by
    obtain ⟨hmoves, hplaced, hdone⟩ := hwork.ok hperform
    exact ⟨hmoves, hplaced, hpost hdone⟩
  error := hwork.error

theorem enacts_pure (hplaced : first.Placed place) (hpost : post value first) :
    (pure value : Work α).Enacts place first [] post where
  ok hperform := by
    obtain ⟨rfl, rfl⟩ := perform_pure_eq_ok.mp hperform
    exact ⟨.refl _, hplaced, hpost⟩
  error hperform := by cases hperform

theorem enacts_of_error {work : Work α} {cause : LedgerError}
    (hperform : work.perform first = .error cause)
    (hmoves : first.accounts.moves movements = none) :
    work.Enacts place first movements post where
  ok hdone := by
    rw [hperform] at hdone
    cases hdone
  error _ := hmoves

/-- A check is a movement of nothing. -/
theorem enacts_check {checked : Except LedgerError α} (hplaced : first.Placed place)
    (hpost : ∀ {value}, checked = .ok value → post value first) :
    (check checked).Enacts place first [.passed checked.isOk] post where
  ok hperform := by
    obtain ⟨rfl, rfl⟩ := perform_check_eq_ok.mp hperform
    exact ⟨⟨rfl, fun _ _ => rfl⟩, hplaced, hpost rfl⟩
  error hperform := by
    cases checked with
    | error cause => rfl
    | ok value => cases hperform

/-- Work that goes on after a check. -/
theorem enacts_bind_check {checked : Except LedgerError α} (hplaced : first.Placed place)
    (hnext : ∀ {value}, checked = .ok value → (next value).Enacts place first movements after) :
    (check checked >>= next).Enacts place first (.passed checked.isOk :: movements) after := by
  have hcheck : (check checked).Enacts place first [.passed checked.isOk] fun value middle =>
      checked = .ok value ∧ middle = first := enacts_check hplaced fun hvalue => ⟨hvalue, rfl⟩
  refine hcheck.bind fun _ _ hdone => ?_
  obtain ⟨hvalue, rfl⟩ := hdone
  exact hnext hvalue

end Work

namespace Posting

open Work

variable {place : Places} {first last : Course}

/-! ## One leg -/

/-- What comes of a balance that was changed and stored. -/
structure Stored (balance : Balance) (first : Course) (stored : Balance) (last : Course) :
    Prop where
  sameOwner : balance.SameOwner stored
  companyId : stored.companyId = balance.companyId
  restates : first.Restates last first.unit.working.records

/-- A balance that is changed by a step of the present moment and stored. -/
def restore (step : Timestamp → Except LedgerError Balance) : Work Balance := do
  let now ← Work.now
  let after ← Work.check (step now)
  Work.ask (.updateBalance after)

theorem perform_restore {balance : Balance} (hmem : balance ∈ first.unit.working.balances.rows)
    {step : Timestamp → Except LedgerError Balance}
    (hrow : ∀ {now after}, step now = .ok after → balance.SameRow after now) :
    (restore step).perform first = (step first.supply.clock.1).map fun after =>
      (after.bump, first.clocked.answered (.updateBalance after)
        (first.unit.writeBalance after.bump (.stored balance.version))) := by
  change Work.perform ((check (step first.supply.clock.1)).bind fun after =>
    ask (.updateBalance after)) first.clocked = _
  cases hstep : step first.supply.clock.1 with
  | error cause => rfl
  | ok after =>
    have hsame := hrow hstep
    have hfind : first.unit.working.balances.find? after.id = some balance := by
      rw [hsame.id_eq]
      exact Table.mem_rows_iff.mp hmem
    have hversion : balance.version = after.version := by rw [hsame]
    have hanswer : first.unit.answer (.updateBalance after) = (.ok after.bump,
        first.unit.writeBalance after.bump (.stored balance.version)) :=
      MemoryUnit.updateBalance_eq_ok.mpr ⟨balance, hfind, hversion, rfl, rfl⟩
    change (ask (.updateBalance after)).perform first.clocked = _
    exact perform_ask_eq_ok.mpr ⟨_, hanswer, rfl⟩

theorem enacts_restore (hplaced : first.Placed place) {balance : Balance}
    (hmem : balance ∈ first.unit.working.balances.rows) {movement : Movement}
    {step : Timestamp → Except LedgerError Balance} {change : Balance → Option Balance}
    (hrow : ∀ {now after}, step now = .ok after → balance.SameRow after now)
    (hchange : ∀ now, change balance.timeless =
      (step now).toOption.map fun after => after.bump.timeless)
    (hmove : first.accounts.move movement = first.accounts.change (some balance.id) change)
    (hover : (movement.tally balance.id).count ≠ 0) :
    (restore step).Enacts place first [movement] (Stored balance first) := by
  have hfind : first.accounts balance.id = some balance.timeless :=
    congrArg _ (Table.mem_rows_iff.mp hmem)
  have hmoves : first.accounts.moves [movement] =
      (step first.supply.clock.1).toOption.map fun after =>
        Function.update first.accounts balance.id (some after.bump.timeless) := by
    change (first.accounts.move movement).bind some = _
    rw [Option.bind_fun_some, hmove, Accounts.change, Option.bind_some, hfind, Option.bind_some,
      hchange first.supply.clock.1, Option.map_map]
    rfl
  have hperform := perform_restore hmem hrow
  constructor
  · intro stored last hdone
    cases hstep : step first.supply.clock.1 with
    | error cause =>
      rw [hperform, hstep] at hdone
      cases hdone
    | ok after =>
      rw [hperform, hstep] at hdone
      obtain ⟨rfl, rfl⟩ := Prod.mk.inj (Except.ok.inj hdone)
      have howner := (hrow hstep).sameOwner_bump
      have hcompany : after.bump.companyId = balance.companyId := by
        rw [hrow hstep]
        rfl
      have haccounts := first.unit.working.balances.accounts_insert after.bump
      rw [howner.id] at haccounts
      refine ⟨⟨?_, fun id hcount => ?_⟩,
        ⟨hplaced.onePerPair.insert_sameOwner hmem howner, ?_⟩, howner, hcompany, rfl⟩
      · rw [hmoves, hstep]
        exact congrArg some haccounts.symm
      · refine Table.find?_insert_of_ne _ fun hid => hover ?_
        rw [Movement.tallyAll_singleton, hid] at hcount
        rwa [← howner.id]
      · exact (Tables.place_insert hplaced.onePerPair hmem howner).trans hplaced.place_eq
  · intro cause hdone
    cases hstep : step first.supply.clock.1 with
    | error cause =>
      rw [hmoves, hstep]
      rfl
    | ok after =>
      rw [hperform, hstep] at hdone
      cases hdone

/-- What comes of a leg that was applied to the user's balance in a currency. -/
structure Moved (place : Places) (user : UserId) (currency : Currency) (first : Course)
    (stored : Balance) (last : Course) : Prop where
  place : place user currency = some stored.id
  userId : stored.userId = user
  company : ∃ balance, first.accounts stored.id = some balance ∧
    stored.companyId = balance.companyId
  currency : stored.currency = currency
  restates : first.Restates last first.unit.working.records

theorem enacts_applyLeg (hplaced : first.Placed place) (user : UserId) (money : Money)
    (direction : Direction) :
    (applyLeg user money direction).Enacts place first [money.posting place user direction]
      (Moved place user money.currency first) := by
  have hplace : place user money.currency =
      (first.unit.working.balanceFor user money.currency).map Balance.id := by
    rw [← hplaced.place_eq]
    rfl
  cases hfound : first.unit.working.balanceFor user money.currency with
  | none =>
    rw [hfound] at hplace
    have hfind : (findBalance user money.currency).perform first =
        .error (.currencyNotFound user money.currency) := by
      change (require _ (first.unit.working.balanceFor user money.currency)).perform _ = _
      rw [hfound]
      rfl
    apply enacts_of_error
    · change ((findBalance user money.currency).bind _).perform first = _
      rw [perform_bind, hfind]
      rfl
    · rw [Money.posting, hplace]
      rfl
  | some balance =>
    rw [hfound] at hplace
    obtain ⟨hmem, huser, hcurrency⟩ := balanceFor_eq_some hfound
    refine enacts_bind (perform_findBalance_eq_ok.mpr ⟨hfound, rfl⟩) rfl ?_
    have hrestore := @enacts_restore place
      (first.answered (.balanceFor user money.currency) first.unit) (hplaced.still rfl) balance
      hmem (money.posting place user direction)
      (fun now => Balance.settled (balance.apply ⟨direction, money.amount⟩ now))
      (Balance.applied? ⟨direction, money.amount⟩)
      (fun hstep => (Balance.settled_apply_eq_ok_iff.mp hstep).sameRow)
      (balance.applied?_timeless _) (by rw [Money.posting, hplace]; rfl) (by
        rw [Money.posting, hplace, Option.map_some, Movement.tally, Pi.single_eq_same]
        exact Nat.one_ne_zero)
    refine hrestore.mono fun hstored => ?_
    have hfind : first.accounts balance.id = some balance.timeless :=
      congrArg _ (Table.mem_rows_iff.mp hmem)
    exact
      { place := by rw [hplace, hstored.sameOwner.id]; rfl
        userId := hstored.sameOwner.userId.trans huser
        company := ⟨balance.timeless, hstored.sameOwner.id ▸ hfind, hstored.companyId⟩
        currency := hstored.sameOwner.currency.trans hcurrency
        restates := hstored.restates }

theorem enacts_reverseRecord (hplaced : first.Placed place) (record : Record) :
    (reverseRecord record).Enacts place first [record.undoing] fun _ last =>
      first.Restates last first.unit.working.records := by
  cases hfound : first.unit.working.balances.find? record.balanceId with
  | none =>
    have hrequire : (require (.notFound .balance record.balanceId)
        (first.unit.working.balances.find? record.balanceId)).perform
          (first.answered (.balanceById record.balanceId) first.unit) =
        .error (.notFound .balance record.balanceId) := by
      rw [hfound]
      rfl
    apply enacts_of_error
    · change ((require _ (first.unit.working.balances.find? record.balanceId)).bind _).perform
        (first.answered (.balanceById record.balanceId) first.unit) = _
      rw [perform_bind, hrequire]
      rfl
    · have hnone : first.accounts record.balanceId = none := congrArg _ hfound
      simp [Record.undoing, Accounts.moves, Accounts.move, Accounts.change, hnone]
  | some balance =>
    have hid : balance.id = record.balanceId := Table.key_of_find? hfound
    refine enacts_bind (perform_ask_eq_ok.mpr ⟨_, rfl, rfl⟩) rfl ?_
    refine enacts_bind (perform_require_eq_ok.mpr ⟨hfound, rfl⟩) rfl ?_
    have hrestore := @enacts_restore place
      (first.answered (.balanceById record.balanceId) first.unit) (hplaced.still rfl) balance
      (Table.mem_of_find? hfound) record.undoing
      (fun now => Balance.settled (balance.reverse record.leg now)) (Balance.undone? record.leg)
      (fun hstep => (Balance.settled_reverse_eq_ok_iff.mp hstep).sameRow)
      (balance.undone?_timeless _) (by rw [hid]; rfl) (by
        rw [Record.undoing, Movement.tally, hid, Pi.single_eq_same]
        exact Nat.one_ne_zero)
    exact hrestore.mono fun hstored => hstored.restates

theorem enacts_reverseRecords (hplaced : first.Placed place) (records : List Record) :
    (reverseRecords records).Enacts place first (records.map Record.undoing) fun _ last =>
      first.Restates last first.unit.working.records := by
  induction records generalizing first with
  | nil => exact enacts_pure hplaced rfl
  | cons record rest ih =>
    refine (enacts_reverseRecord hplaced record).bind fun {_ middle} _ hplaced' hfirst => ?_
    refine (ih hplaced').mono fun hlast => ?_
    have hrestates := hfirst.trans hlast
    rwa [hfirst.records_eq] at hrestates

end Posting

/-! ## Rows that steps make -/

/-- A debtor whose balance has moved, and nothing else but the time of change. -/
structure Debtor.Counts (debtor : Debtor) (change : Amount) (after : Debtor) : Prop where
  balance : debtor.balance.add? change = some after.balance
  row : after = { debtor with balance := after.balance, updatedAt := after.updatedAt }

/-- A record of a leg on the user's balance in its currency. -/
structure Record.Posted (place : Places) (user : UserId) (direction : Direction)
    (source : RecordSource) (details : Option String) (money : Money) (record : Record) :
    Prop where
  userId : record.userId = user
  place : place user money.currency = some record.balanceId
  kind : record.kind = .ofDirection direction
  money : record.money = money
  source : record.source = source
  details : record.details = details

/-- A record of the company that its balance belongs to. -/
def Record.OfCompany (accounts : Accounts) (record : Record) : Prop :=
  ∃ balance, accounts record.balanceId = some balance ∧ record.companyId = balance.companyId

/-- Whatever is moved, balances stay with their companies. -/
theorem Record.OfCompany.before {accounts later : Accounts} {tally : BalanceId → Tally}
    {record : Record} (hcompany : record.OfCompany later)
    (hshifted : accounts.Shifted tally later) : record.OfCompany accounts := by
  obtain ⟨after, hafter, hsame⟩ := hcompany
  obtain ⟨balance, hbefore, hbalance⟩ := hshifted.exists_before hafter
  refine ⟨balance, hbefore, hsame.trans ?_⟩
  rw [hbalance.row]

/-- A record that was made between two points of a supply. -/
structure Record.Made (record : Record) (first last : Supply) : Prop where
  drawn : ∃ n, first.issued ≤ n ∧ n < last.issued ∧ record.id.uuid = last.uuid n
  createdAt : ∃ n, first.readings ≤ n ∧ n < last.readings ∧ record.createdAt = last.moment n

namespace Record.Made

variable {record other : Record} {first middle last : Supply}

theorem of_later (hmade : record.Made middle last) (hleads : first.Leads middle) :
    record.Made first last where
  drawn := by
    obtain ⟨n, hle, hlt, hid⟩ := hmade.drawn
    exact ⟨n, hleads.issued_le.trans hle, hlt, hid⟩
  createdAt := by
    obtain ⟨n, hle, hlt, hcreated⟩ := hmade.createdAt
    exact ⟨n, hleads.readings_le.trans hle, hlt, hcreated⟩

theorem of_earlier (hmade : record.Made first middle) (hleads : middle.Leads last) :
    record.Made first last where
  drawn := by
    obtain ⟨n, hle, hlt, hid⟩ := hmade.drawn
    exact ⟨n, hle, hlt.trans_le hleads.issued_le, by rw [hid, hleads.uuid_eq]⟩
  createdAt := by
    obtain ⟨n, hle, hlt, hcreated⟩ := hmade.createdAt
    exact ⟨n, hle, hlt.trans_le hleads.readings_le, by rw [hcreated, hleads.moment_eq]⟩

theorem mem_drawn (hmade : record.Made first last) : record.id.uuid ∈ last.drawn := by
  obtain ⟨n, -, hlt, hid⟩ := hmade.drawn
  exact Supply.mem_drawn.mpr ⟨n, hlt, hid.symm⟩

/-- What is made later has another name. -/
theorem id_ne (hfirst : record.Made first middle) (hlast : other.Made middle last)
    (hleads : middle.Leads last) (hdistinct : last.Distinct) : record.id ≠ other.id := by
  obtain ⟨i, -, hi, hid⟩ := hfirst.drawn
  obtain ⟨j, hj, hjlast, hid'⟩ := hlast.drawn
  intro heq
  rw [heq, hid', ← hleads.uuid_eq] at hid
  exact (hi.trans_le hj).ne' (hdistinct.eq_of_uuid_eq hjlast
    ((hi.trans_le hj).trans hjlast) hid)

/-- What is made first is older. -/
theorem olderFirst (hfirst : record.Made first middle) (hlast : other.Made middle last)
    (hleads : middle.Leads last) (hincreasing : last.Increasing) :
    Record.olderFirst record other = true ∧ record.id ≠ other.id := by
  obtain ⟨i, -, hi, hid⟩ := hfirst.drawn
  obtain ⟨j, hj, hjlast, hid'⟩ := hlast.drawn
  obtain ⟨k, -, hk, hcreated⟩ := hfirst.createdAt
  obtain ⟨l, hl, hllast, hcreated'⟩ := hlast.createdAt
  have hlt := hincreasing.uuid_lt (hi.trans_le hj) hjlast
  have hle := hincreasing.moment_le (hk.trans_le hl) hllast
  rw [hleads.uuid_eq, ← hid, ← hleads.uuid_eq, ← hid'] at hlt
  rw [hleads.moment_eq, ← hcreated, ← hleads.moment_eq, ← hcreated'] at hle
  refine ⟨?_, hfirst.id_ne hlast hleads hincreasing.distinct⟩
  rw [Record.olderFirst, olderFirst_eq_true_iff]
  rcases Timestamp.lt_or_eq_of_le hle with hbefore | hsame
  · exact .inl hbefore
  · exact .inr ⟨hsame, Nat.le_of_lt hlt⟩

end Record.Made

/-- A record on which another leg was posted. -/
structure Record.Restated (place : Places) (user : UserId) (amounts : ExchangeAmounts)
    (record after : Record) : Prop extends record.Reposted user amounts after where
  createdAt : after.createdAt = record.createdAt
  place : place user (amounts.moneyFor record.kind).currency = some after.balanceId

theorem restated_repost {place : Places} {user : UserId} {amounts : ExchangeAmounts}
    {record : Record} {balance : Balance} (huser : record.userId = user)
    (hplace : place user (amounts.moneyFor record.kind).currency = some balance.id)
    (hcurrency : balance.currency = (amounts.moneyFor record.kind).currency) (now : Timestamp) :
    record.Restated place user amounts (record.repost balance
      ⟨record.kind.direction, (amounts.moneyFor record.kind).amount⟩ now) where
  id := rfl
  source := rfl
  shows := ⟨huser, RecordKind.ofDirection_direction record.kind,
    by simp [Record.money, Record.repost, hcurrency]⟩
  createdAt := rfl
  place := hplace

/-- The leg of a record is taken back, and another posted on it. -/
def Record.restating (place : Places) (user : UserId) (amounts : ExchangeAmounts)
    (record : Record) : List Movement :=
  [record.undoing, (amounts.moneyFor record.kind).posting place user record.kind.direction]

namespace Posting

open Work

variable {place : Places} {first last : Course}

/-- What comes of a leg that was posted. -/
structure Recorded (place : Places) (user : UserId) (direction : Direction)
    (source : RecordSource) (details : Option String) (money : Money) (first : Course)
    (record : Record) (last : Course) : Prop where
  posted : record.Posted place user direction source details money
  company : record.OfCompany first.accounts
  made : record.Made first.supply last.supply
  restates : first.Restates last (first.unit.working.records.insert record)

theorem enacts_postLeg (hplaced : first.Placed place) (user : UserId) (money : Money)
    (direction : Direction) (source : RecordSource) (details : Option String) :
    (postLeg user money direction source details).Enacts place first
      [money.posting place user direction]
      (Recorded place user direction source details money first) := by
  refine (enacts_applyLeg hplaced user money direction).bind_still
    fun {balance middle} hperform hplaced' hmoved => ?_
  have hleads := (leads_of_perform hperform).supply
  refine enacts_bind (perform_now_eq_ok.mpr ⟨rfl, rfl⟩) rfl ?_
  refine enacts_bind (perform_newId_eq_ok.mpr ⟨rfl, rfl⟩) rfl ?_
  refine enacts_bind (perform_ask_eq_ok.mpr ⟨_, rfl, rfl⟩) rfl ?_
  refine enacts_pure (hplaced'.still rfl) ⟨?_, hmoved.company, ?_, ?_⟩
  · exact
      { userId := hmoved.userId
        place := hmoved.place
        kind := rfl
        money := by rw [Record.money, Record.posted, hmoved.currency]
        source := rfl
        details := rfl }
  · exact
      { drawn := ⟨middle.supply.issued, hleads.issued_le, Nat.lt_succ_self _, rfl⟩
        createdAt := ⟨middle.supply.readings, hleads.readings_le, Nat.lt_succ_self _, rfl⟩ }
  · refine hmoved.restates.trans ?_
    rw [← hmoved.restates.records_eq]
    rfl

theorem enacts_updateRecord {β : Type} {next : Unit → Work β} {record : Record}
    {movements : List Movement} {post : β → Course → Prop}
    (hthere : first.unit.working.records.contains record.id = true)
    (hnext : (next ()).Enacts place
      (first.answered (.updateRecord record) (first.unit.writeRecord record)) movements post) :
    (Work.ask (.updateRecord record) >>= next).Enacts place first movements post := by
  have hanswer : first.unit.answer (.updateRecord record) =
      (.ok (), first.unit.writeRecord record) := MemoryUnit.changing_eq_ok.mpr ⟨hthere, rfl⟩
  exact enacts_bind (perform_ask_eq_ok.mpr ⟨_, hanswer, rfl⟩) rfl hnext

end Posting

namespace Engine

open Work Posting

variable {place : Places} {first last : Course}

/-- What comes of records on which other legs were posted. -/
def AllRestated (place : Places) (user : UserId) (amounts : ExchangeAmounts)
    (records : List Record) (first last : Course) : Prop :=
  ∃ posted, List.Forall₂ (Record.Restated place user amounts) records posted ∧
    first.Restates last (posted.foldl Table.insert first.unit.working.records)

theorem enacts_repostRecords (hplaced : first.Placed place) (user : UserId)
    (amounts : ExchangeAmounts) {records : List Record}
    (hthere : ∀ record ∈ records, record.userId = user ∧
      first.unit.working.records.contains record.id = true) :
    (repostRecords user amounts records).Enacts place first
      (records.flatMap (Record.restating place user amounts)) fun _ =>
        AllRestated place user amounts records first := by
  induction records generalizing first with
  | nil => exact enacts_pure hplaced ⟨[], .nil, rfl⟩
  | cons record rest ih =>
    obtain ⟨⟨huser, hcontains⟩, hrest⟩ := List.forall_mem_cons.mp hthere
    refine (enacts_reverseRecord hplaced record).bind fun {_ middle} _ hplaced₁ hunmoved => ?_
    refine (enacts_applyLeg hplaced₁ user _ _).bind fun {balance applied} _ hplaced₂ hmoved => ?_
    refine enacts_bind (perform_now_eq_ok.mpr ⟨rfl, rfl⟩) rfl ?_
    have hrestates : first.Restates applied first.unit.working.records := by
      have hboth := hunmoved.trans hmoved.restates
      rwa [hunmoved.records_eq] at hboth
    have hafter := restated_repost huser hmoved.place hmoved.currency
      (applied.supply.moment applied.supply.readings)
    generalize record.repost balance _ _ = reposted at hafter ⊢
    refine enacts_updateRecord ?_ ?_
    · -- The records are those at the start, so the one to be updated is there.
      rw [Course.clocked_unit, hrestates.records_eq, hafter.id]
      exact hcontains
    have hwritten : first.Restates (applied.clocked.answered (.updateRecord reposted)
        (applied.clocked.unit.writeRecord reposted)) _ := hrestates.insert rfl
    refine .mono (ih (hplaced₂.still rfl) fun other hother => ?_) ?_
    · refine ⟨(hrest other hother).1, ?_⟩
      rw [hwritten.records_eq, Table.contains, Table.find?_insert]
      split
      · rfl
      · exact (hrest other hother).2
    · rintro _ last ⟨posted, heach, hlast⟩
      refine ⟨reposted :: posted, .cons hafter heach, ?_⟩
      have hboth := hwritten.trans hlast
      rwa [hwritten.records_eq] at hboth

/-- What comes of a debt's legs that were posted. -/
structure AllRecorded (place : Places) (debt : Debt) (legs : List Money) (first : Course)
    (records : List Record) (last : Course) : Prop where
  posted : List.Forall₂ (Record.Posted place debt.userId debt.kind.direction (.debt debt.id)
    debt.details) legs records
  made : ∀ record ∈ records, record.Made first.supply last.supply
  distinct : last.supply.Distinct → (records.map Record.id).Nodup
  ordered : last.supply.Increasing →
    records.Pairwise fun a b => Record.olderFirst a b = true ∧ a.id ≠ b.id
  restates : first.Restates last (records.foldl Table.insert first.unit.working.records)

theorem enacts_postDebtLegs (hplaced : first.Placed place) (debt : Debt) (legs : List Money) :
    (postDebtLegs debt legs).Enacts place first
      (legs.map (Money.posting place debt.userId debt.kind.direction))
      (AllRecorded place debt legs first) := by
  induction legs generalizing first with
  | nil => exact enacts_pure hplaced ⟨.nil, nofun, fun _ => .nil, fun _ => .nil, rfl⟩
  | cons money rest ih =>
    refine (enacts_postLeg hplaced debt.userId money debt.kind.direction (.debt debt.id)
      debt.details).bind fun {record middle} hperform hplaced' hhead => ?_
    have hfirst := (leads_of_perform hperform).supply
    refine .bind_still (ih hplaced') fun {others last} hperform' hplaced'' htail => ?_
    have hlast := (leads_of_perform hperform').supply
    refine enacts_pure hplaced'' ⟨.cons hhead.posted htail.posted, ?_, fun hdistinct => ?_,
      fun hincreasing => ?_, ?_⟩
    · exact List.forall_mem_cons.mpr ⟨hhead.made.of_earlier hlast,
        fun other hother => (htail.made other hother).of_later hfirst⟩
    · refine List.nodup_cons.mpr ⟨fun hmem => ?_, htail.distinct hdistinct⟩
      obtain ⟨other, hother, hid⟩ := List.mem_map.mp hmem
      exact hhead.made.id_ne (htail.made other hother) hlast hdistinct hid.symm
    · exact List.pairwise_cons.mpr ⟨fun other hother =>
        hhead.made.olderFirst (htail.made other hother) hlast hincreasing,
        htail.ordered hincreasing⟩
    · have hboth := hhead.restates.trans htail.restates
      rwa [hhead.restates.records_eq] at hboth

theorem isOk_adjust (debtor : Debtor) (change : Amount) (now : Timestamp) :
    (debtor.adjust change now).isOk = (debtor.balance.add? change).isSome := by
  rw [Debtor.adjust]
  cases debtor.balance.add? change <;> rfl

theorem enacts_adjustDebtor (hplaced : first.Placed place) (debtor : Debtor) (change : Amount) :
    (adjustDebtor debtor change).Enacts place first
      [.passed (debtor.balance.add? change).isSome] fun after last =>
        debtor.Counts change after ∧ last = first.clocked := by
  rw [← isOk_adjust debtor change first.supply.clock.1]
  refine enacts_bind (perform_now_eq_ok.mpr ⟨rfl, rfl⟩) rfl ?_
  refine enacts_check (hplaced.still rfl) fun {after} hadjust => ?_
  rw [Debtor.adjust] at hadjust
  cases hsum : debtor.balance.add? change with
  | none =>
    rw [hsum] at hadjust
    cases hadjust
  | some balance =>
    rw [hsum] at hadjust
    cases hadjust
    exact ⟨⟨hsum, rfl⟩, rfl⟩

end Engine

end CashLedger
