import CashLedger.Proofs.Engine.Revisions
import CashLedger.Store.Postgres

/-!
# What is sent to a database

A logged server is another one with a log of what was sent and what came back.  The log
of an operation shows that balances and debtors are only changed by compare and set: an
update names the identifier and the version of a row that was read before it in the same
transaction and sets what that row had, changed by one leg or by what the request is worth.
One that finds the row changed is the last statement that is sent.
-/

namespace CashLedger

open Sql

theorem forall₂_split {α β : Type} {related : α → β → Prop} {left : List α}
    {before after : List β} {right : β}
    (hrelated : List.Forall₂ related left (before ++ right :: after)) :
    ∃ earlier here later, left = earlier ++ here :: later ∧
      List.Forall₂ related earlier before ∧ related here right ∧
      List.Forall₂ related later after := by
  have hearlier := List.forall₂_take_append left before (right :: after) hrelated
  have hrest := List.forall₂_drop_append left before (right :: after) hrelated
  obtain ⟨here, later, hhere, hlater, heq⟩ := List.forall₂_cons_right_iff.mp hrest
  refine ⟨_, here, later, ?_, hearlier, hhere, hlater⟩
  rw [← heq, List.take_append_drop]

/-! ## Logs -/

/-- A message with the reply that came back. -/
structure Sent where
  message : Message
  reply : Reply

/-- A server's state with all that was sent to it, in order. -/
structure Logged (S : Type) where
  state : S
  sent : List Sent := []

def Sql.Server.logged {S : Type} (server : Server S) : Server (Logged S) where
  accepts log := server.accepts log.state
  schema log := server.schema log.state
  send message log :=
    let (reply, state) := server.send message log.state
    (reply, ⟨state, log.sent ++ [⟨message, reply⟩]⟩)

theorem Sql.Server.logged_send {S : Type} {server : Server S} {message : Message}
    {log : Logged S} {reply : Reply} {state : S}
    (hsend : server.send message log.state = (reply, state)) :
    server.logged.send message log = (reply, ⟨state, log.sent ++ [⟨message, reply⟩]⟩) := by
  simp [logged, hsend]

/-- The world with an empty log. -/
def World.logged {S : Type} (world : World S) : World (Logged S) :=
  ⟨⟨world.store, []⟩, world.supply, world.log⟩

/-- The world without the log. -/
def World.unlogged {S : Type} (world : World (Logged S)) : World S :=
  ⟨world.store.state, world.supply, world.log⟩

namespace Postgres

variable {S : Type} {α : Type}

theorem announced_logged (server : Server S) (message : Message) (event : Event)
    (world : World (Logged S)) :
    announced server message event world.unlogged =
      (announced server.logged message event world).map id World.unlogged := by
  rcases hsend : server.send message world.store.state with ⟨reply, state⟩
  simp only [announced, command, send, World.unlogged, Server.logged_send hsend, hsend]
  rcases reply.toUnit with cause | done <;> rfl

theorem logged_refines (server : Server S) :
    (backend server.logged).Refines (backend server) World.unlogged where
  begin _ := rfl
  answer _ _ _ := rfl
  commit _ world := announced_logged server .commit committed world
  rollback _ world := announced_logged server .rollback rolledBack world
  clock _ := rfl
  draw _ := rfl
  note _ _ := rfl

/-- What was sent for a contact, and how its outcome came of the reply. -/
def Told : Contact → Sent → Prop
  | .begin outcome, sent => sent.message = .begin ∧ sent.reply.toUnit = outcome
  | .call request outcome, sent =>
    sent.message = .run (query request).statement ∧ (query request).read sent.reply = outcome
  | .commit outcome, sent => sent.message = .commit ∧ sent.reply.toUnit = outcome
  | .rollback outcome, sent => sent.message = .rollback ∧ sent.reply.toUnit = outcome

/-- The record and the log tell the same story. -/
def Agrees (record : Recorded (World (Logged S))) : Prop :=
  List.Forall₂ Told record.contacts record.world.store.sent

theorem told_append {record : Recorded (World (Logged S))} (hagrees : Agrees record)
    {contact : Contact} {sent : Sent} (htold : Told contact sent) :
    List.Forall₂ Told (record.contacts ++ [contact]) (record.world.store.sent ++ [sent]) :=
  List.rel_append hagrees (.cons htold .nil)

theorem agrees_announced {server : Server S} {record : Recorded (World (Logged S))}
    {message : Message} (event : Event) {contact : Except LedgerError Unit → Contact}
    (hagrees : Agrees record)
    (htold : ∀ reply : Reply, Told (contact reply.toUnit) ⟨message, reply⟩) :
    List.Forall₂ Told
      (record.contacts ++ [contact (announced server.logged message event record.world).1])
      (announced server.logged message event record.world).2.store.sent := by
  rcases hsend : server.send message record.world.store.state with ⟨reply, state⟩
  have hsent := told_append hagrees (htold reply)
  simp only [announced, command, send, Server.logged_send hsend]
  rcases hunit : reply.toUnit with cause | done
  · rw [hunit] at hsent
    exact hsent
  · rw [hunit] at hsent
    exact hsent

theorem keeps_agrees (server : Server S) :
    (backend server.logged).recorded.Keeps Agrees where
  begin record hagrees := by
    apply told_append hagrees
    refine ⟨rfl, ?_⟩
    change _ = Except.map (fun _ => ()) (Reply.toUnit _)
    generalize Reply.toUnit _ = outcome
    cases outcome <;> rfl
  answer request _ record hagrees := told_append hagrees ⟨rfl, rfl⟩
  commit _ record hagrees := agrees_announced committed hagrees fun _ => ⟨rfl, rfl⟩
  rollback _ record hagrees := agrees_announced rolledBack hagrees fun _ => ⟨rfl, rfl⟩
  clock record hagrees := hagrees
  draw record hagrees := hagrees
  note event record hagrees := hagrees

/-- What an operation sends, and the record of what it asked that tells the same. -/
theorem exists_contacts {operation : Operation α} (server : Server S) (world : World S)
    (hreads : operation.purpose = .query →
      operation.work.Obeys OnlyReads (fun _ _ => True) []) :
    ∃ contacts,
      List.Forall₂ Told contacts
        (operation.run (backend server.logged) world.logged).2.store.sent ∧
      operation.Conduct contacts (operation.run (backend server.logged) world.logged).1 := by
  have hconduct := Operation.conduct (backend server.logged) world.logged hreads
  have hagrees : Agrees ⟨world.logged, []⟩ := .nil
  have hkept := (keeps_agrees server).run_operation operation hagrees
  have hplain : operation.run (backend server.logged) world.logged =
      (operation.run (backend server.logged).recorded ⟨world.logged, []⟩).map id
        Recorded.world :=
    (backend server.logged).recorded_refines.run_operation operation ⟨world.logged, []⟩
  rw [hplain]
  exact ⟨_, hkept, hconduct⟩

end Postgres

/-! ## Compare and set -/

/-- The relation in which a statement updates a row, and the row's identifier. -/
def Sql.Statement.updates? : Statement → Option (Relation × Uuid)
  | update relation id _ | revise relation id _ _ => some (relation, id)
  | _ => none

/-- The first row that was selected from a relation, as it is read. -/
def Sent.first? {α : Type} (relation : Relation) (read : Row → Except LedgerError α) :
    Sent → Option α
  | ⟨.run (.select selected _ _), .rows (row :: _)⟩ =>
    if selected = relation then (read row).toOption else none
  | _ => none

open Sql.Column (toCell)

/-- The statement sets the totals of the balance that was selected just before it to what
they are after one leg, if the balance still has its version. -/
structure SetsBalance (before : List Sent) (statement : Statement) (balance after : Balance) :
    Prop where
  selected : ∃ earlier last, before = earlier ++ [last] ∧
    last.first? .balances Row.toBalance = some balance
  revised : balance.Revised after
  covered : after.funds.toInt < balance.funds.toInt → 0 ≤ after.funds.toInt
  statement_eq :
    statement = .revise .balances balance.id.uuid balance.version (Row.balanceChanges after)
  parameters : statement.parameters = [toCell balance.id, toCell after.funds,
    toCell after.outgoing, toCell after.incoming, toCell after.updatedAt,
    toCell balance.version]

/-- What a request moves a debtor by, given the debts that were selected. -/
def Request.Worth : Request → List Sent → Int → Prop
  | settleDebt wanted, _, change => change = (wanted.kind.signed wanted.debted.amount).toInt
  | updateDebt _ amounts, before, change =>
    ∃ found ∈ before, ∃ debt, found.first? .debts Row.toDebt = some debt ∧
      change = -debt.debted.amount.toInt + (amounts.kind.signed amounts.debted.amount).toInt
  | deleteDebt _, before, change =>
    ∃ found ∈ before, ∃ debt, found.first? .debts Row.toDebt = some debt ∧
      change = -debt.debted.amount.toInt
  | _, _, _ => False

/-- The statement moves the balance of a debtor who was selected before by what the request
is worth, if the debtor still has the version. -/
structure SetsDebtor (request : Request) (before : List Sent) (statement : Statement)
    (debtor after : Debtor) : Prop where
  selected : ∃ found ∈ before, found.first? .debtors Row.toDebtor = some debtor
  revised : ∃ change, request.Worth before change ∧ debtor.Revised change after
  statement_eq :
    statement = .revise .debtors debtor.id.uuid debtor.version (Row.debtorChanges after)
  parameters : statement.parameters = [toCell debtor.id, toCell debtor.name,
    toCell debtor.phone, toCell after.balance, toCell after.updatedAt,
    toCell debtor.version]

/-- All that was sent so far belongs to one transaction. -/
def InTransaction (before : List Sent) : Prop :=
  ∃ opening statements, before = ⟨.begin, opening⟩ :: statements ∧
    ∀ sent ∈ statements, ∃ statement, sent.message = .run statement

/-- What is sent for a request updates balances and debtors only by compare and set. -/
structure ComparesAndSets (request : Request) (sent : List Sent)
    (result : Except LedgerError request.Answer) : Prop where
  balances : ∀ {before after : List Sent} {statement : Statement} {reply : Reply} {id : Uuid},
    sent = before ++ ⟨.run statement, reply⟩ :: after →
    statement.updates? = some (.balances, id) →
    InTransaction before ∧ ∃ balance revised, SetsBalance before statement balance revised
  debtors : ∀ {before after : List Sent} {statement : Statement} {reply : Reply} {id : Uuid},
    sent = before ++ ⟨.run statement, reply⟩ :: after →
    statement.updates? = some (.debtors, id) →
    InTransaction before ∧ ∃ debtor revised, SetsDebtor request before statement debtor revised
  /-- Who comes too late sends nothing more but a rollback. -/
  stale : ∀ {before after : List Sent} {statement : Statement} {reply : Reply} {id : Uuid},
    sent = before ++ ⟨.run statement, reply⟩ :: after → reply.toRows = .ok [] →
    (statement.updates? = some (.balances, id) → (∃ closing, after = [⟨.rollback, closing⟩]) ∧
        result = .error (.conflict .balance (⟨id⟩ : BalanceId))) ∧
      (statement.updates? = some (.debtors, id) → (∃ closing, after = [⟨.rollback, closing⟩]) ∧
        result = .error (.conflict .debtor (⟨id⟩ : DebtorId)))

namespace Postgres

variable {S : Type} {α : Type}

theorem updateBalance_of_updates {request : Call} {id : Uuid}
    (hupdates : (query request).statement.updates? = some (.balances, id)) :
    ∃ balance, request = .updateBalance balance ∧ balance.id.uuid = id := by
  cases request with
  | updateBalance balance =>
    cases hupdates
    exact ⟨balance, rfl, rfl⟩
  | _ => cases hupdates

theorem updateDebtor_of_updates {request : Call} {id : Uuid}
    (hupdates : (query request).statement.updates? = some (.debtors, id)) :
    ∃ debtor, request = .updateDebtor debtor ∧ debtor.id.uuid = id := by
  cases request with
  | updateDebtor debtor =>
    cases hupdates
    exact ⟨debtor, rfl, rfl⟩
  | _ => cases hupdates

theorem call_of_told {contact : Contact} {statement : Statement} {reply : Reply}
    (htold : Told contact ⟨.run statement, reply⟩) :
    ∃ request, contact = .call request ((query request).read reply) ∧
      statement = (query request).statement := by
  cases contact with
  | call request outcome =>
    obtain ⟨hmessage, rfl⟩ := htold
    exact ⟨request, rfl, Message.run.inj hmessage⟩
  | _ => cases htold.1

/-- A call that selects from a relation and was answered with a row. -/
theorem first?_of_told {relation : Relation} {read : Row → Except LedgerError α}
    {keys : List (String × Cell)} {order : List String} {value : α} {sent : Sent}
    (hmessage : sent.message = .run (.select relation keys order))
    (hread : (Query.first read (.select relation keys order)).read sent.reply = .ok (some value)) :
    sent.first? relation read = some value := by
  obtain ⟨message, reply⟩ := sent
  subst hmessage
  cases reply with
  | rows found =>
    cases found with
    | nil => cases hread
    | cons row rest =>
      simp only [Query.first, Reply.toRows, bind, Except.bind] at hread
      cases hrow : read row with
      | error cause =>
        rw [hrow] at hread
        cases hread
      | ok row =>
        rw [hrow] at hread
        cases hread
        simp [Sent.first?, hrow, Except.toOption]
  | affected count => cases hread
  | refused code text => cases hread

/-- What was sent for the calls of a dialogue. -/
def Transcript (past : List Answered) (statements : List Sent) : Prop :=
  List.Forall₂ Told (past.map Answered.contact) statements

namespace Transcript

variable {past : List Answered} {statements : List Sent}

theorem message_eq (htranscript : Transcript past statements) {sent : Sent}
    (hmem : sent ∈ statements) : ∃ statement, sent.message = .run statement := by
  obtain ⟨before, after, rfl⟩ := List.append_of_mem hmem
  obtain ⟨earlier, contact, later, hpast, -, htold, -⟩ := forall₂_split htranscript
  have hcontact : contact ∈ past.map Answered.contact := by simp [hpast]
  obtain ⟨answered, -, rfl⟩ := List.mem_map.mp hcontact
  exact ⟨_, htold.1⟩

theorem exists_told (htranscript : Transcript past statements) {answered : Answered}
    (hmem : answered ∈ past) : ∃ sent ∈ statements, Told answered.contact sent := by
  obtain ⟨before, after, hpast⟩ := List.append_of_mem (List.mem_map_of_mem hmem)
  rw [Transcript, hpast] at htranscript
  obtain ⟨earlier, sent, later, rfl, -, htold, -⟩ := forall₂_split htranscript.flip
  exact ⟨sent, by simp, htold⟩

theorem exists_last {last : Answered} (htranscript : Transcript (past ++ [last]) statements) :
    ∃ earlier sent, statements = earlier ++ [sent] ∧ Told last.contact sent := by
  rw [Transcript, List.map_append] at htranscript
  obtain ⟨earlier, sent, later, rfl, -, htold, hlater⟩ := forall₂_split htranscript.flip
  cases hlater
  exact ⟨earlier, sent, rfl, htold⟩

end Transcript

theorem setsBalance {moves : List Answered → Int → Prop} {past : List Answered}
    {statements : List Sent} {opening : Reply} {after : Balance}
    (hrevises : (Call.updateBalance after).Revises moves past)
    (htranscript : Transcript past statements) :
    ∃ balance, SetsBalance (⟨.begin, opening⟩ :: statements)
      (query (.updateBalance after)).statement balance after := by
  obtain ⟨earlier, last, balance, rfl, hfound, hrevised⟩ := hrevises
  obtain ⟨sents, sent, rfl, htold⟩ := htranscript.exists_last
  obtain ⟨now, hrow⟩ := hrevised.exists_sameRow
  have hid : after.id = balance.id := hrow.id_eq
  have hversion : after.version = balance.version := by rw [hrow]
  have hstatement : (query (.updateBalance after)).statement =
      .revise .balances balance.id.uuid balance.version (Row.balanceChanges after) := by
    rw [← hid, ← hversion]
    rfl
  refine ⟨balance, ?_, hrevised, hrevised.funds_nonneg, hstatement, ?_⟩
  · refine ⟨⟨.begin, opening⟩ :: sents, sent, rfl, ?_⟩
    cases hfound with
    | byId id => exact first?_of_told htold.1 htold.2
    | byOwner user currency => exact first?_of_told htold.1 htold.2
  · rw [hstatement]
    rfl

theorem worth {request : Request} {past : List Answered} {statements : List Sent}
    {opening : Reply} {change : Int} (hmoves : request.Moves past change)
    (htranscript : Transcript past statements)
    (hdebts : ∀ sent ∈ statements, ∀ debt ∈ sent.first? .debts Row.toDebt,
      debt.debted.amount ≠ Int64.minValue) :
    request.Worth (⟨.begin, opening⟩ :: statements) change := by
  have hselected : ∀ {id : DebtId} {debt : Debt}, ⟨.debtById id, some debt⟩ ∈ past →
      ∃ found ∈ statements, found.first? .debts Row.toDebt = some debt := by
    intro id debt hmem
    obtain ⟨sent, hsent, htold⟩ := htranscript.exists_told hmem
    exact ⟨sent, hsent, first?_of_told htold.1 htold.2⟩
  cases request with
  | settleDebt wanted => exact hmoves
  | updateDebt id amounts =>
    obtain ⟨debt, hmem, hchange⟩ := hmoves
    obtain ⟨found, hfound, hfirst⟩ := hselected hmem
    exact ⟨found, List.mem_cons_of_mem _ hfound, debt, hfirst,
      hchange (hdebts found hfound debt hfirst)⟩
  | deleteDebt id =>
    obtain ⟨debt, hmem, hchange⟩ := hmoves
    obtain ⟨found, hfound, hfirst⟩ := hselected hmem
    exact ⟨found, List.mem_cons_of_mem _ hfound, debt, hfirst,
      hchange (hdebts found hfound debt hfirst)⟩
  | _ => exact hmoves.elim

theorem setsDebtor {request : Request} {past : List Answered} {statements : List Sent}
    {opening : Reply} {after : Debtor}
    (hrevises : (Call.updateDebtor after).Revises request.Moves past)
    (htranscript : Transcript past statements)
    (hdebts : ∀ sent ∈ statements, ∀ debt ∈ sent.first? .debts Row.toDebt,
      debt.debted.amount ≠ Int64.minValue) :
    ∃ debtor, SetsDebtor request (⟨.begin, opening⟩ :: statements)
      (query (.updateDebtor after)).statement debtor after := by
  obtain ⟨id, debtor, change, hmem, hmoves, hrevised⟩ := hrevises
  obtain ⟨sent, hsent, htold⟩ := htranscript.exists_told hmem
  obtain ⟨now, hrow⟩ := hrevised.sameRow
  have hid : after.id = debtor.id := by rw [hrow]
  have hversion : after.version = debtor.version := by rw [hrow]
  have hstatement : (query (.updateDebtor after)).statement =
      .revise .debtors debtor.id.uuid debtor.version (Row.debtorChanges after) := by
    rw [← hid, ← hversion]
    rfl
  refine ⟨debtor, ?_, ⟨change, worth hmoves htranscript hdebts, hrevised⟩, hstatement, ?_⟩
  · exact ⟨sent, List.mem_cons_of_mem _ hsent, first?_of_told htold.1 htold.2⟩
  · have hname : after.name = debtor.name := by rw [hrow]
    have hphone : after.phone = debtor.phone := by rw [hrow]
    rw [hstatement, ← hname, ← hphone]
    rfl

/-- A statement that was sent is that of a call which the work may make after what it has
heard; after a reply that refuses the call the unit is rolled back. -/
theorem exists_call {operation : Operation α} {rule : List Answered → Call → Prop}
    {post : List Answered → α → Prop} {contacts : List Contact} {sent before after : List Sent}
    {result : Except LedgerError α} {statement : Statement} {reply : Reply}
    (hagrees : List.Forall₂ Told contacts sent) (hconduct : operation.Conduct contacts result)
    (hobeys : operation.work.Obeys rule post [])
    (hsplit : sent = before ++ ⟨.run statement, reply⟩ :: after) :
    ∃ request past opening statements, statement = (query request).statement ∧
      rule past request ∧ before = ⟨.begin, opening⟩ :: statements ∧
      Transcript past statements ∧
      ∀ cause, (query request).read reply = .error cause →
        (∃ closing, after = [⟨.rollback, closing⟩]) ∧
          (operation.purpose = .change → result = .error cause) := by
  rw [hsplit] at hagrees
  obtain ⟨earlier, contact, later, rfl, hbefore, htold, hafter⟩ := forall₂_split hagrees
  obtain ⟨request, rfl, hstatement⟩ := call_of_told htold
  obtain ⟨past, rfl, hrule, hrefused⟩ := hconduct.rule_of_split hobeys rfl
  obtain ⟨⟨message, opening⟩, statements, hopening, htranscript, rfl⟩ :=
    List.forall₂_cons_left_iff.mp hbefore
  have hbegin : message = .begin := hopening.1
  subst hbegin
  refine ⟨request, past, opening, statements, hstatement, hrule, rfl, htranscript, ?_⟩
  intro cause hcause
  obtain ⟨closing, rfl, hresult⟩ := hrefused cause hcause
  obtain ⟨⟨message, last⟩, rest, hclosing, hrest, rfl⟩ := List.forall₂_cons_left_iff.mp hafter
  have hrollback : message = .rollback := hclosing.1
  subst hrollback
  cases hrest
  exact ⟨⟨last, rfl⟩, hresult⟩

variable {limits : Limits} {request : Request} {contacts : List Contact}
  {sent before after : List Sent} {result : Except LedgerError request.Answer}
  {statement : Statement} {reply : Reply}

/-- Only changes send what is no reading. -/
theorem exists_revision (hagrees : List.Forall₂ Told contacts sent)
    (hconduct : (request.operation limits).Conduct contacts result)
    (hsplit : sent = before ++ ⟨.run statement, reply⟩ :: after) :
    ∃ call past opening statements, statement = (query call).statement ∧
      call.Revises request.Moves past ∧ before = ⟨.begin, opening⟩ :: statements ∧
      Transcript past statements ∧
      ∀ cause, (query call).read reply = .error cause →
        (∃ closing, after = [⟨.rollback, closing⟩]) ∧
          (call.isRead = false → result = .error cause) := by
  cases hpurpose : (request.operation limits).purpose with
  | change =>
    obtain ⟨call, past, opening, statements, hstatement, hrevises, hbefore, htranscript, hstop⟩ :=
      exists_call hagrees hconduct (request.revises limits) hsplit
    refine ⟨call, past, opening, statements, hstatement, hrevises, hbefore, htranscript, ?_⟩
    exact fun cause hcause => ⟨(hstop cause hcause).1, fun _ => (hstop cause hcause).2 hpurpose⟩
  | query =>
    obtain ⟨call, past, opening, statements, hstatement, hread, hbefore, htranscript, hstop⟩ :=
      exists_call hagrees hconduct (request.onlyReads limits hpurpose) hsplit
    refine ⟨call, past, opening, statements, hstatement, Call.revises_of_isRead hread, hbefore,
      htranscript, fun cause hcause => ⟨(hstop cause hcause).1, fun hchange => ?_⟩⟩
    rw [OnlyReads, hchange] at hread
    cases hread

theorem read_revised {read : Row → Except LedgerError α} {stale : LedgerError}
    (hrows : reply.toRows = .ok []) :
    (Query.revised read stale statement).read reply = .error stale := by
  simp [Query.revised, hrows, bind, Except.bind]

theorem comparesAndSets_of_agrees (hagrees : List.Forall₂ Told contacts sent)
    (hconduct : (request.operation limits).Conduct contacts result)
    (hdebts : ∀ found ∈ sent, ∀ debt ∈ found.first? .debts Row.toDebt,
      debt.debted.amount ≠ Int64.minValue) :
    ComparesAndSets request sent result := by
  constructor
  case balances =>
    intro before after statement reply id hsplit hupdates
    obtain ⟨call, past, opening, statements, rfl, hrevises, rfl, htranscript, -⟩ :=
      exists_revision hagrees hconduct hsplit
    obtain ⟨revised, rfl, -⟩ := updateBalance_of_updates hupdates
    obtain ⟨balance, hsets⟩ := setsBalance hrevises htranscript
    exact ⟨⟨opening, statements, rfl, fun _ => htranscript.message_eq⟩, balance, revised, hsets⟩
  case debtors =>
    intro before after statement reply id hsplit hupdates
    obtain ⟨call, past, opening, statements, rfl, hrevises, rfl, htranscript, -⟩ :=
      exists_revision hagrees hconduct hsplit
    obtain ⟨revised, rfl, -⟩ := updateDebtor_of_updates hupdates
    have hselected : ∀ found ∈ statements, found ∈ sent := by
      intro found hfound
      rw [hsplit]
      exact List.mem_append_left _ (List.mem_cons_of_mem _ hfound)
    obtain ⟨debtor, hsets⟩ := setsDebtor hrevises htranscript
      fun found hfound => hdebts found (hselected found hfound)
    exact ⟨⟨opening, statements, rfl, fun _ => htranscript.message_eq⟩, debtor, revised, hsets⟩
  case stale =>
    intro before after statement reply id hsplit hrows
    obtain ⟨call, past, opening, statements, rfl, -, -, -, hstop⟩ :=
      exists_revision hagrees hconduct hsplit
    constructor
    · intro hupdates
      obtain ⟨balance, rfl, rfl⟩ := updateBalance_of_updates hupdates
      obtain ⟨hafter, hresult⟩ := hstop (.conflict .balance balance.id) (read_revised hrows)
      exact ⟨hafter, hresult rfl⟩
    · intro hupdates
      obtain ⟨debtor, rfl, rfl⟩ := updateDebtor_of_updates hupdates
      obtain ⟨hafter, hresult⟩ := hstop (.conflict .debtor debtor.id) (read_revised hrows)
      exact ⟨hafter, hresult rfl⟩

/-- Whatever the server replies, a request updates balances and debtors only by compare and
set, and does the same whether or not there is a log. -/
theorem comparesAndSets (limits : Limits) (request : Request) (server : Server S)
    (world : World S)
    (hdebts : ∀ sent ∈
        ((request.operation limits).run (backend server.logged) world.logged).2.store.sent,
      ∀ debt ∈ sent.first? .debts Row.toDebt, debt.debted.amount ≠ Int64.minValue) :
    (request.operation limits).run (backend server) world =
        ((request.operation limits).run (backend server.logged) world.logged).map id
          World.unlogged ∧
      ComparesAndSets request
        ((request.operation limits).run (backend server.logged) world.logged).2.store.sent
        ((request.operation limits).run (backend server.logged) world.logged).1 := by
  refine ⟨(logged_refines server).run_operation _ world.logged, ?_⟩
  obtain ⟨contacts, hagrees, hconduct⟩ :=
    exists_contacts server world (request.onlyReads limits)
  exact comparesAndSets_of_agrees hagrees hconduct hdebts

/-! ## A run -/

/-- A debt is changed: the balance is stored, but somebody has changed the debtor. -/
def lateScript : World Script :=
  let usd : Currency := ⟨"USD"⟩
  let moment : Timestamp := .ofNanos 0
  let user : User := ⟨⟨⟨1⟩⟩, ⟨⟨2⟩⟩⟩
  let debtor : Debtor :=
    { Debtor.new ⟨⟨3⟩⟩ user "Ann" none usd moment with balance := -50, version := 6 }
  let debt : Debt := .new ⟨⟨4⟩⟩ debtor .opening ⟨.lend, ⟨50, usd⟩, []⟩ none moment
  let purse : Balance := { Balance.zero ⟨⟨5⟩⟩ user usd moment with funds := 100, version := 7 }
  { supply := .standard 0
    store :=
      { address := ""
        replies :=
          [.rows [Relation.debts.row (Row.debtValues debt)],
            .rows [Relation.debtors.row (Row.debtorValues debtor)], .rows [], .affected 0,
            .rows [Relation.balances.row (Row.balanceValues purse)],
            .rows [Relation.balances.row (Row.balanceValues { purse with funds := 80 })],
            .affected 1, .rows []] } }

def lateRequest : Request := .updateDebt ⟨⟨4⟩⟩ ⟨.lend, ⟨70, ⟨"USD"⟩⟩, [⟨20, ⟨"USD"⟩⟩]⟩

def lateRun : Except LedgerError DebtPosting × World (Logged Script) :=
  (lateRequest.operation .standard).run (backend Script.server.logged) lateScript.logged

/-- The ninth of ten messages comes too late. -/
theorem comparesAndSets_late :
    lateRun.1 = .error (.conflict .debtor (⟨⟨3⟩⟩ : DebtorId)) ∧
      lateRun.2.store.sent.length = 10 ∧
      ComparesAndSets lateRequest lateRun.2.store.sent lateRun.1 :=
  ⟨by decide +kernel, by decide +kernel,
    (comparesAndSets .standard lateRequest Script.server lateScript (by decide +kernel)).2⟩

end Postgres

end CashLedger
