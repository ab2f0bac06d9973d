import CashLedger.Engine.Request
import CashLedger.Proofs.Backends
import CashLedger.Proofs.Dialogue

/-!
# How operations treat a store

A recorded backend is another one with a record of all that it was asked.  The record
of an operation shows that a request which is refused opens no unit, and that a unit
which is opened is closed once and last: a change commits only what has succeeded
throughout and otherwise rolls back at once, and a query reads and rolls back.
-/

namespace CashLedger

variable {α U V W : Type}

/-! ## Records -/

/-- One thing that a store was asked, with how it went. -/
inductive Contact where
  | begin (outcome : Except LedgerError Unit)
  | call (request : Call) (outcome : Except LedgerError request.Answer)
  | commit (outcome : Except LedgerError Unit)
  | rollback (outcome : Except LedgerError Unit)

def Contact.isCall : Contact → Bool
  | call _ _ => true
  | _ => false

/-- A world with everything that the store was asked, in order. -/
structure Recorded (W : Type) where
  world : W
  contacts : List Contact := []

def Backend.recorded (backend : Backend W U) : Backend (Recorded W) U where
  begin record :=
    let (outcome, world) := backend.begin record.world
    (outcome, ⟨world, record.contacts ++ [.begin (outcome.map fun _ => ())]⟩)
  answer request unit record :=
    let (outcome, unit, world) := backend.answer request unit record.world
    (outcome, unit, ⟨world, record.contacts ++ [.call request outcome]⟩)
  commit unit record :=
    let (outcome, world) := backend.commit unit record.world
    (outcome, ⟨world, record.contacts ++ [.commit outcome]⟩)
  rollback unit record :=
    let (outcome, world) := backend.rollback unit record.world
    (outcome, ⟨world, record.contacts ++ [.rollback outcome]⟩)
  clock record := (backend.clock record.world).map id fun world => { record with world }
  draw record := (backend.draw record.world).map id fun world => { record with world }
  note event record := { record with world := backend.note event record.world }

theorem Backend.recorded_refines (backend : Backend W U) :
    backend.recorded.Refines backend Recorded.world where
  begin _ := rfl
  answer _ _ _ := rfl
  commit _ _ := rfl
  rollback _ _ := rfl
  clock _ := rfl
  draw _ := rfl
  note _ _ := rfl

theorem Backend.recorded_begin {backend : Backend W U} {world next : W}
    {contacts : List Contact} {begun : Except LedgerError U}
    (hbegin : backend.begin world = (begun, next)) :
    backend.recorded.begin ⟨world, contacts⟩ =
      (begun, ⟨next, contacts ++ [.begin (begun.map fun _ => ())]⟩) := by
  simp [recorded, hbegin]

theorem Backend.recorded_answer {backend : Backend W U} {request : Call} {unit next : U}
    {record : Recorded W} {outcome : Except LedgerError request.Answer} {world : W}
    (hanswer : backend.answer request unit record.world = (outcome, next, world)) :
    backend.recorded.answer request unit record =
      (outcome, next, ⟨world, record.contacts ++ [.call request outcome]⟩) := by
  simp [recorded, hanswer]

theorem Backend.recorded_notes (backend : Backend W U) (events : List Event)
    (record : Recorded W) :
    backend.recorded.notes events record =
      { record with world := backend.notes events record.world } := by
  induction events generalizing record with
  | nil => rfl
  | cons event rest ih => exact ih _

def Answered.contact (answered : Answered) : Contact :=
  .call answered.request (.ok answered.answer)

def Ending.refusal : Ending α → List Contact
  | done _ | failed _ => []
  | refused request cause => [.call request (.error cause)]

/-- The calls of a dialogue: those that were answered, then the one that was refused. -/
def Ending.calls (ending : Ending α) (heard : List Answered) : List Contact :=
  heard.map Answered.contact ++ ending.refusal

/-- Work that is done on a recorded backend leaves the record of one of its dialogues. -/
theorem Work.exists_plays (backend : Backend W U) (work : Work α) (unit : U)
    (record : Recorded W) :
    ∃ heard ending, work.Plays heard ending ∧
      (work.run backend.recorded unit record).1 = ending.result ∧
      (work.run backend.recorded unit record).2.2.contacts =
        record.contacts ++ ending.calls heard := by
  induction work generalizing unit record with
  | done value => exact ⟨[], _, .done value, rfl, (List.append_nil _).symm⟩
  | fail cause => exact ⟨[], _, .fail cause, rfl, (List.append_nil _).symm⟩
  | call request next ih =>
    rcases hanswer : backend.answer request unit record.world with ⟨outcome, unit, world⟩
    simp only [Work.run, Backend.recorded_answer hanswer]
    cases outcome with
    | error cause => exact ⟨[], _, .refused request next cause, rfl, rfl⟩
    | ok answer =>
      obtain ⟨heard, ending, hplays, hresult, hcontacts⟩ :=
        ih answer unit ⟨world, record.contacts ++ [.call request (.ok answer)]⟩
      refine ⟨_, ending, .call answer hplays, hresult, ?_⟩
      rw [hcontacts, List.append_assoc]
      rfl
  | clock next ih =>
    obtain ⟨heard, ending, hplays, hrest⟩ := ih _ unit _
    exact ⟨heard, ending, .clock _ hplays, hrest⟩
  | draw next ih =>
    obtain ⟨heard, ending, hplays, hrest⟩ := ih _ unit _
    exact ⟨heard, ending, .draw _ hplays, hrest⟩

/-! ## Conduct -/

/-- Asking a store changes nothing by itself. -/
def Contact.isRead : Contact → Bool
  | call request _ => request.isRead
  | _ => false

/-- The rule of those who only read. -/
def OnlyReads (_past : List Answered) (request : Call) : Prop := request.isRead = true

/-- What an operation may ask a store, with the results that it then has. -/
inductive Operation.Conduct (operation : Operation α) :
    List Contact → Except LedgerError α → Prop
  /-- What is not valid is refused before a unit is opened. -/
  | refused {cause : LedgerError} (hcheck : operation.check = .error cause) :
      Conduct operation [] (.error cause)
  | unopened {cause : LedgerError} (hcheck : operation.check = .ok ()) :
      Conduct operation [.begin (.error cause)] (.error cause)
  /-- A change whose calls and checks have all succeeded commits, and fails if the commit
  fails. -/
  | committed {heard : List Answered} {value : α} (outcome : Except LedgerError Unit)
      (hcheck : operation.check = .ok ()) (hpurpose : operation.purpose = .change)
      (hplays : operation.work.Plays heard (.done value)) :
      Conduct operation (.begin (.ok ()) :: heard.map Answered.contact ++ [.commit outcome])
        (outcome.map fun _ => value)
  /-- After its first failure a change rolls back, and fails with that failure however the
  rollback goes. -/
  | rolledBack {heard : List Answered} {ending : Ending α} {cause : LedgerError}
      (outcome : Except LedgerError Unit) (hcheck : operation.check = .ok ())
      (hpurpose : operation.purpose = .change) (hplays : operation.work.Plays heard ending)
      (hresult : ending.result = .error cause) :
      Conduct operation (.begin (.ok ()) :: ending.calls heard ++ [.rollback outcome])
        (.error cause)
  /-- A query reads and rolls back, and fails if the rollback fails. -/
  | discarded {heard : List Answered} {ending : Ending α} (outcome : Except LedgerError Unit)
      (hcheck : operation.check = .ok ()) (hpurpose : operation.purpose = .query)
      (hplays : operation.work.Plays heard ending)
      (hreads : ∀ contact ∈ ending.calls heard, contact.isRead = true) :
      Conduct operation (.begin (.ok ()) :: ending.calls heard ++ [.rollback outcome])
        (outcome.bind fun _ => ending.result)

namespace Operation

theorem settle_ok (backend : Backend W U) (name : String) (value : α) (unit : U)
    (record : Recorded W) :
    ∃ outcome,
      (settle backend.recorded name (.ok value) unit record).1 = outcome.map (fun _ => value) ∧
      (settle backend.recorded name (.ok value) unit record).2.contacts =
        record.contacts ++ [.commit outcome] := by
  rcases hcommit : backend.commit unit record.world with ⟨outcome, world⟩
  refine ⟨outcome, ?_⟩
  cases outcome <;> simp [settle, Backend.recorded, hcommit, Except.map]

theorem settle_error (backend : Backend W U) (name : String) (cause : LedgerError) (unit : U)
    (record : Recorded W) :
    ∃ outcome,
      (settle backend.recorded name (.error cause : Except LedgerError α) unit record).1 =
        .error cause ∧
      (settle backend.recorded name (.error cause : Except LedgerError α) unit record).2.contacts =
        record.contacts ++ [.rollback outcome] := by
  rcases hrollback : backend.rollback unit (backend.note (.entry .warn .engine
    "Rolling back unit of work" (failureFields name cause)) record.world) with ⟨outcome, world⟩
  refine ⟨outcome, ?_⟩
  cases outcome <;> simp [settle, Backend.recorded, hrollback]

theorem discard_eq (backend : Backend W U) (result : Except LedgerError α) (unit : U)
    (record : Recorded W) :
    ∃ outcome,
      (discard backend.recorded result unit record).1 = outcome.bind (fun _ => result) ∧
      (discard backend.recorded result unit record).2.contacts =
        record.contacts ++ [.rollback outcome] := by
  rcases hrollback : backend.rollback unit record.world with ⟨outcome, world⟩
  refine ⟨outcome, ?_⟩
  cases outcome <;> simp [discard, Backend.recorded, hrollback, Except.bind]

theorem Conduct.close {operation : Operation α} {heard : List Answered} {ending : Ending α}
    {record : Recorded W} (backend : Backend W U) (unit : U)
    (hcheck : operation.check = .ok ()) (hplays : operation.work.Plays heard ending)
    (hreads : operation.purpose = .query →
      ∀ contact ∈ ending.calls heard, contact.isRead = true)
    (hcontacts : record.contacts = .begin (.ok ()) :: ending.calls heard) :
    operation.Conduct (operation.close backend.recorded ending.result unit record).2.contacts
      (operation.close backend.recorded ending.result unit record).1 := by
  unfold Operation.close
  cases hpurpose : operation.purpose with
  | change =>
    cases hresult : ending.result with
    | ok value =>
      cases ending with
      | done last =>
        cases hresult
        obtain ⟨outcome, hfirst, hlast⟩ :=
          settle_ok backend operation.name value unit record
        rw [hfirst, hlast, hcontacts, Ending.calls, Ending.refusal, List.append_nil]
        exact .committed outcome hcheck hpurpose hplays
      | failed cause | refused request cause => cases hresult
    | error cause =>
      obtain ⟨outcome, hfirst, hlast⟩ :=
        settle_error (α := α) backend operation.name cause unit record
      rw [hfirst, hlast, hcontacts]
      exact .rolledBack outcome hcheck hpurpose hplays hresult
  | query =>
    obtain ⟨outcome, hfirst, hlast⟩ := discard_eq backend ending.result unit record
    simp only [hfirst, hlast, hcontacts]
    exact .discarded outcome hcheck hpurpose hplays (hreads hpurpose)

theorem isRead_of_calls {work : Work α} {heard : List Answered} {ending : Ending α}
    (hplays : work.Plays heard ending) (hreads : work.Obeys OnlyReads (fun _ _ => True) []) :
    ∀ contact ∈ ending.calls heard, contact.isRead = true := by
  intro contact hmem
  rcases List.mem_append.mp hmem with hmem | hmem
  · obtain ⟨answered, hanswered, rfl⟩ := List.mem_map.mp hmem
    obtain ⟨before, after, hsplit⟩ := List.append_of_mem hanswered
    exact hplays.rule_of_mem hreads hsplit
  · cases ending with
    | refused request cause =>
      cases List.mem_singleton.mp hmem
      exact hplays.rule_of_refused hreads rfl
    | done value | failed cause => cases hmem

/-- A call in the record of a dialogue either was answered, or ended it. -/
theorem split_calls {heard : List Answered} {ending : Ending α} {closing : Contact}
    {before after : List Contact} {request : Call} {outcome : Except LedgerError request.Answer}
    (hclosing : closing.isCall = false)
    (hsplit : ending.calls heard ++ [closing] = before ++ .call request outcome :: after) :
    ∃ earlier, before = earlier.map Answered.contact ∧
      ((∃ answer later, outcome = .ok answer ∧ heard = earlier ++ ⟨request, answer⟩ :: later) ∨
        ∃ cause, outcome = .error cause ∧ ending = .refused request cause ∧ heard = earlier ∧
          after = [closing]) := by
  induction heard generalizing before with
  | nil =>
    cases ending with
    | done value | failed cause =>
      rcases before with - | ⟨first, rest⟩
      · cases hsplit
        cases hclosing
      · cases rest <;> cases hsplit
    | refused other cause =>
      rcases before with - | ⟨first, - | ⟨second, rest⟩⟩
      · cases hsplit
        exact ⟨[], rfl, .inr ⟨cause, rfl, rfl, rfl, rfl⟩⟩
      · cases hsplit
        cases hclosing
      · cases rest <;> cases hsplit
  | cons answered rest ih =>
    rcases before with - | ⟨first, before⟩
    · cases hsplit
      exact ⟨[], rfl, .inl ⟨_, rest, rfl, rfl⟩⟩
    · obtain ⟨rfl, htail⟩ := List.cons.inj hsplit
      obtain ⟨earlier, rfl, hcase⟩ := ih htail
      refine ⟨answered :: earlier, rfl, ?_⟩
      rcases hcase with ⟨answer, later, houtcome, rfl⟩ | ⟨cause, houtcome, hending, rfl, hafter⟩
      · exact .inl ⟨answer, later, houtcome, rfl⟩
      · exact .inr ⟨cause, houtcome, hending, rfl, hafter⟩

/-- Each call in the record of a dialogue obeys the rule for what was heard before it, and
after one that is refused there is nothing more to say. -/
theorem rule_of_split {work : Work α} {rule : List Answered → Call → Prop}
    {post : List Answered → α → Prop} {heard : List Answered} {ending : Ending α}
    {closing : Contact} {before after : List Contact} {request : Call}
    {outcome : Except LedgerError request.Answer} (hplays : work.Plays heard ending)
    (hobeys : work.Obeys rule post [])
    (hclosing : closing.isCall = false)
    (hsplit : .begin (.ok ()) :: ending.calls heard ++ [closing] =
      before ++ .call request outcome :: after) :
    ∃ earlier, before = .begin (.ok ()) :: earlier.map Answered.contact ∧
      rule earlier request ∧
      ∀ cause, outcome = .error cause → after = [closing] ∧ ending.result = .error cause := by
  rcases before with - | ⟨first, before⟩
  · cases hsplit
  · obtain ⟨rfl, htail⟩ := List.cons.inj hsplit
    obtain ⟨earlier, rfl, hcase⟩ := split_calls hclosing htail
    refine ⟨earlier, rfl, ?_⟩
    rcases hcase with ⟨answer, later, rfl, hheard⟩ | ⟨cause, rfl, rfl, rfl, rfl⟩
    · exact ⟨hplays.rule_of_mem hobeys hheard, nofun⟩
    · refine ⟨hplays.rule_of_refused hobeys rfl, ?_⟩
      rintro _ ⟨⟩
      exact ⟨rfl, rfl⟩

/-- Each call of an operation obeys the rules of its work; after one that is refused the
unit is rolled back, and a change then fails as the call did. -/
theorem Conduct.rule_of_split {operation : Operation α} {rule : List Answered → Call → Prop}
    {post : List Answered → α → Prop} {contacts before after : List Contact}
    {result : Except LedgerError α} {request : Call}
    {outcome : Except LedgerError request.Answer}
    (hconduct : operation.Conduct contacts result) (hobeys : operation.work.Obeys rule post [])
    (hsplit : contacts = before ++ .call request outcome :: after) :
    ∃ earlier, before = .begin (.ok ()) :: earlier.map Answered.contact ∧
      rule earlier request ∧
      ∀ cause, outcome = .error cause → ∃ closing, after = [.rollback closing] ∧
        (operation.purpose = .change → result = .error cause) := by
  cases hconduct with
  | refused hcheck => simp at hsplit
  | unopened hcheck =>
    rcases before with - | ⟨first, before⟩
    · cases hsplit
    · rcases before <;> cases hsplit
  | committed outcome hcheck hpurpose hplays =>
    rw [← List.append_nil (List.map _ _)] at hsplit
    obtain ⟨earlier, hbefore, hrule, hrefused⟩ :=
      Operation.rule_of_split hplays hobeys rfl hsplit
    exact ⟨earlier, hbefore, hrule, fun cause hcause => nomatch (hrefused cause hcause).2⟩
  | rolledBack last hcheck hpurpose hplays hresult =>
    obtain ⟨earlier, hbefore, hrule, hrefused⟩ :=
      Operation.rule_of_split hplays hobeys rfl hsplit
    refine ⟨earlier, hbefore, hrule, fun cause hcause => ?_⟩
    obtain ⟨hafter, hending⟩ := hrefused cause hcause
    exact ⟨last, hafter, fun _ => hresult.symm.trans hending⟩
  | discarded last hcheck hpurpose hplays hreads =>
    obtain ⟨earlier, hbefore, hrule, hrefused⟩ :=
      Operation.rule_of_split hplays hobeys rfl hsplit
    refine ⟨earlier, hbefore, hrule, fun cause hcause => ?_⟩
    exact ⟨last, (hrefused cause hcause).1, fun hchange => nomatch hpurpose.symm.trans hchange⟩

/-- The record of any operation whose queries only read is one of good conduct. -/
theorem conduct {operation : Operation α} (backend : Backend W U) (world : W)
    (hreads : operation.purpose = .query →
      operation.work.Obeys OnlyReads (fun _ _ => True) []) :
    operation.Conduct (operation.run backend.recorded ⟨world, []⟩).2.contacts
      (operation.run backend.recorded ⟨world, []⟩).1 := by
  simp only [run, backend.recorded_notes]
  cases hcheck : operation.check with
  | error cause => exact .refused hcheck
  | ok done =>
    rcases hbegin : backend.begin (backend.notes operation.opening world) with ⟨begun, opened⟩
    simp only [Backend.recorded_begin hbegin]
    cases begun with
    | error cause => exact .unopened hcheck
    | ok unit =>
      obtain ⟨heard, ending, hplays, hresult, hcontacts⟩ :=
        operation.work.exists_plays backend unit ⟨opened, [.begin (.ok ())]⟩
      simp only [List.nil_append, Except.map]
      rcases hrun : operation.work.run backend.recorded unit ⟨opened, [.begin (.ok ())]⟩ with
        ⟨result, last, record⟩
      rw [hrun] at hresult hcontacts
      subst hresult
      have hclose := Conduct.close backend last hcheck hplays
        (fun hpurpose => isRead_of_calls hplays (hreads hpurpose)) hcontacts
      rcases hclosed : operation.close backend.recorded ending.result last record with
        ⟨cause | value, closed⟩
      · rw [hclosed] at hclose
        exact hclose
      · rw [hclosed] at hclose
        exact hclose

end Operation

/-! ## Requests -/

theorem Engine.onlyReads_checkBalances (report : IntegrityReport) (balances : List Balance)
    (past : List Answered) :
    (checkBalances report balances).Obeys OnlyReads (fun _ _ => True) past := by
  induction balances generalizing report past with
  | nil => trivial
  | cons balance rest ih =>
    refine Work.obeys_bind.mpr ⟨rfl, fun records => ?_⟩
    refine Work.obeys_bind.mpr (Work.obeys_check.mpr fun report _ => ?_)
    exact ih report _

theorem Request.onlyReads (limits : Limits) (request : Request)
    (hquery : (request.operation limits).purpose = .query) :
    (request.operation limits).work.Obeys OnlyReads (fun _ _ => True) [] := by
  cases request with
  | balancesForUser _ | balancesForCompany _ | recordsForBalance _ | recordsForExchange _
  | debtorsForUser _ | debtsForDebtor _ | recordsForDebt _ => exact ⟨rfl, fun _ => trivial⟩
  | balance _ _ | balanceById _ | record _ | exchange _ | debtor _ | debt _ =>
    exact Work.obeys_bind.mpr ⟨rfl, fun _ => Work.obeys_require.mpr fun _ _ => trivial⟩
  | verifyIntegrity =>
    exact Work.obeys_bind.mpr ⟨rfl, fun _ => Engine.onlyReads_checkBalances _ _ _⟩
  | _ => cases hquery

/-- Whatever a store answers, each operation treats it as it should, and being recorded
makes no difference to it. -/
theorem Request.conducted (limits : Limits) (request : Request) (backend : Backend W U)
    (world : W) :
    ∃ contacts,
      (request.operation limits).run backend.recorded ⟨world, []⟩ =
        (((request.operation limits).run backend world).1,
          ⟨((request.operation limits).run backend world).2, contacts⟩) ∧
      (request.operation limits).Conduct contacts
        ((request.operation limits).run backend world).1 := by
  have hplain : (request.operation limits).run backend world =
      ((request.operation limits).run backend.recorded ⟨world, []⟩).map id Recorded.world :=
    backend.recorded_refines.run_operation (request.operation limits) ⟨world, []⟩
  refine ⟨((request.operation limits).run backend.recorded ⟨world, []⟩).2.contacts, ?_, ?_⟩
  · rw [hplain]
    rfl
  · rw [hplain]
    exact Operation.conduct backend world (request.onlyReads limits)

end CashLedger
