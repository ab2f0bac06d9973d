import CashLedger.Work
import Mathlib

/-!
# Dialogues with a store

Work asks its store one call after another and goes on from the answers.  What it may
ask, given all that it has heard, is a property of its tree: whatever the store
answers, and whatever the clock and the source of identifiers give, each call of
each dialogue obeys the rule.
-/

namespace CashLedger

/-- A call with the answer that it was given. -/
structure Answered where
  request : Call
  answer : request.Answer

/-- How work ends: with a value, by a check that failed, or by a call that was refused. -/
inductive Ending (α : Type) where
  | done (value : α)
  | failed (cause : LedgerError)
  | refused (request : Call) (cause : LedgerError)

def Ending.result {α : Type} : Ending α → Except LedgerError α
  | done value => .ok value
  | failed cause | refused _ cause => .error cause

namespace Work

variable {α β : Type}

/-- The dialogues that work can have, with how they end. -/
inductive Plays : Work α → List Answered → Ending α → Prop
  | done (value : α) : Plays (done value) [] (.done value)
  | fail (cause : LedgerError) : Plays (fail cause) [] (.failed cause)
  | refused (request : Call) (next : request.Answer → Work α) (cause : LedgerError) :
      Plays (call request next) [] (.refused request cause)
  | call {request : Call} {next : request.Answer → Work α} {heard : List Answered}
      {ending : Ending α} (answer : request.Answer) (hrest : Plays (next answer) heard ending) :
      Plays (call request next) (⟨request, answer⟩ :: heard) ending
  | clock {next : Timestamp → Work α} {heard : List Answered} {ending : Ending α}
      (moment : Timestamp) (hrest : Plays (next moment) heard ending) :
      Plays (clock next) heard ending
  | draw {next : Uuid → Work α} {heard : List Answered} {ending : Ending α} (uuid : Uuid)
      (hrest : Plays (next uuid) heard ending) : Plays (draw next) heard ending

/-- What work may ask after what it has heard, and what it knows when it is done. -/
def Obeys (rule : List Answered → Call → Prop) (post : List Answered → α → Prop) :
    Work α → List Answered → Prop
  | done value, past => post past value
  | fail _, _ => True
  | call request next, past =>
    rule past request ∧
      ∀ answer, (next answer).Obeys rule post (past ++ [⟨request, answer⟩])
  | clock next, past => ∀ moment, (next moment).Obeys rule post past
  | draw next, past => ∀ uuid, (next uuid).Obeys rule post past

section Obeys

variable {rule : List Answered → Call → Prop} {past : List Answered}

theorem obeys_bind {post : List Answered → β → Prop} {work : Work α} {next : α → Work β} :
    (work >>= next).Obeys rule post past ↔
      work.Obeys rule (fun later value => (next value).Obeys rule post later) past := by
  change (work.bind next).Obeys rule post past ↔ _
  induction work generalizing past with
  | done value => rfl
  | fail cause => rfl
  | call request rest ih => exact and_congr_right fun _ => forall_congr' fun answer => ih answer
  | clock rest ih => exact forall_congr' fun moment => ih moment
  | draw rest ih => exact forall_congr' fun uuid => ih uuid

variable {post : List Answered → α → Prop}

theorem Obeys.mono {weaker : List Answered → α → Prop} {work : Work α}
    (hobeys : work.Obeys rule post past)
    (hpost : ∀ later value, post later value → weaker later value) :
    work.Obeys rule weaker past := by
  induction work generalizing past with
  | done value => exact hpost past value hobeys
  | fail cause => trivial
  | call request next ih => exact ⟨hobeys.1, fun answer => ih answer (hobeys.2 answer)⟩
  | clock next ih => exact fun moment => ih moment (hobeys moment)
  | draw next ih => exact fun uuid => ih uuid (hobeys uuid)

/-- Who obeys a rule obeys a weaker one. -/
theorem Obeys.mono_rule {weaker : List Answered → Call → Prop} {work : Work α}
    (hobeys : work.Obeys rule post past)
    (hrule : ∀ later request, rule later request → weaker later request) :
    work.Obeys weaker post past := by
  induction work generalizing past with
  | done value => exact hobeys
  | fail cause => trivial
  | call request next ih =>
    exact ⟨hrule past request hobeys.1, fun answer => ih answer (hobeys.2 answer)⟩
  | clock next ih => exact fun moment => ih moment (hobeys moment)
  | draw next ih => exact fun uuid => ih uuid (hobeys uuid)

theorem obeys_check {checked : Except LedgerError α} :
    (check checked).Obeys rule post past ↔ ∀ value, checked = .ok value → post past value := by
  cases checked with
  | ok value => simp [check, Obeys]
  | error cause => simp [check, Obeys]

theorem obeys_require {cause : LedgerError} {found : Option α} :
    (require cause found).Obeys rule post past ↔ ∀ value, found = some value → post past value := by
  cases found with
  | some value => simp [require, Obeys]
  | none => simp [require, Obeys]

/-- Work that asks for what is allowed only, whatever it has heard. -/
def Asks (allowed : Call → Prop) (work : Work α) : Prop :=
  ∀ past, work.Obeys (fun _ => allowed) (fun _ _ => True) past

section Asks

variable {allowed : Call → Prop}

/-- What is allowed does not depend on what was heard before. -/
theorem Obeys.asks {work : Work α} {past : List Answered}
    (hobeys : work.Obeys (fun _ => allowed) (fun _ _ => True) past) : work.Asks allowed := by
  intro other
  induction work generalizing past other with
  | done value => trivial
  | fail cause => trivial
  | call request next ih => exact ⟨hobeys.1, fun answer => ih answer (hobeys.2 answer) _⟩
  | clock next ih => exact fun moment => ih moment (hobeys moment) other
  | draw next ih => exact fun uuid => ih uuid (hobeys uuid) other

theorem Asks.bind {work : Work α} {next : α → Work β} (hwork : work.Asks allowed)
    (hnext : ∀ value, (next value).Asks allowed) : (work >>= next).Asks allowed :=
  fun past => obeys_bind.mpr ((hwork past).mono fun later value _ => hnext value later)

theorem asks_pure (value : α) : (pure value : Work α).Asks allowed := fun _ => trivial

theorem asks_ask {request : Call} (hallowed : allowed request) : (ask request).Asks allowed :=
  fun _ => ⟨hallowed, fun _ => trivial⟩

theorem asks_now : now.Asks allowed := fun _ _ => trivial

theorem asks_newId {kind : IdKind} : (newId : Work (Id kind)).Asks allowed := fun _ _ => trivial

theorem asks_check (checked : Except LedgerError α) : (check checked).Asks allowed :=
  fun _ => obeys_check.mpr fun _ _ => trivial

theorem asks_require (cause : LedgerError) (found : Option α) :
    (require cause found).Asks allowed :=
  fun _ => obeys_require.mpr fun _ _ => trivial

end Asks

namespace Plays

variable {work : Work α} {heard : List Answered} {ending : Ending α}

/-- Each answered call came after what made it right. -/
theorem rule_of_mem (hplays : work.Plays heard ending) (hobeys : work.Obeys rule post past)
    {before after : List Answered} {next : Answered} (hheard : heard = before ++ next :: after) :
    rule (past ++ before) next.request := by
  induction hplays generalizing past before with
  | done value => simp at hheard
  | fail cause => simp at hheard
  | refused request next cause => simp at hheard
  | call answer hrest ih =>
    cases before with
    | nil =>
      cases hheard
      rw [List.append_nil]
      exact hobeys.1
    | cons first before =>
      rw [List.cons_append, List.cons.injEq] at hheard
      obtain ⟨rfl, hheard⟩ := hheard
      rw [List.append_cons]
      exact ih (hobeys.2 answer) hheard
  | clock moment hrest ih => exact ih (hobeys moment) hheard
  | draw uuid hrest ih => exact ih (hobeys uuid) hheard

/-- So did the call that was refused. -/
theorem rule_of_refused {request : Call} {cause : LedgerError}
    (hplays : work.Plays heard ending) (hobeys : work.Obeys rule post past)
    (hending : ending = .refused request cause) : rule (past ++ heard) request := by
  induction hplays generalizing past with
  | done value => cases hending
  | fail cause => cases hending
  | refused request next cause =>
    cases hending
    rw [List.append_nil]
    exact hobeys.1
  | call answer hrest ih =>
    rw [List.append_cons]
    exact ih (hobeys.2 answer) hending
  | clock moment hrest ih => exact ih (hobeys moment) hending
  | draw uuid hrest ih => exact ih (hobeys uuid) hending

end Plays

end Obeys

end Work

end CashLedger
