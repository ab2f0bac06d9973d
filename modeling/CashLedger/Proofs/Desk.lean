import CashLedger.Proofs.Session

/-!
# A desk with many at work

Sessions of one store open and end in any order.  Whatever their order, the shared
tables stay consistent and go on following the snapshots of the sessions that are
still open; so each change that goes through does what it would do alone.
-/

namespace CashLedger

/-- A change that went through, with its answer. -/
structure Success where
  session : Session
  value : session.request.Answer

/-- A store in memory and those who are at work on it, the last to come first. -/
structure Desk where
  shared : Tables
  sessions : List Session := []
  /-- The identifiers drawn by what went through. -/
  used : List Uuid := []
  /-- The changes that went through, in the order of their commits. -/
  done : List Success := []

/-- What happens next: somebody sends a request, and is given a clock and a source of
identifiers; an open session ends; or a user is added. -/
inductive Turn where
  | opens (limits : Limits) (request : Request) (moment : Nat → Timestamp)
      (uuid : Nat → Uuid)
  | ends (place : Nat)
  | joins (user : User)

def Turn.isJoining : Turn → Bool
  | joins _ => true
  | _ => false

namespace Session

variable (session : Session) (shared : Tables)

/-- Of a session that ends well: its answer, its course, and the tables it leaves. -/
def ending? : Option (session.request.Answer × Course × Tables) :=
  match session.course, session.finish shared with
  | .ok (_, last), (.ok value, next) => some (value, last, next)
  | _, _ => none

/-- If the session ends well, its course is regular. -/
def Regular (promise : Promise) (used : List Uuid) : Prop :=
  ∀ ending ∈ session.ending? shared, ending.2.1.Regular promise used

instance (promise : Promise) (used : List Uuid) :
    Decidable (session.Regular shared promise used) :=
  inferInstanceAs
    (Decidable (∀ ending ∈ session.ending? shared, ending.2.1.Regular promise used))

/-- A query that ends well is not a change. -/
def successes (value : session.request.Answer) : List Success :=
  if session.request.isChange then [⟨session, value⟩] else []

end Session

namespace Desk

/-- The desk when one session has ended and the rest are still open. -/
def ended (desk : Desk) (session : Session) (rest : List Session) : Desk :=
  match session.ending? desk.shared with
  | some (value, last, next) =>
    { shared := next
      sessions := rest
      used := desk.used ++ last.supply.drawn
      done := desk.done ++ session.successes value }
  | none => { desk with shared := (session.finish desk.shared).2, sessions := rest }

def turn (desk : Desk) : Turn → Desk
  | .opens limits request moment uuid =>
    { desk with sessions := ⟨limits, request, desk.shared, moment, uuid⟩ :: desk.sessions }
  | .ends place =>
    match desk.sessions[place]? with
    | some session => desk.ended session (desk.sessions.eraseIdx place)
    | none => desk
  | .joins user => { desk with shared := desk.shared.insertUser user }

/-- The same store, with nobody at work and nothing done so far. -/
def cleared (desk : Desk) : Desk where
  shared := desk.shared
  used := desk.used

def run (desk : Desk) (turns : List Turn) : Desk := turns.foldl turn desk

/-- Whatever ends well is regular: what is promised of supplies is kept. -/
def Allows (promise : Promise) (desk : Desk) : Turn → Prop
  | .ends place =>
    ∀ session ∈ desk.sessions[place]?, session.Regular desk.shared promise desk.used
  | _ => True

instance (promise : Promise) (desk : Desk) : (turn : Turn) →
    Decidable (desk.Allows promise turn)
  | .ends place => inferInstanceAs (Decidable
      (∀ session ∈ desk.sessions[place]?, session.Regular desk.shared promise desk.used))
  | .opens _ _ _ _ | .joins _ => .isTrue trivial

/-- Each turn is allowed when it comes. -/
def AllowsAll (promise : Promise) : Desk → List Turn → Prop
  | _, [] => True
  | desk, turn :: rest => desk.Allows promise turn ∧ AllowsAll promise (desk.turn turn) rest

instance AllowsAll.decidable (promise : Promise) : (desk : Desk) → (turns : List Turn) →
    Decidable (desk.AllowsAll promise turns)
  | _, [] => .isTrue trivial
  | desk, turn :: rest =>
    have := AllowsAll.decidable promise (desk.turn turn) rest
    inferInstanceAs
      (Decidable (desk.Allows promise turn ∧ (desk.turn turn).AllowsAll promise rest))

/-- Desks that come of a store that holds only users. -/
inductive Reachable (promise : Promise) : Desk → Prop
  | start (users : Table User) : Reachable promise { shared := { users } }
  | turn {desk : Desk} (turn : Turn) (hreachable : Reachable promise desk)
      (hallows : desk.Allows promise turn) : Reachable promise (desk.turn turn)

theorem Reachable.run {promise : Promise} {desk : Desk} {turns : List Turn}
    (hreachable : desk.Reachable promise) (hallows : desk.AllowsAll promise turns) :
    (desk.run turns).Reachable promise := by
  induction turns generalizing desk with
  | nil => exact hreachable
  | cons turn rest ih => exact ih (hreachable.turn turn hallows.1) hallows.2

end Desk

/-! ## How a session ends -/

namespace Session

variable {session : Session} {shared next : Tables} {value : session.request.Answer}
  {last : Course}

theorem ending?_eq_some_iff :
    session.ending? shared = some (value, last, next) ↔
      session.course = .ok (value, last) ∧ session.finish shared = (.ok value, next) := by
  unfold ending?
  constructor
  · intro hending
    split at hending
    · next result last' value' next' hcourse hfinish =>
      cases hending
      obtain ⟨-, other, hother, -⟩ := finish_eq_ok_iff.mp hfinish
      rw [hcourse] at hother
      cases hother
      exact ⟨hcourse, hfinish⟩
    · cases hending
  · rintro ⟨hcourse, hfinish⟩
    rw [hcourse, hfinish]

/-- A session that does not end well changes nothing. -/
theorem finish_of_ending?_eq_none (hending : session.ending? shared = none) :
    (session.finish shared).2 = shared := by
  cases hfinish : session.finish shared with
  | mk result next =>
    cases result with
    | error cause => exact eq_of_finish_error hfinish
    | ok value =>
      obtain ⟨-, last, hcourse, -⟩ := finish_eq_ok_iff.mp hfinish
      rw [ending?_eq_some_iff.mpr ⟨hcourse, hfinish⟩] at hending
      cases hending

end Session

/-! ## Soundness -/

theorem Tables.Sound.mono {promise : Promise} {used more : List Uuid} {tables : Tables}
    (hsound : tables.Sound promise used) (hsubset : used ⊆ more) :
    tables.Sound promise more where
  consistent := hsound.consistent
  known := hsound.known.imp fun _ hused => hsubset hused

theorem Session.Current.later {promise : Promise} {session : Session} {used more : List Uuid}
    {shared next : Tables} (hcurrent : session.Current promise used shared)
    (hsubset : used ⊆ more) (hfollows : shared.Follows next) :
    session.Current promise more next where
  sound := hcurrent.sound.mono hsubset
  follows := hcurrent.follows.trans hfollows

namespace Desk

/-- The tables are consistent, and follow the snapshots of the open sessions. -/
structure Sound (promise : Promise) (desk : Desk) : Prop where
  shared : desk.shared.Sound promise desk.used
  sessions : ∀ session ∈ desk.sessions, session.Current promise desk.used desk.shared

variable {promise : Promise} {desk : Desk}

theorem Sound.start (users : Table User) : Sound promise { shared := { users } } where
  shared := ⟨Tables.consistent_of_users users, by constructor <;> exact nofun⟩
  sessions := nofun

theorem Sound.opens (hsound : desk.Sound promise) (limits : Limits) (request : Request)
    (moment : Nat → Timestamp) (uuid : Nat → Uuid) :
    (desk.turn (.opens limits request moment uuid)).Sound promise where
  shared := hsound.shared
  sessions session hmem := by
    rcases List.mem_cons.mp hmem with rfl | hmem
    · exact ⟨hsound.shared, .refl _⟩
    · exact hsound.sessions session hmem

theorem Sound.joins (hsound : desk.Sound promise) (user : User) :
    (desk.turn (.joins user)).Sound promise where
  shared := hsound.shared.withUsers _
  sessions session hmem :=
    { sound := (hsound.sessions session hmem).sound
      follows := { (hsound.sessions session hmem).follows with } }

theorem Sound.ended (hsound : desk.Sound promise) {session : Session} {rest : List Session}
    (hmem : session ∈ desk.sessions) (hrest : rest ⊆ desk.sessions)
    (hregular : session.Regular desk.shared promise desk.used) :
    (desk.ended session rest).Sound promise := by
  unfold Desk.ended
  split
  · next value last next hending =>
    obtain ⟨hcourse, hfinish⟩ := Session.ending?_eq_some_iff.mp hending
    obtain ⟨hcheck, last', hcourse', hended⟩ := Session.finish_eq_ok_iff.mp hfinish
    rw [hcourse] at hcourse'
    cases hcourse'
    have hmore : desk.used ⊆ desk.used ++ last.supply.drawn := List.subset_append_left _ _
    split at hended
    · next hchange =>
      obtain ⟨hnext, hfollows⟩ := (hsound.sessions session hmem).commit hsound.shared hchange
        hcheck hcourse (hregular _ hending) hended
      exact ⟨hnext, fun other hother =>
        (hsound.sessions other (hrest hother)).later hmore hfollows⟩
    · subst hended
      exact ⟨hsound.shared.mono hmore, fun other hother =>
        (hsound.sessions other (hrest hother)).later hmore (.refl _)⟩
  · next hending =>
    rw [Session.finish_of_ending?_eq_none hending]
    exact ⟨hsound.shared, fun other hother => hsound.sessions other (hrest hother)⟩

theorem Sound.turn (hsound : desk.Sound promise) {turn : Turn}
    (hallows : desk.Allows promise turn) : (desk.turn turn).Sound promise := by
  cases turn with
  | opens limits request moment uuid => exact hsound.opens limits request moment uuid
  | joins user => exact hsound.joins user
  | ends place =>
    simp only [Desk.turn]
    split
    · next session hsession =>
      exact hsound.ended (List.mem_of_getElem? hsession) List.eraseIdx_subset
        (hallows session hsession)
    · exact hsound

theorem Reachable.sound (hreachable : desk.Reachable promise) : desk.Sound promise := by
  induction hreachable with
  | start users => exact .start users
  | turn turn _ hallows ih => exact ih.turn hallows

/-- Whatever the sessions do, the shared tables are consistent. -/
theorem Reachable.consistent (hreachable : desk.Reachable promise) :
    desk.shared.Consistent promise :=
  hreachable.sound.shared.consistent

/-! ## A run -/

/-- The times and identifiers of the `n`th request of a run. -/
def opens (n : Nat) (request : Request) : Turn :=
  .opens .standard request (fun k => .ofNanos (1000 * n + k : Nat))
    fun k => ⟨BitVec.ofNat 128 (1000 * n + k)⟩

def cashier : User := ⟨⟨⟨1⟩⟩, ⟨⟨2⟩⟩⟩

/-- Two balances are opened, one of them by two sessions at once; some money comes in;
and of a loan and an exchange that overlap the exchange has to be tried again. -/
def dayTurns : List Turn :=
  let usd : Currency := ⟨"USD"⟩
  let eur : Currency := ⟨"EUR"⟩
  let exchange : NewExchange := ⟨cashier.id, ⟨10, eur⟩, ⟨20, usd⟩, none⟩
  [opens 1 (.openBalance cashier.id usd), opens 2 (.openBalance cashier.id eur),
   opens 3 (.openBalance cashier.id usd), .ends 2, .ends 0, .ends 0,
   opens 4 (.postBalanceRecord cashier.id .buy ⟨100, usd⟩ none), .ends 0,
   opens 5 (.createDebt
     ⟨cashier.id, "Ann", none, .lend, ⟨50, eur⟩, [⟨30, usd⟩, ⟨20, usd⟩], none⟩),
   opens 6 (.createExchange exchange), .ends 1, .ends 0,
   opens 7 (.createExchange exchange), .ends 0]

def morning : Desk := { shared := { users := Table.empty.insert cashier } }

def evening : Desk := morning.run dayTurns

theorem evening_reachable (promise : Promise) : evening.Reachable promise :=
  (Reachable.start _).run (by cases promise <;> decide +kernel)

/-- The record of the money that came in. -/
def deposited : Record :=
  ⟨⟨⟨4000⟩⟩, ⟨⟨1000⟩⟩, cashier.id, cashier.companyId, .buy, 100, ⟨"USD"⟩, .manual, none,
    .ofNanos 4001, .ofNanos 4001⟩

/-- The exchange of the day. -/
def bought : Exchange :=
  ⟨⟨⟨7000⟩⟩, cashier.id, cashier.companyId, ⟨10, ⟨"EUR"⟩⟩, ⟨20, ⟨"USD"⟩⟩, none, .ofNanos 7000,
    .ofNanos 7000⟩

/-- The debt of the day. -/
def lent : Debt :=
  ⟨⟨⟨5001⟩⟩, ⟨⟨5000⟩⟩, cashier.id, cashier.companyId, .lend, .opening, ⟨-50, ⟨"EUR"⟩⟩,
    [⟨-30, ⟨"USD"⟩⟩, ⟨-20, ⟨"USD"⟩⟩], none, .ofNanos 5002, .ofNanos 5002⟩

/-- The times and identifiers of the `n`th request of a run. -/
def supplied (n : Nat) : Supply where
  moment k := .ofNanos (1000 * n + k : Nat)
  uuid k := ⟨BitVec.ofNat 128 (1000 * n + k)⟩

end Desk

end CashLedger
