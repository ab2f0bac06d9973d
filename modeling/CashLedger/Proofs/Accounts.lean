import CashLedger.Proofs.Desk
import CashLedger.Proofs.Engine.Revisions
import CashLedger.Proofs.Store.Accounts

/-!
# One account for a user and currency

However the sessions of a desk overlap, a user never has two balances in one currency,
and the account that a balance is stays what it was when it was first committed.  All
that is asked of the supplies is that a balance which is opened gets an identifier that
no stored one has.  So each unit, at every point of its work, finds the one balance of a
pair or none, in whatever order it goes through its rows.
-/

namespace CashLedger

/-! ## What a unit's work leaves alone -/

/-- Each call on the way obeys the rule that the work obeys. -/
theorem Work.Passes.exists_rule {α : Type} {work : Work α} {course point : Course}
    {rule : List Answered → Call → Prop} {post : List Answered → α → Prop}
    {past : List Answered} (hpasses : work.Passes course point)
    (hobeys : work.Obeys rule post past) {request : Call} (hcall : request ∈ point.calls) :
    request ∈ course.calls ∨ ∃ before, rule before request := by
  induction hpasses generalizing past with
  | here work course => exact .inl hcall
  | call hanswer hrest ih =>
    rcases ih (hobeys.2 _) hcall with hearlier | hrule
    · rcases List.mem_append.mp hearlier with hbefore | hlast
      · exact .inl hbefore
      · obtain rfl := List.mem_singleton.mp hlast
        exact .inr ⟨past, hobeys.1⟩
    · exact .inr hrule
  | clock hrest ih => exact ih (hobeys _) hcall
  | draw hrest ih => exact ih (hobeys _) hcall

/-- The balance that was found last, if any, is one of the unit's. -/
def MemoryUnit.Recalls (unit : MemoryUnit) (past : List Answered) : Prop :=
  ∀ earlier last balance, past = earlier ++ [last] → last.Found balance →
    balance ∈ unit.working.balances.rows

namespace MemoryUnit

variable {unit last : MemoryUnit} {request : Call} {reply : request.Answer}

theorem recalls_answer (hanswer : unit.answer request = (.ok reply, last))
    (past : List Answered) : last.Recalls (past ++ [⟨request, reply⟩]) := by
  intro earlier final balance hpast hfound
  obtain ⟨-, hfinal⟩ := List.append_inj' hpast rfl
  obtain rfl := List.singleton_inj.mp hfinal
  cases hfound with
  | byId id =>
    obtain ⟨hfind, rfl⟩ := Prod.mk.inj hanswer
    exact Table.mem_of_find? (Except.ok.inj hfind)
  | byOwner user currency =>
    obtain ⟨hfind, rfl⟩ := Prod.mk.inj hanswer
    exact (Posting.balanceFor_eq_some (Except.ok.inj hfind)).1

theorem Recalls.keepsAccount {past : List Answered} {moves : List Answered → Int → Prop}
    (hrecalls : unit.Recalls past) (hrevises : request.Revises moves past) :
    request.KeepsAccount unit.working.balances := by
  cases request with
  | updateBalance after =>
    obtain ⟨earlier, final, balance, hpast, hfound, hrevised⟩ := hrevises
    obtain ⟨now, hrow⟩ := hrevised.exists_sameRow
    exact ⟨balance, hrecalls earlier final balance hpast hfound, .of_sameRow hrow⟩
  | _ => trivial

end MemoryUnit

/-- Calls that are allowed and leave accounts as they are keep a property of units. -/
def MemoryUnit.Keeps (allowed : Call → Prop) (holds : MemoryUnit → Prop) : Prop :=
  ∀ {request : Call} {reply : request.Answer} {unit last : MemoryUnit}, holds unit →
    allowed request → request.KeepsAccount unit.working.balances →
    unit.answer request = (.ok reply, last) → holds last

/-- Work that stores balances only as revisions of what it just found leaves accounts as
they are, at each point that it comes past. -/
theorem Work.Passes.holds {α : Type} {allowed : Call → Prop} {holds : MemoryUnit → Prop}
    (hsteps : MemoryUnit.Keeps allowed holds) {work : Work α} {course point : Course}
    (hpasses : work.Passes course point) {moves : List Answered → Int → Prop}
    {post : List Answered → α → Prop} {past : List Answered}
    (hobeys : work.Obeys (Call.Revises moves) post past) (hrecalls : course.unit.Recalls past)
    (hallowed : ∀ request ∈ point.calls, allowed request) (hstart : holds course.unit) :
    holds point.unit := by
  induction hpasses generalizing past with
  | here work course => exact hstart
  | call hanswer hrest ih =>
    have hkeeps := hrecalls.keepsAccount hobeys.1
    have hrequest := hallowed _ (hrest.calls_subset (List.mem_append_right _ List.mem_cons_self))
    exact ih (hobeys.2 _) (MemoryUnit.recalls_answer hanswer past) hallowed
      (hsteps hstart hrequest hkeeps hanswer)
  | clock hrest ih => exact ih (hobeys _) hrecalls hallowed hstart
  | draw hrest ih => exact ih (hobeys _) hrecalls hallowed hstart

/-! ## Sessions -/

namespace Session

variable {session : Session} {shared next : Tables} {point last : Course}

/-- The session comes to this point on its way, whether or not it ends well. -/
def Passes (session : Session) (point : Course) : Prop :=
  session.operation.work.Passes (.start session.snapshot session.supply) point

/-- If the session ends well, no stored balance has the identifier of one that it opened. -/
def OpensAnew (session : Session) (shared : Tables) : Prop :=
  ∀ ending ∈ session.ending? shared, ∀ request ∈ ending.2.1.calls,
    ∀ balance ∈ request.opened?, shared.balances.find? balance.id = none

instance (session : Session) (shared : Tables) : Decidable (session.OpensAnew shared) :=
  inferInstanceAs (Decidable (∀ ending ∈ session.ending? shared, ∀ request ∈ ending.2.1.calls,
    ∀ balance ∈ request.opened?, shared.balances.find? balance.id = none))

theorem holds_of_passes {allowed : Call → Prop} {holds : MemoryUnit → Prop}
    (hsteps : MemoryUnit.Keeps allowed holds) (hpasses : session.Passes point)
    (hallowed : ∀ request ∈ point.calls, allowed request)
    (hstart : holds ⟨session.snapshot, {}⟩) : holds point.unit := by
  have hnothing : MemoryUnit.Recalls ⟨session.snapshot, {}⟩ [] := by
    intro earlier final balance hpast
    simp at hpast
  exact hpasses.holds hsteps (session.request.revises session.limits) hnothing hallowed hstart

/-- At each point of its work a unit has one balance for a user and currency. -/
theorem onePerPair_of_passes (hpasses : session.Passes point)
    (hone : session.snapshot.balances.OnePerPair) : point.unit.working.balances.OnePerPair := by
  have hsteps : MemoryUnit.Keeps (fun _ => True) (·.working.balances.OnePerPair) :=
    fun hone _ hkeeps hanswer => MemoryUnit.onePerPair_answer hone hkeeps hanswer
  exact holds_of_passes hsteps hpasses (fun _ _ => trivial) hone

/-- What it opened apart, a unit has only accounts that it found, as it found them. -/
theorem honours_of_passes (hpasses : session.Passes point)
    (hopened : ∀ request ∈ point.calls, ∀ balance ∈ request.opened?,
      shared.balances.find? balance.id = none)
    (hfollows : session.snapshot.balances.KeepsAccounts shared.balances) :
    point.unit.Honours
      (fun id => (∃ old, session.snapshot.balances.find? id = some old) ∨
        shared.balances.find? id = none)
      session.snapshot.balances := by
  refine holds_of_passes (fun hhonours hallowed hkeeps hanswer => ?_) hpasses hopened ?_
  · refine MemoryUnit.Honours.answer hhonours (fun balance hbalance => ?_) hkeeps hanswer
    have hnone := hallowed balance hbalance
    exact ⟨.inr hnone, hfollows.find?_eq_none hnone⟩
  · refine ⟨.refl _, fun balance hmem => .inl ⟨balance, Table.mem_rows_iff.mp hmem⟩, ?_⟩
    exact fun id hid => absurd hid List.not_mem_nil

/-- A session that ends well leaves one balance for a user and currency, and keeps all the
accounts that it meets. -/
theorem accounts_of_ending {value : session.request.Answer}
    (hending : session.ending? shared = some (value, last, next))
    (hnew : session.OpensAnew shared) (hsnapshot : session.snapshot.balances.OnePerPair)
    (hfollows : session.snapshot.balances.KeepsAccounts shared.balances)
    (hshared : shared.balances.OnePerPair) :
    next.balances.OnePerPair ∧ shared.balances.KeepsAccounts next.balances := by
  obtain ⟨hcourse, hfinish⟩ := ending?_eq_some_iff.mp hending
  obtain ⟨-, last', hcourse', hended⟩ := finish_eq_ok_iff.mp hfinish
  rw [hcourse] at hcourse'
  cases hcourse'
  split at hended
  · obtain ⟨hcheck, rfl⟩ := MemoryUnit.commit_eq_ok_iff.mp hended
    have hpasses : session.Passes last := Work.passes_of_perform hcourse
    have hworking := onePerPair_of_passes hpasses hsnapshot
    have hhonours := honours_of_passes hpasses (hnew _ hending) hfollows
    have hkeeps := hhonours.publish hfollows fun balance hmem hknown => by
      rcases hknown with hold | hfree
      · exact hold
      · exact absurd rfl (Table.find?_eq_none_iff.mp hfree balance hmem)
    exact ⟨MemoryUnit.onePerPair_publish hcheck hworking hshared hkeeps, hkeeps⟩
  · subst hended
    exact ⟨hshared, .refl _⟩

end Session

/-! ## Desks -/

namespace Desk

/-- Whatever ends well gives the balances that it opens new identifiers. -/
def OpensAnew (desk : Desk) : Turn → Prop
  | .ends place => ∀ session ∈ desk.sessions[place]?, session.OpensAnew desk.shared
  | _ => True

instance (desk : Desk) : (turn : Turn) → Decidable (desk.OpensAnew turn)
  | .ends place => inferInstanceAs
      (Decidable (∀ session ∈ desk.sessions[place]?, session.OpensAnew desk.shared))
  | .opens _ _ _ _ | .joins _ => .isTrue trivial

/-- So does each turn of a run. -/
def AllOpenAnew : Desk → List Turn → Prop
  | _, [] => True
  | desk, turn :: rest => desk.OpensAnew turn ∧ AllOpenAnew (desk.turn turn) rest

instance AllOpenAnew.decidable : (desk : Desk) → (turns : List Turn) →
    Decidable (desk.AllOpenAnew turns)
  | _, [] => .isTrue trivial
  | desk, turn :: rest =>
    have := AllOpenAnew.decidable (desk.turn turn) rest
    inferInstanceAs (Decidable (desk.OpensAnew turn ∧ (desk.turn turn).AllOpenAnew rest))

/-- The accounts of the shared tables, and of the snapshots that sessions work on, are in
order. -/
structure Orderly (desk : Desk) : Prop where
  shared : desk.shared.balances.OnePerPair
  snapshots : ∀ session ∈ desk.sessions, session.snapshot.balances.OnePerPair
  follows : ∀ session ∈ desk.sessions,
    session.snapshot.balances.KeepsAccounts desk.shared.balances

variable {desk : Desk}

theorem Orderly.ended (horderly : desk.Orderly) {session : Session} {rest : List Session}
    (hmem : session ∈ desk.sessions) (hrest : rest ⊆ desk.sessions)
    (hnew : session.OpensAnew desk.shared) :
    (desk.ended session rest).Orderly ∧
      desk.shared.balances.KeepsAccounts (desk.ended session rest).shared.balances := by
  unfold Desk.ended
  split
  · next value last next hending =>
    obtain ⟨hnext, hkeeps⟩ := Session.accounts_of_ending hending hnew
      (horderly.snapshots session hmem) (horderly.follows session hmem) horderly.shared
    refine ⟨⟨hnext, fun other hother => horderly.snapshots other (hrest hother), ?_⟩, hkeeps⟩
    exact fun other hother => (horderly.follows other (hrest hother)).trans hkeeps
  · next hending =>
    rw [Session.finish_of_ending?_eq_none hending]
    refine ⟨⟨horderly.shared, fun other hother => horderly.snapshots other (hrest hother), ?_⟩,
      .refl _⟩
    exact fun other hother => horderly.follows other (hrest hother)

theorem Orderly.turn (horderly : desk.Orderly) {turn : Turn} (hnew : desk.OpensAnew turn) :
    (desk.turn turn).Orderly ∧
      desk.shared.balances.KeepsAccounts (desk.turn turn).shared.balances := by
  cases turn with
  | opens limits request moment uuid =>
    refine ⟨⟨horderly.shared, fun session hmem => ?_, fun session hmem => ?_⟩, .refl _⟩
    · rcases List.mem_cons.mp hmem with rfl | hmem
      · exact horderly.shared
      · exact horderly.snapshots session hmem
    · rcases List.mem_cons.mp hmem with rfl | hmem
      · exact .refl _
      · exact horderly.follows session hmem
  | joins user => exact ⟨⟨horderly.shared, horderly.snapshots, horderly.follows⟩, .refl _⟩
  | ends place =>
    simp only [Desk.turn]
    split
    · next session hsession =>
      exact horderly.ended (List.mem_of_getElem? hsession) List.eraseIdx_subset
        (hnew session hsession)
    · exact ⟨horderly, .refl _⟩

theorem Orderly.run (horderly : desk.Orderly) {turns : List Turn}
    (hnew : desk.AllOpenAnew turns) :
    (desk.run turns).Orderly ∧
      desk.shared.balances.KeepsAccounts (desk.run turns).shared.balances := by
  induction turns generalizing desk with
  | nil => exact ⟨horderly, .refl _⟩
  | cons turn rest ih =>
    obtain ⟨hturn, hkeeps⟩ := horderly.turn hnew.1
    obtain ⟨hrun, hkeeps'⟩ := ih hturn hnew.2
    exact ⟨hrun, hkeeps.trans hkeeps'⟩

theorem Orderly.start (users : Table User) : Orderly { shared := { users } } :=
  ⟨nofun, nofun, nofun⟩

theorem allOpenAnew_append {earlier later : List Turn} :
    desk.AllOpenAnew (earlier ++ later) ↔
      desk.AllOpenAnew earlier ∧ (desk.run earlier).AllOpenAnew later := by
  induction earlier generalizing desk with
  | nil => simp [AllOpenAnew, run]
  | cons turn rest ih => simp [AllOpenAnew, run, ih, and_assoc]

end Desk

/-! ## New identifiers

Sources of identifiers that keep what is promised of them give every balance a new one.
-/

theorem Session.opensAnew_of_query {session : Session} (shared : Tables)
    (hquery : session.request.isChange = false) : session.OpensAnew shared := by
  rintro ⟨value, last, next⟩ hending request hcall balance hopened
  obtain ⟨hcourse, -⟩ := ending?_eq_some_iff.mp hending
  have hpurpose : (session.request.operation session.limits).purpose = .query := by
    rw [Request.purpose_operation, hquery]
    rfl
  have hreads := session.request.onlyReads session.limits hpurpose
  rcases (Work.passes_of_perform hcourse).exists_rule hreads hcall with hstart | ⟨_, hread⟩
  · exact absurd hstart List.not_mem_nil
  · cases request with
    | createBalance _ => cases hread
    | _ => cases hopened

theorem Session.Current.opensAnew {promise : Promise} {session : Session} {used : List Uuid}
    {shared : Tables} (hcurrent : session.Current promise used shared)
    (hshared : shared.Sound promise used) (hregular : session.Regular shared promise used) :
    session.OpensAnew shared := by
  cases hchange : session.request.isChange with
  | false => exact opensAnew_of_query shared hchange
  | true =>
    rintro ⟨value, last, next⟩ hending request hcall balance hopened
    obtain ⟨hcourse, hfinish⟩ := ending?_eq_some_iff.mp hending
    obtain ⟨hcheck, -⟩ := finish_eq_ok_iff.mp hfinish
    have hregular := hregular _ hending
    obtain ⟨owner, hsettled⟩ :=
      Request.settled hchange (hcurrent.sound.opening hregular) hcheck hcourse
    have hwithin := hsettled.fulfilled.calls request hcall
    cases request with
    | createBalance opened =>
      obtain rfl := Option.some.inj hopened
      refine Option.eq_none_iff_forall_ne_some.mpr fun row hfind => ?_
      exact hregular.fresh _ hwithin.1 (hshared.known.balances _ row hfind)
    | _ => cases hopened

namespace Desk

variable {promise : Promise} {desk : Desk}

theorem Sound.opensAnew (hsound : desk.Sound promise) {turn : Turn}
    (hallows : desk.Allows promise turn) : desk.OpensAnew turn := by
  cases turn with
  | ends place =>
    intro session hsession
    have hmem : session ∈ desk.sessions := List.mem_of_getElem? hsession
    exact (hsound.sessions session hmem).opensAnew hsound.shared (hallows session hsession)
  | _ => trivial

theorem Sound.allOpenAnew (hsound : desk.Sound promise) {turns : List Turn}
    (hallows : desk.AllowsAll promise turns) : desk.AllOpenAnew turns := by
  induction turns generalizing desk with
  | nil => trivial
  | cons turn rest ih =>
    exact ⟨hsound.opensAnew hallows.1, ih (hsound.turn hallows.1) hallows.2⟩

theorem Reachable.orderly (hreachable : desk.Reachable promise) : desk.Orderly := by
  induction hreachable with
  | start users => exact .start users
  | turn turn hreachable hallows ih => exact (ih.turn (hreachable.sound.opensAnew hallows)).1

end Desk

/-! ## What units find -/

/-- For a user and currency there is one answer, in whatever order the rows come: their only
balance, or none. -/
def MemoryUnit.FindsOne (unit : MemoryUnit) : Prop :=
  ∀ user currency, ∃ found : Option Balance,
    (∀ balance, found = some balance ↔ balance ∈ unit.working.balances.rows ∧
      balance.userId = user ∧ balance.currency = currency) ∧
    ∀ balances : Table Balance, balances.rows.Perm unit.working.balances.rows →
      let other := { unit with working := { unit.working with balances } }
      other.answer (.balanceFor user currency) = (.ok found, other)

theorem MemoryUnit.findsOne {unit : MemoryUnit} (hone : unit.working.balances.OnePerPair) :
    unit.FindsOne := by
  intro user currency
  refine ⟨_, fun balance => Tables.balanceFor_eq_some_iff hone, fun balances hperm => ?_⟩
  have hother : balances.OnePerPair := fun left hleft right hright =>
    hone left (hperm.mem_iff.mp hleft) right (hperm.mem_iff.mp hright)
  have hfound : Tables.balanceFor { unit.working with balances } user currency =
      unit.working.balanceFor user currency := by
    apply Option.ext
    intro balance
    rw [Tables.balanceFor_eq_some_iff hother, Tables.balanceFor_eq_some_iff hone,
      hperm.mem_iff]
  rw [← hfound]
  rfl

namespace Desk

variable {promise : Promise} {desk : Desk} {later : List Turn}

theorem Orderly.accounts (horderly : desk.Orderly) (hlater : desk.AllOpenAnew later) :
    desk.shared.balances.OnePerPair ∧
      desk.shared.balances.KeepsAccounts (desk.run later).shared.balances ∧
      ∀ session ∈ desk.sessions, ∀ point, session.Passes point → point.unit.FindsOne := by
  refine ⟨horderly.shared, (horderly.run hlater).2, fun session hmem point hpasses => ?_⟩
  exact MemoryUnit.findsOne
    (Session.onePerPair_of_passes hpasses (horderly.snapshots session hmem))

/-- Where the supplies keep what is promised of them, nothing is asked of the balances that are
opened. -/
theorem Reachable.accounts (hreachable : desk.Reachable promise)
    (hlater : desk.AllowsAll promise later) :
    desk.shared.balances.OnePerPair ∧
      desk.shared.balances.KeepsAccounts (desk.run later).shared.balances ∧
      ∀ session ∈ desk.sessions, ∀ point, session.Passes point → point.unit.FindsOne :=
  hreachable.orderly.accounts (hreachable.sound.allOpenAnew hlater)

/-- Of a store that began with users only, whatever sessions have done on it: no two stored
balances are of one user and in one currency; whatever is done later, each is there and is
the account that it was; and each unit finds the one balance of a pair, or none, at every
point of its work. -/
theorem accounts_kept (users : Table User) (turns later : List Turn)
    (hnew : AllOpenAnew { shared := { users } } (turns ++ later)) :
    let desk := run { shared := { users } } turns
    desk.shared.balances.OnePerPair ∧
      desk.shared.balances.KeepsAccounts (desk.run later).shared.balances ∧
      ∀ session ∈ desk.sessions, ∀ point, session.Passes point → point.unit.FindsOne := by
  intro desk
  obtain ⟨hturns, hlater⟩ := allOpenAnew_append.mp hnew
  have horderly : desk.Orderly := ((Orderly.start users).run hturns).1
  exact horderly.accounts hlater

/-- Two sessions are at work when there are two balances, one of which two others had tried
to open at once. -/
theorem accounts_kept_noon :
    let noon := morning.run (dayTurns.take 10)
    noon.sessions.length = 2 ∧ noon.shared.balances.rows.length = 2 ∧
      noon.shared.balances.OnePerPair ∧
      noon.shared.balances.KeepsAccounts (noon.run (dayTurns.drop 10)).shared.balances ∧
      ∀ session ∈ noon.sessions, ∀ point, session.Passes point → point.unit.FindsOne :=
  ⟨by decide +kernel, by decide +kernel,
    accounts_kept _ (dayTurns.take 10) (dayTurns.drop 10) (by decide +kernel)⟩

end Desk

end CashLedger
