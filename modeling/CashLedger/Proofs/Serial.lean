import CashLedger.Proofs.Desk

/-!
# One after the other

The changes that go through while sessions overlap have the answers, and leave the
tables, that they have when each is made alone after the one committed before it.
Identifiers and times are those that each was given.
-/

namespace CashLedger

/-- Changes made alone, one after the other, from the first tables to the last. -/
def Serially : Tables → List Success → Tables → Prop
  | first, [], last => last = first
  | first, success :: rest, last =>
    ∃ next, success.session.runAlone first = (.ok success.value, next) ∧
      Serially next rest last

namespace Serially

variable {first middle last : Tables} {successes more : List Success}

theorem append (hfirst : Serially first successes middle)
    (hlast : Serially middle more last) : Serially first (successes ++ more) last := by
  induction successes generalizing first with
  | nil =>
    have hmiddle : middle = first := hfirst
    rw [hmiddle] at hlast
    exact hlast
  | cons success rest ih =>
    obtain ⟨next, hrun, hrest⟩ := hfirst
    exact ⟨next, hrun, ih hrest⟩

theorem single {success : Success}
    (hrun : success.session.runAlone first = (.ok success.value, last)) :
    Serially first [success] last :=
  ⟨last, hrun, rfl⟩

end Serially

namespace Desk

variable {promise : Promise} {origin : Tables} {desk : Desk}

/-- What there is to say of a desk about the tables it started from, as long as nobody
is added. -/
structure Serial (promise : Promise) (origin : Tables) (desk : Desk) : Prop where
  sound : desk.Sound promise
  users : desk.shared.users = origin.users
  sessions : ∀ session ∈ desk.sessions, session.snapshot.users = origin.users
  serially : Serially origin desk.done desk.shared

theorem Serial.cleared (hsound : desk.Sound promise) :
    desk.cleared.Serial promise desk.shared where
  sound := ⟨hsound.shared, nofun⟩
  users := rfl
  sessions := nofun
  serially := rfl

theorem Serial.ended (hserial : desk.Serial promise origin) {session : Session}
    {rest : List Session} (hmem : session ∈ desk.sessions) (hrest : rest ⊆ desk.sessions)
    (hregular : session.Regular desk.shared promise desk.used) :
    (desk.ended session rest).Serial promise origin := by
  have hsound := hserial.sound.ended hmem hrest hregular
  unfold Desk.ended at hsound ⊢
  split at hsound
  · next value last next hending =>
    obtain ⟨hcourse, hfinish⟩ := Session.ending?_eq_some_iff.mp hending
    have husers : session.snapshot.users = desk.shared.users :=
      (hserial.sessions session hmem).trans hserial.users.symm
    refine
      { sound := hsound
        users := (Session.finish_users hfinish).trans hserial.users
        sessions := fun other hother => hserial.sessions other (hrest hother)
        serially := hserial.serially.append ?_ }
    unfold Session.successes
    split
    · next hchange =>
      apply Serially.single
      exact (hserial.sound.sessions session hmem).runAlone hserial.sound.shared husers
        hchange (hregular _ hending) hcourse hfinish
    · next hquery =>
      obtain ⟨-, last, -, hended⟩ := Session.finish_eq_ok_iff.mp hfinish
      rw [if_neg hquery] at hended
      exact hended
  · next hending =>
    have hshared := Session.finish_of_ending?_eq_none hending
    exact
      { sound := hsound
        users := by rw [hshared, hserial.users]
        sessions := fun other hother => hserial.sessions other (hrest hother)
        serially := by
          rw [hshared]
          exact hserial.serially }

theorem Serial.turn (hserial : desk.Serial promise origin) {turn : Turn}
    (hallows : desk.Allows promise turn) (hstays : turn.isJoining = false) :
    (desk.turn turn).Serial promise origin := by
  cases turn with
  | opens limits request moment uuid =>
    refine
      { sound := hserial.sound.opens limits request moment uuid
        users := hserial.users
        sessions := fun session hmem => ?_
        serially := hserial.serially }
    rcases List.mem_cons.mp hmem with rfl | hmem
    · exact hserial.users
    · exact hserial.sessions session hmem
  | joins user => cases hstays
  | ends place =>
    simp only [Desk.turn]
    split
    · next session hsession =>
      exact hserial.ended (List.mem_of_getElem? hsession) List.eraseIdx_subset
        (hallows session hsession)
    · exact hserial

theorem Serial.run (hserial : desk.Serial promise origin) {turns : List Turn}
    (hallows : desk.AllowsAll promise turns) (hstay : ∀ turn ∈ turns, turn.isJoining = false) :
    (desk.run turns).Serial promise origin := by
  induction turns generalizing desk with
  | nil => exact hserial
  | cons turn rest ih =>
    exact ih (hserial.turn hallows.1 (hstay turn List.mem_cons_self)) hallows.2
      fun other hother => hstay other (List.mem_cons_of_mem _ hother)

/-- The changes that went through, each made alone after the one committed before it, have
the same answers and leave the same tables; whatever else was tried leaves no trace. -/
theorem serializable {origin : Desk} (hreachable : origin.Reachable .distinct) {turns : List Turn}
    (hallows : origin.cleared.AllowsAll .distinct turns)
    (hstay : ∀ turn ∈ turns, turn.isJoining = false) :
    Serially origin.shared (origin.cleared.run turns).done
      (origin.cleared.run turns).shared :=
  ((Serial.cleared hreachable.sound).run hallows hstay).serially

/-- Of seven changes that overlap five go through. -/
theorem serially_day :
    (morning.cleared.run dayTurns).done.length = 5 ∧
      Serially morning.shared (morning.cleared.run dayTurns).done
        (morning.cleared.run dayTurns).shared :=
  ⟨by decide +kernel,
    serializable (.start _ : morning.Reachable _) (by decide +kernel) (by decide +kernel)⟩

end Desk

end CashLedger
