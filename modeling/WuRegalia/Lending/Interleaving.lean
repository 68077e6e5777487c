import WuRegalia.Lending.Agreement

/-! # Rents and returns in flight together

Any number of rents and returns, their loads and flushes in any order. The
unique item column stops a second rent of an item, but not a rent that loaded
the item while it was still `RENTED`, nor a return of a reservation that is
gone by the time it is flushed.
-/

namespace WuRegalia.Lending

open TwoPhase (State)

abbrev Event := TwoPhase.Event Request

/-- The condition on a flush that keeps statuses and reservations in agreement:
    a rent of a free item did not load it as `RENTED`, and a return finds its
    reservation there or the item not reserved. -/
def NotStale (s : Store) : Decision → Prop
  | .rent decided => ¬ s.Reserved decided.itemid → decided.item.itemStatus ≠ decided.rent_status
  | .delete decided =>
      (s.reservation.find decided.reservation).isSome ∨ ¬ s.Reserved decided.itemid

instance (s : Store) : (decision : Decision) → Decidable (NotStale s decision)
  | .rent _ => inferInstanceAs (Decidable (_ → _))
  | .delete _ => inferInstanceAs (Decidable (_ ∨ _))

/-- What a request in flight relies on when it was loaded from a store that was
    in agreement. -/
def Tracked (s : Store) (decision : Decision) : Prop :=
  decision.Known s.toTables ∧
    match decision with
    | .rent _ => True
    | .delete ret => ret.item.itemStatus ≠ ret.status

theorem tracked_of_load {s : Store} {request : Request} {decision : Decision} (agree : s.Agree)
    (loaded : requests.load s request = some decision) : Tracked s decision := by
  refine ⟨known_of_load loaded, ?_⟩
  cases decision with
  | rent rent => trivial
  | delete ret =>
      cases request with
      | rent sessionUser item now => simp [requests, load] at loaded
      | delete reservation =>
          simp only [requests, load, Option.map_eq_some_iff] at loaded
          obtain ⟨decided, located, same⟩ := loaded
          cases same
          exact ReservationController.itemStatus_ne_of_load s.valid agree
            (Loaded.decision_eq_some.mp located)

theorem agree_flush {s : Store} {decision : Decision} (agree : s.Agree)
    (tracked : Tracked s decision) :
    (requests.flush s decision).Agree ↔ NotStale s decision := by
  obtain ⟨known, differs⟩ := tracked
  cases decision with
  | rent rent => exact RentController.Rent.Known.agree_committed agree known
  | delete ret => exact ReservationController.Return.Known.agree_committed agree known differs

/-- An interleaving of rents and returns keeps every status in agreement with
    the reservations exactly when none of its flushes is stale. -/
theorem interleaving_agree {s : Store} (agree : s.Agree) (events : List Event) :
    (∀ t ∈ Run.states requests.step (State.quiet s) events, t.store.Agree) ↔
      ∀ move ∈ Run.steps requests.step (State.quiet s) events,
        TwoPhase.FlushGuard NotStale move.1 move.2 :=
  TwoPhase.exact_guard (I := fun s => s.Agree) (K := Tracked)
    (fun _ _ _ agree loaded => tracked_of_load agree loaded)
    (fun _ _ _ _ _ tracked _ => ⟨tracked.1.flush _, tracked.2⟩)
    (fun _ _ agree tracked => agree_flush agree tracked) agree (State.tracks_quiet _ _)

/-- The item is rented, returned and rented again, each time without a stale flush. -/
theorem interleaving_agree_sample :
    Store.sample.Agree ∧
      ∀ t ∈ Run.states requests.step (State.quiet Store.sample)
        [.load 0 (.rent (some .sampleUser) 1 0), .load 1 (.rent (some .sampleAdmin) 2 0),
          .flush 0, .flush 1, .load 0 (.delete 1), .flush 0,
          .load 0 (.rent (some .sampleUser) 1 0), .flush 0],
        t.store.Agree :=
  ⟨by decide, (interleaving_agree (by decide) _).mpr (by decide)⟩

/-- A second rent loads the item as `RENTED`, and by the time it is flushed the
    item has been returned. -/
def staleRent : List Event :=
  [.load 0 (.rent (some .sampleUser) 1 0), .flush 0, .load 0 (.rent (some .sampleAdmin) 1 0),
    .load 1 (.delete 1), .flush 1, .flush 0]

theorem interleaving_lost_update : ¬ ∀ (s : Store) (events : List Event), s.Agree →
    ∀ t ∈ Run.states requests.step (State.quiet s) events, t.store.Agree := by
  intro claim
  exact absurd (claim .sample staleRent (by decide)) (by decide)

end WuRegalia.Lending
