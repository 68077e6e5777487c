import WuRegalia.Lending.Interleaving

/-! # One rental per type of item

The rule is a test on the types the user had reserved when the request loaded.
No constraint of the database repeats it, so an interleaving keeps the rule
exactly when the test would still pass at every flush that is applied.
-/

namespace WuRegalia

open Relational

namespace Tables

/-- Who holds a reservation, and the type of its item. -/
def holding (t : Tables) (reservation : Reservation) : Id × Option Id :=
  (reservation.userid, (t.inventory.find reservation.item).map Inventory.itemType)

/-- No user holds two reservations for items of one type. -/
def OnePerType (t : Tables) : Prop := t.reservation.Unique t.holding

instance (t : Tables) : Decidable t.OnePerType :=
  inferInstanceAs (Decidable (t.reservation.Unique _))

/-- Types are not edited by rents and returns. -/
theorem SameStock.holding {t u : Tables} (same : t.SameStock u) : u.holding = t.holding := by
  funext reservation
  simp only [Tables.holding, same.itemType]

end Tables

namespace RentController

theorem mem_types_iff_holding {t : Tables} {user type : Id} :
    type ∈ types t user ↔ ∃ id reservation, t.reservation.find id = some reservation ∧
      t.holding reservation = (user, some type) := by
  simp only [mem_types, Tables.holding, Prod.mk.injEq]

theorem Rent.Known.onePerType_committed {s : Store} {rent : Rent} (rule : s.OnePerType)
    (known : rent.Known s.toTables) :
    (s.committed (write rent)).OnePerType ↔
      (¬ s.Reserved rent.itemid → rent.item.itemType ∉ types s.toTables rent.userid) := by
  rw [known.committed]
  split
  · rename_i reserved
    exact ⟨fun _ free => absurd reserved free, fun _ => rule⟩
  · rename_i free
    obtain ⟨item, present, type⟩ := known.item
    have held : s.holding (.construct rent.userid rent.itemid rent.now) =
        (rent.userid, some rent.item.itemType) := by
      simp [Tables.holding, Reservation.construct, present, type]
    unfold Tables.OnePerType
    rw [(sameStock_write rent s.toTables).holding, write_reservation, Table.unique_insert rule, held,
      mem_types_iff_holding]
    constructor
    · intro distinct _ already
      obtain ⟨id, reservation, found, same⟩ := already
      exact distinct id reservation found same
    · intro absent id reservation found same
      exact absent free ⟨id, reservation, found, same⟩

end RentController

theorem ReservationController.Return.Known.onePerType_committed {s : Store} {ret : Return}
    (rule : s.OnePerType) (known : ret.Known s.toTables) :
    (s.committed (write ret)).OnePerType := by
  rw [known.committed]
  unfold Tables.OnePerType
  rw [(sameStock_write ret s.toTables).holding, write_reservation]
  exact Table.unique_delete _ rule

namespace Lending

open TwoPhase (State)

/-- The `in_array` test of a rent that will be applied would pass at its flush. -/
def StillPermitted (s : Store) : Decision → Prop
  | .rent decided =>
      ¬ s.Reserved decided.itemid →
        decided.item.itemType ∉ RentController.types s.toTables decided.userid
  | .delete _ => True

instance (s : Store) : (decision : Decision) → Decidable (StillPermitted s decision)
  | .rent _ => inferInstanceAs (Decidable (_ → _))
  | .delete _ => .isTrue trivial

theorem onePerType_flush {s : Store} {decision : Decision} (rule : s.OnePerType)
    (known : decision.Known s.toTables) :
    (requests.flush s decision).OnePerType ↔ StillPermitted s decision := by
  cases decision with
  | rent rent => exact RentController.Rent.Known.onePerType_committed rule known
  | delete ret =>
      have kept := ReservationController.Return.Known.onePerType_committed rule known
      exact iff_of_true kept trivial

/-- An interleaving of rents and returns keeps the rule exactly when every rent
    it applies is still permitted at its flush. -/
theorem interleaving_onePerType {s : Store} (rule : s.OnePerType) (events : List Event) :
    (∀ t ∈ Run.states requests.step (State.quiet s) events, t.store.OnePerType) ↔
      ∀ move ∈ Run.steps requests.step (State.quiet s) events,
        TwoPhase.FlushGuard StillPermitted move.1 move.2 :=
  TwoPhase.exact_guard (I := fun s => s.OnePerType) (K := fun s decision => decision.Known s.toTables)
    (fun _ _ _ _ loaded => known_of_load loaded)
    (fun _ flushed _ _ _ known _ => known.flush flushed)
    (fun _ _ rule known => onePerType_flush rule known) rule (State.tracks_quiet _ _)

theorem interleaving_onePerType_sample :
    Store.sample.OnePerType ∧
      ∀ t ∈ Run.states requests.step (State.quiet Store.sample)
        [.load 0 (.rent (some .sampleUser) 1 0), .load 1 (.rent (some .sampleUser) 3 0),
          .flush 1, .flush 0, .load 1 (.rent (some .sampleUser) 2 0), .flush 1],
        t.store.OnePerType :=
  ⟨by decide, (interleaving_onePerType (by decide) _).mpr (by decide)⟩

/-- Two gowns are asked for by one user before either rent is flushed. -/
def twoGowns : List Event :=
  [.load 0 (.rent (some .sampleUser) 1 0), .load 1 (.rent (some .sampleUser) 2 0), .flush 0, .flush 1]

theorem interleaving_two_of_one_type : ¬ ∀ (s : Store) (events : List Event), s.OnePerType →
    ∀ t ∈ Run.states requests.step (State.quiet s) events, t.store.OnePerType := by
  intro claim
  exact absurd (claim .sample twoGowns (by decide)) (by decide)

end Lending

end WuRegalia
