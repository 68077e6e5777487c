import WuRegalia.Lending.Snapshot

/-! # Statuses against reservations

That an item is rented is recorded twice: in its status, and by a reservation
that references it. The lemmas here say which single write keeps the two in
agreement. A return always does as long as its reservation is still there; a
rent does when the status it loaded makes it write the new one.
-/

namespace WuRegalia

open Relational

namespace Tables

/-- Every item has the status `RENTED` exactly when one reservation references it. -/
def Agree (t : Tables) : Prop :=
  ∀ row ∈ t.inventory.rows,
    t.statusName row.2 = some "RENTED" ↔ (t.referencing row.1).length = 1

instance (t : Tables) : Decidable t.Agree :=
  inferInstanceAs (Decidable (∀ row ∈ t.inventory.rows, _ ↔ _))

theorem Valid.agree_iff {t : Tables} (valid : t.Valid) :
    t.Agree ↔ ∀ id item, t.inventory.find id = some item →
      (t.findStatus "RENTED" = some item.itemStatus ↔ t.Reserved id) := by
  unfold Agree
  simp only [valid.statusName_iff, valid.referencing_one, Prod.forall, Table.mem_rows_iff]

/-- Whether `Agree` survives a write of one item's status and of reservations of
    that item is decided at that item. -/
theorem Agree.iff_at {t u : Tables} (agree : t.Agree) (valid : t.Valid) (validAfter : u.Valid)
    (id : Id) (status : u.findStatus "RENTED" = t.findStatus "RENTED")
    (others : ∀ other, other ≠ id → u.inventory.find other = t.inventory.find other ∧
      (u.Reserved other ↔ t.Reserved other)) :
    u.Agree ↔ ∀ item, u.inventory.find id = some item →
      (t.findStatus "RENTED" = some item.itemStatus ↔ u.Reserved id) := by
  rw [validAfter.agree_iff, status]
  constructor
  · intro after item present
    exact after id item present
  · intro here other item present
    by_cases same : other = id
    · subst same
      exact here item present
    · obtain ⟨kept, reserved⟩ := others other same
      rw [kept] at present
      rw [reserved]
      exact valid.agree_iff.mp agree other item present

/-- Reservations only ever reference items that exist. -/
theorem Valid.item_of_reserved {t : Tables} (valid : t.Valid) {id : Id} (reserved : t.Reserved id) :
    ∃ item, t.inventory.find id = some item := by
  obtain ⟨key, reservation, found, rfl⟩ := reserved
  exact valid.reservationInventory.target found rfl

end Tables

namespace RentController

/-- A rent that is applied keeps the agreement exactly when the item had not been
    loaded as `RENTED`: otherwise there is no change of status to write. -/
theorem Rent.Known.agree_write {t : Tables} {rent : Rent} (valid : t.Valid) (agree : t.Agree)
    (known : rent.Known t) (free : ¬ t.Reserved rent.itemid) :
    (write rent t).Agree ↔ rent.item.itemStatus ≠ rent.rent_status := by
  obtain ⟨item, present, -⟩ := known.item
  have notRented : t.findStatus "RENTED" ≠ some item.itemStatus := fun rented =>
    free ((valid.agree_iff.mp agree _ item present).mp rented)
  rw [agree.iff_at valid ((known.write_valid valid).mpr free) rent.itemid
    (write_findStatus rent t "RENTED")]
  · have reserved : (write rent t).Reserved rent.itemid :=
      (reserved_write rent t rent.itemid).mpr (.inl rfl)
    rw [write_find, present]
    constructor
    · intro after stale
      rw [if_neg (by simp [stale])] at after
      exact notRented ((after item rfl).mpr reserved)
    · intro fresh changed isChanged
      rw [if_pos ⟨rfl, fresh⟩] at isChanged
      obtain rfl := Option.some.inj isChanged
      exact ⟨fun _ => reserved, fun _ => known.rented⟩
  · intro other different
    rw [write_find, if_neg (fun both => different both.1), reserved_write]
    exact ⟨rfl, or_iff_right (Ne.symm different)⟩

/-- What a rent's flush does to the agreement. -/
theorem Rent.Known.agree_committed {s : Store} {rent : Rent} (agree : s.Agree)
    (known : rent.Known s.toTables) :
    (s.committed (write rent)).Agree ↔
      (¬ s.Reserved rent.itemid → rent.item.itemStatus ≠ rent.rent_status) := by
  rw [known.committed]
  split
  · rename_i reserved
    exact ⟨fun _ free => absurd reserved free, fun _ => agree⟩
  · rename_i free
    rw [known.agree_write s.valid agree free]
    exact ⟨fun fresh _ => fresh, fun guard => guard free⟩

end RentController

namespace ReservationController

/-- A reserved item is loaded with a status a return has to change. -/
theorem itemStatus_ne_of_load {id : Id} {t : Tables} {ret : Return} (valid : t.Valid)
    (agree : t.Agree) (decides : load id t = .decides ret) : ret.item.itemStatus ≠ ret.status := by
  obtain ⟨rfl, ⟨reservation, found, item⟩, present, aval⟩ := load_decides.mp decides
  have rented : t.findStatus "RENTED" = some ret.item.itemStatus :=
    (valid.agree_iff.mp agree _ _ present).mpr ⟨_, reservation, found, item⟩
  intro same
  have names : "RENTED" = "AVAL" := Tables.findStatus_name rented (same ▸ aval)
  exact absurd names (by decide)

theorem Return.Known.agree_committed {s : Store} {ret : Return} (agree : s.Agree)
    (known : ret.Known s.toTables) (differs : ret.item.itemStatus ≠ ret.status) :
    (s.committed (write ret)).Agree ↔
      (s.reservation.find ret.reservation).isSome ∨ ¬ s.Reserved ret.itemid := by
  obtain ⟨item, present⟩ := known.item
  have available : s.findStatus "RENTED" ≠ some ret.status := by
    intro rented
    have names : "RENTED" = "AVAL" := Tables.findStatus_name rented known.aval
    exact absurd names (by decide)
  have atItem : (write ret s.toTables).inventory.find ret.itemid =
      some (item.setItemStatus ret.status) := by
    rw [write_find, if_pos ⟨rfl, differs⟩, present]
    rfl
  have others : ∀ other, other ≠ ret.itemid →
      (write ret s.toTables).inventory.find other = s.inventory.find other := by
    intro other different
    rw [write_find, if_neg (fun both => different both.1)]
  rw [known.committed]
  cases found : s.reservation.find ret.reservation with
  | some reservation =>
      have freed := known.reserved_write s.valid found
      rw [agree.iff_at s.valid (known.write_valid s.valid) _ (write_findStatus ret _ "RENTED")
        (fun other different => ⟨others other different,
          (freed other).trans (and_iff_right different)⟩)]
      refine iff_of_true ?_ (.inl rfl)
      intro changed isChanged
      obtain rfl := Option.some.inj (atItem.symm.trans isChanged)
      exact iff_of_false available fun reserved => ((freed _).mp reserved).1 rfl
  | none =>
      have kept := reserved_write_of_gone found
      rw [agree.iff_at s.valid (known.write_valid s.valid) _ (write_findStatus ret _ "RENTED")
        (fun other different => ⟨others other different, kept other⟩), kept]
      constructor
      · intro after
        have here := after _ atItem
        exact .inr fun reserved => available (here.mpr reserved)
      · intro guard changed isChanged
        obtain rfl := Option.some.inj (atItem.symm.trans isChanged)
        have free : ¬ s.Reserved ret.itemid := guard.resolve_left (by simp)
        exact iff_of_false available free

end ReservationController

end WuRegalia
