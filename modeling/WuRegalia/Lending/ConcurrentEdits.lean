import WuRegalia.Lending.ChangeSets

/-! # Edits of items in flight with rents and returns

Items are edited while they are rented and returned without the one undoing the other: an
edit that leaves status and type as it loaded them is not seen by rents and returns, in any
order of loads and flushes, and no rent or return is seen in what edits write.
-/

namespace WuRegalia.ConcurrentEdits

open Relational
open TwoPhase (State)

/-- Status and type are the same. -/
def Lends (item other : Inventory) : Prop :=
  item.itemStatus = other.itemStatus ∧ item.itemType = other.itemType

/-- Rents and returns find the same in both stores. -/
structure SameLending (s t : Store) : Prop where
  reservation : s.reservation = t.reservation
  status : s.status = t.status
  user : s.user = t.user
  items : ∀ id, Option.Rel Lends (s.inventory.find id) (t.inventory.find id)

/-- The decisions differ in what was loaded besides status and type. -/
inductive MatchLending : Decision → Decision → Prop where
  | rent {rent : RentController.Rent} {item : Inventory} (lends : Lends rent.item item) :
      MatchLending (.lending (.rent rent)) (.lending (.rent { rent with item }))
  | delete {ret : ReservationController.Return} {item : Inventory} (lends : Lends ret.item item) :
      MatchLending (.lending (.delete ret)) (.lending (.delete { ret with item }))

def Request.IsLending : Request → Prop
  | .lending _ => True
  | .edit .. => False

instance : DecidablePred Request.IsLending
  | .lending _ => .isTrue trivial
  | .edit .. => .isFalse id

/-- An edit that leaves status and type as they were loaded. -/
def Decision.KeepsLent : Decision → Prop
  | .edit _ loaded set => set.itemStatus = loaded.itemStatus ∧ set.itemType = loaded.itemType
  | .lending _ => False

instance : DecidablePred Decision.KeepsLent
  | .edit .. => inferInstanceAs (Decidable (_ ∧ _))
  | .lending _ => .isFalse id

theorem Lends.symm {item other : Inventory} (lends : Lends item other) : Lends other item :=
  ⟨lends.1.symm, lends.2.symm⟩

theorem SameLending.symm {s t : Store} (same : SameLending s t) : SameLending t s where
  reservation := same.reservation.symm
  status := same.status.symm
  user := same.user.symm
  items id := by
    have items := same.items id
    generalize s.inventory.find id = mine at items ⊢
    generalize t.inventory.find id = theirs at items ⊢
    cases items with
    | some lends => exact .some lends.symm
    | none => exact .none

theorem SameLending.findStatus {s t : Store} (same : SameLending s t) (name : String) :
    s.findStatus name = t.findStatus name := by
  unfold Tables.findStatus
  rw [same.status]

theorem SameLending.findUser {s t : Store} (same : SameLending s t) (username : String) :
    s.findUser username = t.findUser username := by
  unfold Tables.findUser
  rw [same.user]

theorem SameLending.find {s t : Store} (same : SameLending s t) {id : Id} {item : Inventory}
    (present : s.inventory.find id = some item) :
    ∃ other, t.inventory.find id = some other ∧ Lends item other := by
  have items := same.items id
  rw [present] at items
  generalize t.inventory.find id = found at items ⊢
  cases items with
  | some lends => exact ⟨_, rfl, lends⟩

theorem SameLending.types {s t : Store} (same : SameLending s t) (user type : Id) :
    type ∈ RentController.types s.toTables user ↔ type ∈ RentController.types t.toTables user := by
  have kinds : ∀ id, (s.inventory.find id).map Inventory.itemType =
      (t.inventory.find id).map Inventory.itemType := by
    intro id
    have items := same.items id
    generalize s.inventory.find id = mine at items ⊢
    generalize t.inventory.find id = theirs at items ⊢
    cases items with
    | some lends => exact congrArg some lends.2
    | none => rfl
  simp only [RentController.mem_types, same.reservation, kinds]

theorem SameLending.load {s t : Store} (same : SameLending s t) {request : Lending.Request}
    {decision : Decision} (loaded : requests.load s (.lending request) = some decision) :
    ∃ other, requests.load t (.lending request) = some other ∧ MatchLending decision other := by
  simp only [requests, ConcurrentEdits.load, Option.map_eq_some_iff] at loaded ⊢
  obtain ⟨lending, decided, rfl⟩ := loaded
  cases request with
  | rent sessionUser id now =>
      obtain ⟨rent, located, rfl⟩ := Option.map_eq_some_iff.mp decided
      obtain ⟨rfl, rfl, present, ⟨account, rfl, granted, row⟩, otherType, rented⟩ :=
        RentController.load_decides.mp (Loaded.decision_eq_some.mp located)
      obtain ⟨item, there, lends⟩ := same.find present
      refine ⟨_, ⟨.rent { rent with item }, ?_, rfl⟩, .rent lends⟩
      refine Option.map_eq_some_iff.mpr ⟨{ rent with item }, Loaded.decision_eq_some.mpr ?_, rfl⟩
      refine RentController.load_decides.mpr ⟨rfl, rfl, there, ⟨account, rfl, granted, ?_⟩, ?_, ?_⟩
      · rw [← same.findUser]
        exact row
      · rw [← same.types, ← lends.2]
        exact otherType
      · rw [← same.findStatus]
        exact rented
  | delete reservation =>
      obtain ⟨ret, located, rfl⟩ := Option.map_eq_some_iff.mp decided
      obtain ⟨rfl, found, present, aval⟩ :=
        ReservationController.load_decides.mp (Loaded.decision_eq_some.mp located)
      obtain ⟨item, there, lends⟩ := same.find present
      refine ⟨_, ⟨.delete { ret with item }, ?_, rfl⟩, .delete lends⟩
      refine Option.map_eq_some_iff.mpr ⟨{ ret with item }, Loaded.decision_eq_some.mpr ?_, rfl⟩
      refine ReservationController.load_decides.mpr ⟨rfl, ?_, there, ?_⟩
      · rw [← same.reservation]
        exact found
      · rw [← same.findStatus]
        exact aval

/-- A status that both rows were loaded with is changed in both or in neither. -/
theorem items_changeItemStatus {s t : Store}
    (items : ∀ id, Option.Rel Lends (s.inventory.find id) (t.inventory.find id)) (id : Id)
    {loaded other : Inventory} (lends : Lends loaded other) (status other_id : Id) :
    Option.Rel Lends ((s.changeItemStatus id loaded status).inventory.find other_id)
      ((t.changeItemStatus id other status).inventory.find other_id) := by
  rw [Tables.changeItemStatus_find, Tables.changeItemStatus_find, lends.1]
  have here := items other_id
  split
  · generalize s.inventory.find other_id = mine at here ⊢
    generalize t.inventory.find other_id = theirs at here ⊢
    cases here with
    | some lends => exact .some ⟨rfl, lends.2⟩
    | none => exact .none
  · exact here

/-- Stores that come from stores with the same users and statuses. -/
theorem SameLending.after {s t u v : Store} (same : SameLending s t)
    (stock : s.SameStock u.toTables) (stockToo : t.SameStock v.toTables)
    (reservation : u.reservation = v.reservation)
    (items : ∀ id, Option.Rel Lends (u.inventory.find id) (v.inventory.find id)) :
    SameLending u v where
  reservation
  status := stock.status.trans (same.status.trans stockToo.status.symm)
  user := stock.user.trans (same.user.trans stockToo.user.symm)
  items

theorem SameLending.flush {s t : Store} {decision other : Decision} (same : SameLending s t)
    (knows : Knows s decision) (knowsToo : Knows t other) (matched : MatchLending decision other) :
    SameLending (requests.flush s decision) (requests.flush t other) := by
  rw [flush_eq, flush_eq]
  cases matched with
  | @rent rent item lends =>
      show SameLending (s.committed (RentController.write rent))
        (t.committed (RentController.write { rent with item }))
      have valid := knows.rent_valid
      have validToo := knowsToo.rent_valid
      have reserved : t.Reserved rent.itemid ↔ s.Reserved rent.itemid := by
        rw [Tables.Reserved, Tables.Reserved, same.reservation]
      by_cases taken : s.Reserved rent.itemid
      · rw [Store.committed_of_invalid fun applied => valid.mp applied taken,
          Store.committed_of_invalid fun applied => validToo.mp applied (reserved.mpr taken)]
        exact same
      · have after := Store.committed_of_valid (valid.mpr taken)
        have afterToo := Store.committed_of_valid
          (validToo.mpr fun takenToo => taken (reserved.mp takenToo))
        apply same.after
        case stock => exact after ▸ RentController.sameStock_write rent s.toTables
        case stockToo => exact afterToo ▸ RentController.sameStock_write _ t.toTables
        case reservation =>
          rw [after, afterToo, RentController.write_reservation, RentController.write_reservation,
            same.reservation]
        case items =>
          intro id
          rw [after, afterToo]
          exact items_changeItemStatus same.items rent.itemid lends rent.rent_status id
  | @delete ret item lends =>
      show SameLending (s.committed (ReservationController.write ret))
        (t.committed (ReservationController.write { ret with item }))
      have after := Store.committed_of_valid knows.delete_valid
      have afterToo := Store.committed_of_valid knowsToo.delete_valid
      apply same.after
      case stock => exact after ▸ ReservationController.sameStock_write ret s.toTables
      case stockToo => exact afterToo ▸ ReservationController.sameStock_write _ t.toTables
      case reservation =>
        rw [after, afterToo, ReservationController.write_reservation,
          ReservationController.write_reservation, same.reservation]
      case items =>
        intro id
        rw [after, afterToo]
        exact items_changeItemStatus same.items ret.itemid lends ret.status id

/-- An edit that leaves status and type as loaded is not seen. -/
theorem SameLending.quiet {s t : Store} {decision : Decision} (same : SameLending s t)
    (keeps : decision.KeepsLent) : SameLending (requests.flush s decision) t := by
  cases decision with
  | lending decision => exact keeps.elim
  | edit id loaded set =>
      rw [flush_eq]
      rcases s.committed_cases (write (.edit id loaded set)) with ⟨-, after⟩ | ⟨-, kept⟩
      · have lends : ∀ now, Lends (loaded.changed set now) now := by
          intro now
          simp only [Lends, Inventory.changed, keeps.1, keeps.2, changed_self, and_self]
        constructor
        case reservation => exact (congrArg Tables.reservation after).trans same.reservation
        case status => exact (congrArg Tables.status after).trans same.status
        case user => exact (congrArg Tables.user after).trans same.user
        case items =>
          intro other
          have items := same.items other
          rw [after, write, Tables.changeInventory_find]
          split
          · generalize s.inventory.find other = mine at items ⊢
            generalize t.inventory.find other = theirs at items ⊢
            cases items with
            | @some now found same =>
                exact .some ⟨(lends now).1.trans same.1, (lends now).2.trans same.2⟩
            | none => exact .none
          · exact items
      · rw [kept]
        exact same

theorem erases_edits :
    TwoPhase.Erases requests SameLending MatchLending Knows Request.IsLending Decision.KeepsLent
      where
  loaded _ _ _ decided := knows_of_load decided
  stable _ flushed _ _ knows := knows.flush flushed
  loads s t request same lending := by
    cases request with
    | edit => exact lending.elim
    | lending request =>
        cases mine : requests.load s (.lending request) with
        | some decision =>
            obtain ⟨other, theirs, matched⟩ := same.load mine
            rw [theirs]
            exact .some matched
        | none =>
            cases theirs : requests.load t (.lending request) with
            | none => exact .none
            | some decision =>
                obtain ⟨other, found, -⟩ := same.symm.load theirs
                rw [mine] at found
                cases found
  flushes _ _ _ _ same knows knowsToo matched := same.flush knows knowsToo matched
  quiet _ _ _ same _ keeps := same.quiet keeps

/-- In every interleaving of loads and flushes, edits that leave status and type as they
    loaded them can be left out: the reservations are the same without them, and so are
    status and type of every item. -/
theorem edits_unseen {s : Store} {hidden : Nat → Bool} {events : List (TwoPhase.Event Request)}
    (apart : ∀ move ∈ Run.steps requests.step (State.quiet s) events,
      TwoPhase.Apart requests hidden Request.IsLending Decision.KeepsLent move.1 move.2) :
    SameLending (Run.final requests.step (State.quiet s) events).store
      (Run.final requests.step (State.quiet s) (TwoPhase.visible hidden events)).store := by
  have refl : SameLending s s := by
    refine ⟨rfl, rfl, rfl, fun id => ?_⟩
    cases s.inventory.find id with
    | none => exact .none
    | some item => exact .some ⟨rfl, rfl⟩
  exact erases_edits.final refl apart

/-- An edit of the first gown's description is loaded, Bob rents the gown, and the edit is
    flushed after. -/
def sampleEvents : List (TwoPhase.Event Request) :=
  [.load 0 (.edit .post [("inventory", ⟨true, [("itemDescription", .text "a mended gown"),
      ("itemStatus", .choice 1), ("itemType", .choice 1), ("itemColor", .choice 1),
      ("itemSchool", .choice 1), ("itemMajor", .choice 1)]⟩)] 1),
    .load 1 (.lending (.rent (some .sampleUser) 1 0)), .flush 1, .flush 0]

theorem edits_unseen_sample :
    (∀ move ∈ Run.steps requests.step (State.quiet Store.sample) sampleEvents,
      TwoPhase.Apart requests (· = 0) Request.IsLending Decision.KeepsLent move.1 move.2) ∧
      SameLending (Run.final requests.step (State.quiet Store.sample) sampleEvents).store
        (Run.final requests.step (State.quiet Store.sample)
          (TwoPhase.visible (· = 0) sampleEvents)).store := by
  have apart : ∀ move ∈ Run.steps requests.step (State.quiet Store.sample) sampleEvents,
      TwoPhase.Apart requests (· = 0) Request.IsLending Decision.KeepsLent move.1 move.2 := by decide
  exact ⟨apart, edits_unseen apart⟩

/-- All columns but the status are the same. -/
def Describes (item other : Inventory) : Prop := other = item.setItemStatus other.itemStatus

/-- Edits find the same in both stores. -/
structure SameDescriptions (s t : Store) : Prop where
  choices : SameChoices s.toTables t.toTables
  items : ∀ id, Option.Rel Describes (s.inventory.find id) (t.inventory.find id)

/-- The decisions differ in the status that was loaded. -/
inductive MatchEdit : Decision → Decision → Prop where
  | edit {id : Id} {loaded other set : Inventory} (describes : Describes loaded other) :
      MatchEdit (.edit id loaded set) (.edit id other set)

def Request.IsEdit : Request → Prop
  | .edit .. => True
  | .lending _ => False

instance : DecidablePred Request.IsEdit
  | .edit .. => .isTrue trivial
  | .lending _ => .isFalse id

def Decision.IsLending : Decision → Prop
  | .lending _ => True
  | .edit .. => False

instance : DecidablePred Decision.IsLending
  | .lending _ => .isTrue trivial
  | .edit .. => .isFalse id

theorem SameChoices.edited {t u : Tables} (same : SameChoices t u) (method : Method)
    (payload : Payload) {item other : Inventory} (describes : Describes item other) :
    InventoryController.edited u method payload other =
      InventoryController.edited t method payload item := by
  have read : ∀ submission, InventoryForm.read u submission = InventoryForm.read t submission := by
    intro submission
    simp only [InventoryForm.read, RequestForm.read, same.status, same.itemType, same.color,
      same.school, same.major, same.user]
  have form : InventoryType u = InventoryType t := by
    unfold InventoryType InventoryForm.isValid
    simp only [read]
  have nulls : ∀ submission, (InventoryForm.read u submission).setsNull other =
      (InventoryForm.read t submission).setsNull item := by
    intro submission
    rw [read, describes]
    rfl
  unfold InventoryController.edited
  simp only [form, nulls]

theorem SameDescriptions.load {s t : Store} (same : SameDescriptions s t) (method : Method)
    (payload : Payload) (id : Id) :
    Option.Rel MatchEdit (requests.load s (.edit method payload id))
      (requests.load t (.edit method payload id)) := by
  simp only [requests, ConcurrentEdits.load]
  have items := same.items id
  generalize s.inventory.find id = mine at items ⊢
  generalize t.inventory.find id = theirs at items ⊢
  cases items with
  | none => exact .none
  | @some item other describes =>
      simp only [Option.bind_some]
      rw [same.choices.edited method payload describes]
      cases InventoryController.edited s.toTables method payload item with
      | none => exact .none
      | some set => exact .some (.edit describes)

/-- The columns but the status are changed in the same way. -/
theorem Describes.changed {loaded other now there : Inventory} (describes : Describes loaded other)
    (describesNow : Describes now there) (set : Inventory) :
    Describes (loaded.changed set now) (other.changed set there) := by
  rw [describes, describesNow]
  rfl

theorem SameDescriptions.flush {s t : Store} {decision other : Decision}
    (same : SameDescriptions s t) (knows : Knows s decision) (knowsToo : Knows t other)
    (matched : MatchEdit decision other) :
    SameDescriptions (requests.flush s decision) (requests.flush t other) := by
  have choices : SameChoices (requests.flush s decision).toTables (requests.flush t other).toTables :=
    ((SameChoices.flush s decision).symm.trans same.choices).trans (.flush t other)
  refine ⟨choices, fun key => ?_⟩
  rw [flush_eq, flush_eq]
  cases matched with
  | @edit id loaded other set describes =>
      have after : (s.committed (write (.edit id loaded set))).toTables = _ :=
        Store.committed_of_valid knows.edit_valid
      have afterToo : (t.committed (write (.edit id other set))).toTables = _ :=
        Store.committed_of_valid knowsToo.edit_valid
      have items := same.items key
      rw [after, afterToo, write, write, Tables.changeInventory_find, Tables.changeInventory_find]
      split
      · generalize s.inventory.find key = mine at items ⊢
        generalize t.inventory.find key = theirs at items ⊢
        cases items with
        | some describesNow => exact .some (describes.changed describesNow set)
        | none => exact .none
      · exact items

theorem describes_changeItemStatus {t : Tables} {there : Option Inventory} {key : Id}
    (items : Option.Rel Describes (t.inventory.find key) there) (id : Id) (loaded : Inventory)
    (status : Id) :
    Option.Rel Describes ((t.changeItemStatus id loaded status).inventory.find key) there := by
  rw [Tables.changeItemStatus_find]
  split
  · generalize t.inventory.find key = mine at items ⊢
    cases items with
    | some describes => exact .some describes
    | none => exact .none
  · exact items

/-- No rent and no return is seen by an edit. -/
theorem SameDescriptions.quiet {s t : Store} {decision : Decision} (same : SameDescriptions s t)
    (lending : decision.IsLending) : SameDescriptions (requests.flush s decision) t := by
  refine ⟨(SameChoices.flush s decision).symm.trans same.choices, fun key => ?_⟩
  rw [flush_eq]
  rcases s.committed_cases (write decision) with ⟨-, after⟩ | ⟨-, kept⟩
  · rw [after]
    cases decision with
    | edit => exact lending.elim
    | lending decision =>
        cases decision with
        | rent rent => exact describes_changeItemStatus (same.items key) _ _ _
        | delete ret => exact describes_changeItemStatus (same.items key) _ _ _
  · rw [kept]
    exact same.items key

theorem erases_lending :
    TwoPhase.Erases requests SameDescriptions MatchEdit Knows Request.IsEdit Decision.IsLending where
  loaded _ _ _ decided := knows_of_load decided
  stable _ flushed _ _ knows := knows.flush flushed
  loads s t request same edits := by
    cases request with
    | lending => exact edits.elim
    | edit method payload id => exact same.load method payload id
  flushes _ _ _ _ same knows knowsToo matched := same.flush knows knowsToo matched
  quiet _ _ _ same _ lending := same.quiet lending

/-- In every interleaving of loads and flushes, rents and returns can be left out as far as
    edits go: every column but the status is the same without them. -/
theorem lending_unseen {s : Store} {hidden : Nat → Bool} {events : List (TwoPhase.Event Request)}
    (apart : ∀ move ∈ Run.steps requests.step (State.quiet s) events,
      TwoPhase.Apart requests hidden Request.IsEdit Decision.IsLending move.1 move.2) :
    SameDescriptions (Run.final requests.step (State.quiet s) events).store
      (Run.final requests.step (State.quiet s) (TwoPhase.visible hidden events)).store := by
  have refl : SameDescriptions s s := by
    refine ⟨⟨rfl, rfl, rfl, rfl, rfl, rfl, fun _ => rfl⟩, fun id => ?_⟩
    cases s.inventory.find id with
    | none => exact .none
    | some item => exact .some rfl
  exact erases_lending.final refl apart

theorem lending_unseen_sample :
    (∀ move ∈ Run.steps requests.step (State.quiet Store.sample) sampleEvents,
      TwoPhase.Apart requests (· = 1) Request.IsEdit Decision.IsLending move.1 move.2) ∧
      SameDescriptions (Run.final requests.step (State.quiet Store.sample) sampleEvents).store
        (Run.final requests.step (State.quiet Store.sample)
          (TwoPhase.visible (· = 1) sampleEvents)).store := by
  have apart : ∀ move ∈ Run.steps requests.step (State.quiet Store.sample) sampleEvents,
      TwoPhase.Apart requests (· = 1) Request.IsEdit Decision.IsLending move.1 move.2 := by decide
  exact ⟨apart, lending_unseen apart⟩

end WuRegalia.ConcurrentEdits
