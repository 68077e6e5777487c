import WuRegalia.Lending.Agreement

/-! # How a rent ends

A rent is refused by its own test, rejected by the database, or carried out with
its confirmation, and in each case everything else is as it was. What can come
between is the confirmation: it is addressed after the flush, and an address that
the mailer refuses leaves the rental there and the renter untold.
-/

namespace WuRegalia.RentController

/-- A rent as it is asked for: the rows of the user and the item, and the time. -/
structure Asked where
  userid : Id
  user : User
  itemid : Id
  item : Inventory
  now : DateTime
  deriving DecidableEq, Repr

namespace Asked

/-- What was asked for was read from the database, by somebody fully authenticated. -/
structure ReadBy (asked : Asked) (account : SessionUser) (t : Tables) : Prop where
  granted : isGranted .IS_AUTHENTICATED_FULLY account.roles = true
  user : t.findUser account.username = some (asked.userid, asked.user)
  item : t.inventory.find asked.itemid = some asked.item

variable (asked : Asked)

/-- What the rent decides to write. -/
def rent (rented : Id) : Rent :=
  ⟨asked.userid, asked.user, asked.itemid, asked.item, rented, asked.now⟩

/-- The user already holds a reservation on an item of the type. -/
def HoldsType (t : Tables) : Prop :=
  ∃ id reservation other, t.reservation.find id = some reservation ∧
    reservation.userid = asked.userid ∧ t.inventory.find reservation.item = some other ∧
    other.itemType = asked.item.itemType

/-- The refusal page, nothing written, nothing sent. -/
structure Refused (s : Store) (o : Outcome) : Prop where
  holds : asked.HoldsType s.toTables
  page : ∃ aval itemType, s.findStatus "AVAL" = some aval ∧
    s.itemType.find asked.item.itemType = some itemType ∧
    o.result = .ok (.render "rent/index.html.twig"
      (.itemsWithMessage (s.findByItemStatus aval) (some (refusal itemType.name))))
  store : o.store = s
  mail : o.mail = []

/-- Somebody else has the item; nothing written, nothing sent. -/
structure Rejected (s : Store) (o : Outcome) : Prop where
  otherType : ¬ asked.HoldsType s.toTables
  reserved : ∃ id reservation, s.reservation.find id = some reservation ∧
    reservation.item = asked.itemid ∧ reservation.userid ≠ asked.userid
  result : o.result = .error .constraintViolation
  store : o.store = s
  mail : o.mail = []

/-- One reservation more, the item rented and one confirmation sent; every other row
    is as it was. -/
structure Rented (s : Store) (o : Outcome) : Prop where
  otherType : ¬ asked.HoldsType s.toTables
  free : ¬ s.Reserved asked.itemid
  result : ∃ response, o.result = .ok response
  reservation : o.store.reservation.rows = s.reservation.rows ++
    [(s.reservation.nextId,
      { userid := asked.userid, item := asked.itemid, createDate := asked.now
        dueDate := asked.now.addDays 14, approved := false })]
  item : ∃ rented, s.findStatus "RENTED" = some rented ∧
    o.store.inventory.find asked.itemid = some { asked.item with itemStatus := rented }
  items : ∀ other, other ≠ asked.itemid → o.store.inventory.find other = s.inventory.find other
  named : ∀ kind, NamedController.get o.store.toTables kind = NamedController.get s.toTables kind
  users : o.store.user = s.user
  mail : ∃ confirmation, o.mail = [confirmation] ∧ confirmation.recipient = asked.user.email ∧
    ∃ admin, confirmation.body =
      .rentUserConfirm asked.itemid asked.userid (asked.now.addDays 14) admin

/-- Exactly one of the three. -/
def AllOrNothing (s : Store) (o : Outcome) : Prop :=
  (asked.Refused s o ∧ ¬ asked.Rejected s o ∧ ¬ asked.Rented s o) ∨
    (¬ asked.Refused s o ∧ asked.Rejected s o ∧ ¬ asked.Rented s o) ∨
    (¬ asked.Refused s o ∧ ¬ asked.Rejected s o ∧ asked.Rented s o)

theorem holdsType_iff {t : Tables} :
    asked.HoldsType t ↔ asked.item.itemType ∈ types t asked.userid := by
  simp only [HoldsType, mem_types, Option.map_eq_some_iff, exists_and_left]

end Asked

section Outcomes

variable (rt : Runtime) {account : SessionUser} {s : Store} {asked : Asked}

theorem refused_of_holdsType (read : asked.ReadBy account s.toTables)
    (holds : asked.HoldsType s.toTables) (aval : s.findStatus "AVAL" ≠ none) :
    asked.Refused s (rentAction rt (some account) asked.itemid asked.now s) := by
  obtain ⟨status, found⟩ := Option.ne_none_iff_exists'.mp aval
  obtain ⟨itemType, type⟩ := s.valid.inventoryType.target read.item rfl
  have same := asked.holdsType_iff.mp holds
  have ends : load (some account) asked.itemid asked.now s.toTables =
      .ends (.ok (.render "rent/index.html.twig"
        (.itemsWithMessage (s.findByItemStatus status) (some (refusal itemType.name))))) := by
    simp [load, read.item, read.granted, read.user, same, found, type]
  unfold rentAction
  rw [ends]
  exact
    { holds
      page := ⟨status, itemType, found, type, rfl⟩
      store := rfl
      mail := rfl }

/-- Past its own test, the rent has decided what to write. -/
theorem load_of_otherType (read : asked.ReadBy account s.toTables)
    (otherType : ¬ asked.HoldsType s.toTables) {rented : Id}
    (found : s.findStatus "RENTED" = some rented) :
    load (some account) asked.itemid asked.now s.toTables =
      .decides (asked.rent rented) :=
  load_decides.mpr ⟨rfl, rfl, read.item, ⟨account, rfl, read.granted, read.user⟩,
    fun same => otherType (asked.holdsType_iff.mpr same), found⟩

theorem rejected_of_reserved (read : asked.ReadBy account s.toTables)
    (otherType : ¬ asked.HoldsType s.toTables) (rented : s.findStatus "RENTED" ≠ none)
    (reserved : s.Reserved asked.itemid) :
    asked.Rejected s (rentAction rt (some account) asked.itemid asked.now s) := by
  obtain ⟨status, found⟩ := Option.ne_none_iff_exists'.mp rented
  have decides := load_of_otherType read otherType found
  have known := known_of_load decides
  have fails : rentAction rt (some account) asked.itemid asked.now s =
      .raise s .constraintViolation := by
    unfold rentAction
    rw [decides]
    apply Store.transact_of_invalid
    exact fun applied => (known.write_valid s.valid).mp applied reserved
  obtain ⟨id, reservation, there, same⟩ := reserved
  have other : reservation.userid ≠ asked.userid := fun own =>
    otherType ⟨id, reservation, asked.item, there, own, same ▸ read.item, rfl⟩
  rw [fails]
  exact
    { otherType
      reserved := ⟨id, reservation, there, same, other⟩
      result := rfl
      store := rfl
      mail := rfl }

/-- Of a free item, the rental is written whatever becomes of its confirmation. -/
theorem rentAction_of_free (read : asked.ReadBy account s.toTables)
    (otherType : ¬ asked.HoldsType s.toTables) {rented : Id}
    (found : s.findStatus "RENTED" = some rented) (free : ¬ s.Reserved asked.itemid) :
    ∃ u : Store, u.toTables = write (asked.rent rented) s.toTables ∧
      rentAction rt (some account) asked.itemid asked.now s =
        ⟨u, (finish rt (asked.rent rented)).1, (finish rt (asked.rent rented)).2⟩ := by
  have decides := load_of_otherType read otherType found
  have known := known_of_load decides
  obtain ⟨u, after, outcome⟩ := Store.transact_of_valid ((known.write_valid s.valid).mpr free)
    (fun _ => finish rt (asked.rent rented))
  refine ⟨u, after, ?_⟩
  unfold rentAction
  rw [decides]
  exact outcome

variable {rt}

theorem rented_of_confirms (read : asked.ReadBy account s.toTables)
    (otherType : ¬ asked.HoldsType s.toTables) (rented : s.findStatus "RENTED" ≠ none)
    (free : ¬ s.Reserved asked.itemid) (confirms : Confirms rt asked.user) :
    asked.Rented s (rentAction rt (some account) asked.itemid asked.now s) := by
  obtain ⟨status, found⟩ := Option.ne_none_iff_exists'.mp rented
  obtain ⟨u, after, outcome⟩ := rentAction_of_free rt read otherType found free
  have sent : Confirms rt (asked.rent status).user := confirms
  obtain ⟨admin, -, finished⟩ := finish_of_confirms sent
  rw [outcome, finished]
  constructor
  case otherType => exact otherType
  case free => exact free
  case result => exact ⟨_, rfl⟩
  case reservation =>
    simp only [after, write_reservation]
    rfl
  case item =>
    refine ⟨status, found, ?_⟩
    have changed := s.changeItemStatus_find_of_present asked.itemid asked.item status read.item
    rw [after]
    exact (changed asked.itemid).trans (if_pos rfl)
  case items =>
    intro other apart
    simp only [after, write_find]
    rw [if_neg fun here => apart here.1]
  case named =>
    intro kind
    simp only [after, write_get]
  case users =>
    simp only [after]
    exact (sameStock_write _ _).user
  case mail => exact ⟨_, rfl, rfl, admin, rfl⟩

theorem not_rented_of_refuses (read : asked.ReadBy account s.toTables)
    (otherType : ¬ asked.HoldsType s.toTables) (rented : s.findStatus "RENTED" ≠ none)
    (free : ¬ s.Reserved asked.itemid) (refuses : ¬ Confirms rt asked.user) :
    ¬ asked.Rented s (rentAction rt (some account) asked.itemid asked.now s) := by
  obtain ⟨status, found⟩ := Option.ne_none_iff_exists'.mp rented
  obtain ⟨u, -, outcome⟩ := rentAction_of_free rt read otherType found free
  have unsent : ¬ Confirms rt (asked.rent status).user := refuses
  obtain ⟨e, finished⟩ := finish_of_not_confirms unsent
  intro carriedOut
  obtain ⟨response, impossible⟩ := carriedOut.result
  rw [outcome, finished] at impossible
  cases impossible

/-- A rent ends in exactly one of the three ways, exactly when it is refused, or
    rejected, or the mailer takes the user's address. -/
theorem rentAction_allOrNothing (read : asked.ReadBy account s.toTables)
    (appAdmin : rt.appAdmin.isSome) (aval : s.findStatus "AVAL" ≠ none)
    (rented : s.findStatus "RENTED" ≠ none) :
    asked.AllOrNothing s (rentAction rt (some account) asked.itemid asked.now s) ↔
      asked.HoldsType s.toTables ∨ s.Reserved asked.itemid ∨
        rt.acceptsAddress asked.user.email = true := by
  by_cases holds : asked.HoldsType s.toTables
  · have refused := refused_of_holdsType rt read holds aval
    exact iff_of_true (.inl ⟨refused, fun other => other.otherType holds,
      fun other => other.otherType holds⟩) (.inl holds)
  · rw [or_iff_right holds]
    by_cases reserved : s.Reserved asked.itemid
    · have rejected := rejected_of_reserved rt read holds rented reserved
      exact iff_of_true (.inr (.inl ⟨fun other => holds other.holds, rejected,
        fun other => other.free reserved⟩)) (.inl reserved)
    · rw [or_iff_right reserved]
      have notRefused : ∀ o, ¬ asked.Refused s o := fun o other => holds other.holds
      have notRejected : ∀ o, ¬ asked.Rejected s o := by
        intro o other
        obtain ⟨id, reservation, found, same, -⟩ := other.reserved
        exact reserved ⟨id, reservation, found, same⟩
      constructor
      · intro ends
        by_contra refuses
        have notRented := not_rented_of_refuses read holds rented reserved
          fun confirms => refuses confirms.2
        rcases ends with ⟨refused, -, -⟩ | ⟨-, rejected, -⟩ | ⟨-, -, carriedOut⟩
        · exact notRefused _ refused
        · exact notRejected _ rejected
        · exact notRented carriedOut
      · intro accepts
        exact .inr (.inr ⟨notRefused _, notRejected _,
          rented_of_confirms read holds rented reserved ⟨appAdmin, accepts⟩⟩)

end Outcomes

/-- Bob asks for the first gown. -/
def Asked.sample : Asked where
  userid := 2
  user := ⟨"Bob", "Jones", "jonesb@winthrop.edu", "jonesb", 0, 0⟩
  itemid := 1
  item := ⟨1, 1, 1, 1, 1, "a gown", none, none⟩
  now := 0

theorem rentAction_allOrNothing_sample :
    Asked.sample.AllOrNothing .sample (rentAction .sample (some .sampleUser) 1 0 .sample) :=
  have read : Asked.sample.ReadBy .sampleUser Store.sample.toTables :=
    ⟨by decide, by decide, by decide⟩
  (rentAction_allOrNothing read (by decide) (by decide) (by decide)).mpr (.inr (.inr rfl))

/-- Bob's row has his name for an address, as an administrator may write it. -/
def misaddressed : Store :=
  { Store.sample with
    user := .ofList
      [⟨"Ann", "Smith", "smitha@winthrop.edu", "smitha", 0, 1⟩,
        ⟨"Bob", "Jones", "jonesb", "jonesb", 0, 0⟩]
    valid := by decide }

/-- The rental is committed, and then there is no sending the confirmation. -/
theorem rented_without_confirmation : ¬ ∀ (rt : Runtime) (s : Store) (account : SessionUser)
    (asked : Asked), asked.ReadBy account s.toTables → rt.appAdmin.isSome → s.Agree →
    s.findStatus "AVAL" ≠ none → s.findStatus "RENTED" ≠ none →
    s.statusName asked.item = some "AVAL" ∨ s.statusName asked.item = some "RENTED" →
      asked.AllOrNothing s (rentAction rt (some account) asked.itemid asked.now s) := by
  intro claim
  let rt : Runtime := { Runtime.sample with acceptsAddress := fun address => '@' ∈ address.toList }
  let asked : Asked := { Asked.sample with user := ⟨"Bob", "Jones", "jonesb", "jonesb", 0, 0⟩ }
  have ends := claim rt misaddressed .sampleUser asked ⟨by decide, by decide, by decide⟩
    (by decide) (by decide) (by decide) (by decide) (by decide)
  have fails : (rentAction rt (some .sampleUser) 1 0 misaddressed).result =
      .error (.rfcCompliance "jonesb") := by
    rfl
  rcases ends with ⟨refused, -, -⟩ | ⟨-, rejected, -⟩ | ⟨-, -, carriedOut⟩
  · obtain ⟨aval, itemType, -, -, impossible⟩ := refused.page
    exact absurd (fails.symm.trans impossible) (by simp)
  · exact absurd (fails.symm.trans rejected.result) (by simp)
  · obtain ⟨response, impossible⟩ := carriedOut.result
    exact absurd (fails.symm.trans impossible) (by simp)

end WuRegalia.RentController
