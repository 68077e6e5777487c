import WuRegalia.Routing
import WuRegalia.Security.AccessControl

/-! # The pages that only read

`DefaultController`, `LoginController`, `AccountPageController` and
`ReportsController`.
-/

namespace WuRegalia

namespace DefaultController

/-- The rows of the homepage: the items whose status is `AVAL`. -/
def listed (t : Tables) : Option (List (Id × Inventory)) :=
  (t.findStatus "AVAL").map t.findByItemStatus

def indexAction (s : Store) : Outcome :=
  match listed s.toTables with
  | none => .raise s .nullDereference
  | some inventories =>
      .answer s (.render "default/index.html.twig" (.itemsWithMessage inventories none))

/-- `$inventory->getItemType() == $filter`: the type's name against the string. -/
def hasType (rt : Runtime) (t : Tables) (filter : String) (item : Inventory) : Bool :=
  (t.itemType.find item.itemType).any (fun itemType => rt.looseEquals itemType.name filter)

def filterAction (rt : Runtime) (filter : String) (s : Store) : Outcome :=
  match listed s.toTables with
  | none => .raise s .nullDereference
  | some inventories =>
      let returnItems := inventories.filter (fun row => hasType rt s.toTables filter row.2)
      .answer s (.render "default/index.html.twig" (.itemsWithMessage returnItems none))

def downloadFileActionUser (s : Store) : Outcome := .answer s (.download "files/user-guide.pdf")

def downloadFileActionAdmin (s : Store) : Outcome := .answer s (.download "files/admin-guide.pdf")

end DefaultController

/-- `LoginController::loginAction`, the page shown when a login is asked for. -/
def LoginController.loginAction (s : Store) : Outcome :=
  match DefaultController.listed s.toTables with
  | none => .raise s .nullDereference
  | some inventories =>
      .answer s (.render "default/index.html.twig"
        (.itemsWithMessage inventories (some "Must be signed in!")))

def AccountPageController.indexAction (sessionUser : Option SessionUser) (s : Store) : Outcome :=
  match sessionUser with
  | none => .raise s .accessDenied
  | some sessionUser =>
      if isGranted .IS_AUTHENTICATED_FULLY sessionUser.roles then
        match s.findUser sessionUser.username with
        | none => .raise s .nullDereference
        | some (userid, _) =>
            .answer s (.render "account/index.html.twig" (.reservations (s.getReservations userid)))
      else .raise s .accessDenied

namespace ReportsController

def indexAction (s : Store) : Outcome := .answer s (.render "reports/index.html.twig" .nothing)

def showUsers (s : Store) : Outcome :=
  .answer s (.render "reports/users.html.twig" (.users s.user.findAll))

def showAdmins (s : Store) : Outcome :=
  .answer s (.render "reports/users_admins.html.twig"
    (.users (s.user.findBy (fun user => user.adminpriv = 1))))

def showRegisteredUsers (s : Store) : Outcome :=
  .answer s (.render "reports/users_registered.html.twig"
    (.users (s.user.findBy (fun user => user.adminpriv = 0))))

def showUserRentalHistory (userID : Id) (s : Store) : Outcome :=
  .answer s (.render "reports/users.rentalHistory.html.twig"
    (.reservations (s.getReservations userID)))

/-- The names of the statuses the inventory reports are about. -/
def inventoryStatuses : List String := ["AVAL", "PENDING_DONATION", "RENTED", "PENDING_ARRIVAL"]

/-- The keys of the statuses with one of the names. -/
def itemStatusIDs (t : Tables) : List Id :=
  (t.status.findBy (fun status => status.name ∈ inventoryStatuses)).map Prod.fst

def showInventory (s : Store) : Outcome :=
  .answer s (.render "reports/inventory.html.twig"
    (.items (s.inventory.findBy (fun item => item.itemStatus ∈ itemStatusIDs s.toTables))))

/-- The items of one status; the four reports differ in its name and in their
    template. -/
def showByStatus (name template : String) (s : Store) : Outcome :=
  match s.findStatus name with
  | none => .raise s .nullDereference
  | some status => .answer s (.render template (.items (s.findByItemStatus status)))

def showAvailibleInventory (s : Store) : Outcome :=
  showByStatus "AVAL" "reports/inventory_availible.html.twig" s

def showRentedInventory (s : Store) : Outcome :=
  showByStatus "RENTED" "reports/inventory_rented.html.twig" s

def showDonationInventory (s : Store) : Outcome :=
  showByStatus "PENDING_DONATION" "reports/inventory_donations.html.twig" s

def showSpecialRequests (s : Store) : Outcome :=
  showByStatus "PENDING_SPECIAL" "reports/specialRequests.html.twig" s

def showPendingArrivals (s : Store) : Outcome :=
  showByStatus "PENDING_ARRIVAL" "reports/inventory_pendingArrivals.html.twig" s

def showUserDonationHistory (userID : Id) (s : Store) : Outcome :=
  .answer s (.render "reports/users.donationHistory.html.twig"
    (.items (s.inventory.findBy
      (fun item => item.user = some userID && item.itemStatus ∈ itemStatusIDs s.toTables))))

def showRentalHistory (s : Store) : Outcome :=
  .answer s (.render "reports/rentalHistory.html.twig" (.reservations s.reservation.findAll))

end ReportsController

end WuRegalia
