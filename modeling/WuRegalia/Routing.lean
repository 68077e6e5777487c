import WuRegalia.Form
import WuRegalia.Outcome
import WuRegalia.Library.PathPattern

/-! # Routes

The routes the controllers declare, in the order the annotation loader collects
them (controllers by file name, actions as they stand in the file), and the one
of `routing.yml` after them. The first route whose pattern and methods fit the
request is taken.
-/

namespace WuRegalia

open PathPattern

/-- The actions of a generated controller. -/
inductive Crud where
  | index | new | show | edit | delete
  deriving DecidableEq, Repr

/-- The entities whose only column is a name. -/
inductive NamedKind where
  | status | itemType | color | school | major
  deriving DecidableEq, Repr

/-- The two kinds of request a user can submit. -/
inductive RequestKind where
  | donation | special
  deriving DecidableEq, Repr

/-- The reports under `/reports`. -/
inductive Report where
  | showUsers | showAdmins | showRegisteredUsers | showUserRentalHistory
  | showInventory | showAvailibleInventory | showRentedInventory | showDonationInventory
  | showUserDonationHistory | showSpecialRequests | showPendingArrivals | showRentalHistory
  deriving DecidableEq, Repr

inductive Action where
  | account
  | homepage | filter | downloadUser | downloadAdmin
  | inventory (crud : Crud)
  | login
  | rentShow | rentItem
  | reportsIndex
  | report (report : Report)
  | reservationIndex | reservationNew | reservationNotify | reservationEdit | reservationDelete
  | user (crud : Crud)
  | named (kind : NamedKind) (crud : Crud)
  | requestIndex (kind : RequestKind)
  | requestAdmin (kind : RequestKind)
  | requestAccept (kind : RequestKind)
  | requestReject (kind : RequestKind)
  | logout
  deriving DecidableEq, Repr

structure Route where
  name : String
  /-- Empty when every method is allowed. -/
  methods : List Method
  pattern : List Piece
  action : Action
  deriving DecidableEq

private def text (s : String) : Piece := .text s.toList

/-- The five routes of a generated controller. -/
def crudRoutes (base name : String) (action : Crud → Action) : List Route :=
  [⟨name ++ "_index", [.get], [text (base ++ "/")], action .index⟩,
    ⟨name ++ "_new", [.get, .post], [text (base ++ "/new")], action .new⟩,
    ⟨name ++ "_show", [.get], [text (base ++ "/"), .param], action .show⟩,
    ⟨name ++ "_edit", [.get, .post], [text (base ++ "/"), .param, text "/edit"], action .edit⟩,
    ⟨name ++ "_delete", [.delete], [text (base ++ "/"), .param], action .delete⟩]

def defaultRoutes : List Route :=
  [⟨"homepage", [], [text "/"], .homepage⟩,
    ⟨"inventory_filter", [.get], [text "/filter/", .param], .filter⟩,
    ⟨"user-download", [], [text "/userdownload"], .downloadUser⟩,
    ⟨"admin-download", [], [text "/admindownload"], .downloadAdmin⟩]

def rentRoutes : List Route :=
  [⟨"rent", [.get], [text "/rent/admin"], .rentShow⟩,
    ⟨"rent_item", [.get], [text "/rent/", .param], .rentItem⟩]

def reportsRoutes : List Route :=
  [⟨"reports", [], [text "/admin/reports"], .reportsIndex⟩,
    ⟨"showUsers", [], [text "/reports/users"], .report .showUsers⟩,
    ⟨"showAdmins", [], [text "/reports/admins"], .report .showAdmins⟩,
    ⟨"showRegisteredUsers", [], [text "/reports/registeredUsers"], .report .showRegisteredUsers⟩,
    ⟨"showUserRentalHistory", [], [text "/reports/users/rentalHistory", .defaultParam],
      .report .showUserRentalHistory⟩,
    ⟨"showInventory", [], [text "/reports/inventory"], .report .showInventory⟩,
    ⟨"showAvailibleInventory", [], [text "/reports/inventory/availible"],
      .report .showAvailibleInventory⟩,
    ⟨"showRentedInventory", [], [text "/reports/inventory/rented"], .report .showRentedInventory⟩,
    ⟨"showDonationInventory", [], [text "/reports/inventory/donations"],
      .report .showDonationInventory⟩,
    ⟨"showUserDonationHistory", [], [text "/reports/users/donationHistory", .defaultParam],
      .report .showUserDonationHistory⟩,
    ⟨"showSpecialRequests", [], [text "/reports/specialRequests"], .report .showSpecialRequests⟩,
    ⟨"showPendingArrivals", [], [text "/reports/inventory/pendingArrivals"],
      .report .showPendingArrivals⟩,
    ⟨"showRentalHistory", [], [text "/reports/rentalHistory"], .report .showRentalHistory⟩]

def reservationRoutes : List Route :=
  [⟨"reservation_index", [.get], [text "/admin/res/"], .reservationIndex⟩,
    ⟨"reservation_new", [.get, .post], [text "/admin/res/new"], .reservationNew⟩,
    ⟨"reservation_notify", [], [text "/admin/res/notify"], .reservationNotify⟩,
    ⟨"reservation_edit", [.get, .post], [text "/admin/res/", .param, text "/edit"],
      .reservationEdit⟩,
    ⟨"reservation_delete", [], [text "/admin/res/", .param], .reservationDelete⟩]

def donationRequestRoutes : List Route :=
  [⟨"donationRequest", [], [text "/donation_request"], .requestIndex .donation⟩,
    ⟨"adminDonationRequest", [], [text "/admin/donation_request"], .requestAdmin .donation⟩,
    ⟨"acceptDonationRequest", [], [text "/admin/donation_request/status/", .param],
      .requestAccept .donation⟩,
    ⟨"rejectDonationRequest", [], [text "/admin/donation_request/reject/", .param],
      .requestReject .donation⟩]

def specialRequestRoutes : List Route :=
  [⟨"specialRequest", [], [text "/special_request"], .requestIndex .special⟩,
    ⟨"adminSpecialRequest", [], [text "/admin/special_request"], .requestAdmin .special⟩,
    ⟨"acceptSpecialRequest", [], [text "/admin/special_request/status/", .param],
      .requestAccept .special⟩,
    ⟨"rejectSpecialRequest", [], [text "/admin/special_request/reject/", .param],
      .requestReject .special⟩]

def routes : List Route :=
  [⟨"account_index", [.get], [text "/admin/account/"], .account⟩] ++
  crudRoutes "/admin/color" "color" (.named .color) ++
  defaultRoutes ++
  crudRoutes "/admin/inv" "inventory" .inventory ++
  crudRoutes "/admin/itemtype" "itemtype" (.named .itemType) ++
  [⟨"login", [], [text "/login"], .login⟩] ++
  crudRoutes "/admin/major" "major" (.named .major) ++
  rentRoutes ++
  reportsRoutes ++
  reservationRoutes ++
  crudRoutes "/admin/school" "school" (.named .school) ++
  crudRoutes "/admin/status" "status" (.named .status) ++
  crudRoutes "/admin/user" "user" .user ++
  donationRequestRoutes ++
  specialRequestRoutes ++
  [⟨"logout", [], [text "/logout"], .logout⟩]

/-- `HEAD` is matched as `GET`. -/
def Route.allows (route : Route) (method : Method) : Bool :=
  route.methods.isEmpty || (if method = .head then .get else method) ∈ route.methods

/-- The first fitting route of a list, with the values of its parameters. -/
def firstFitting (method : Method) (path : List Char) :
    List Route → Option (Route × List (List Char))
  | [] => none
  | route :: rest =>
      match capture route.pattern path with
      | some args =>
          if route.allows method then some (route, args) else firstFitting method path rest
      | none => firstFitting method path rest

/-- The router on the decoded path. -/
def matchRoute (method : Method) (path : String) : Option (Route × List (List Char)) :=
  firstFitting method path.toList routes

theorem firstFitting_some {method : Method} {path : List Char} {list : List Route} {route : Route}
    {args : List (List Char)} (fits : firstFitting method path list = some (route, args)) :
    route ∈ list ∧ capture route.pattern path = some args := by
  induction list with
  | nil => cases fits
  | cons head rest ih =>
      simp only [firstFitting] at fits
      split at fits
      · rename_i captured located
        split at fits
        · obtain ⟨rfl, rfl⟩ := Prod.mk.inj (Option.some.inj fits)
          exact ⟨List.mem_cons_self, located⟩
        · exact ⟨List.mem_cons_of_mem _ (ih fits).1, (ih fits).2⟩
      · exact ⟨List.mem_cons_of_mem _ (ih fits).1, (ih fits).2⟩

theorem matchRoute_some {method : Method} {path : String} {route : Route}
    {args : List (List Char)} (fits : matchRoute method path = some (route, args)) :
    route ∈ routes ∧ capture route.pattern path.toList = some args :=
  firstFitting_some fits

example : (matchRoute .get "/admin/res/12").map (fun fit => (fit.1.action, fit.2)) =
    some (.reservationDelete, ["12".toList]) := by decide

/-- `redirectToRoute`; a name no controller declares has no URL. -/
def redirectToRoute (name : String) (id : Option Id) : Except Exception Response :=
  if name ∈ routes.map Route.name then .ok (.redirect name id)
  else .error (.routeNotFound name)

end WuRegalia
