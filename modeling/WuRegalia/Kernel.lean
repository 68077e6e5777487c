import WuRegalia.Controller.Admin
import WuRegalia.Controller.Pages
import WuRegalia.Controller.Rent
import WuRegalia.Controller.Request
import WuRegalia.Controller.Reservation
import WuRegalia.Library.Run
import Mathlib.Logic.Function.Basic

/-! # The kernel

One request from its URL to its response: the router, the session user restored
by the firewall, login and logout, access control, and the action. The world is
the database, the live sessions and the mails sent so far.
-/

namespace WuRegalia

abbrev SessionId := Nat

structure World extends Closet where
  sessions : SessionId → Option SessionUser

/-- A request, with the time and the directory it meets. `host` is what `getHost`
    gives: without its port, in lower case. -/
structure Request where
  session : SessionId
  host : String
  method : Method
  path : String
  payload : Payload
  credentials : Credentials
  now : DateTime
  directory : Directory

namespace World

/-- Nobody is logged in. -/
def NoSession (w : World) : Prop := ∀ sid, w.sessions sid = none

def setSession (w : World) (sid : SessionId) (user : Option SessionUser) : World :=
  { w with sessions := Function.update w.sessions sid user }

def roles (w : World) (sid : SessionId) : List Role := rolesOf (w.sessions sid)

/-- The session is live and carries `ROLE_ADMIN`. -/
def HoldsAdmin (w : World) (sid : SessionId) : Prop := .ROLE_ADMIN ∈ w.roles sid

instance (w : World) (sid : SessionId) : Decidable (w.HoldsAdmin sid) :=
  inferInstanceAs (Decidable (_ ∈ _))

end World

/-- The first parameter of the URL, as a key and as text. A parameter left to its
    default is 0. -/
def idOf (rt : Runtime) (args : List (List Char)) : Id := (args.head?.map rt.keyOf).getD 0

def textOf (args : List (List Char)) : String := String.ofList (args.head?.getD [])

def dispatchReport (report : Report) (id : Id) (s : Store) : Outcome :=
  match report with
  | .showUsers => ReportsController.showUsers s
  | .showAdmins => ReportsController.showAdmins s
  | .showRegisteredUsers => ReportsController.showRegisteredUsers s
  | .showUserRentalHistory => ReportsController.showUserRentalHistory id s
  | .showInventory => ReportsController.showInventory s
  | .showAvailibleInventory => ReportsController.showAvailibleInventory s
  | .showRentedInventory => ReportsController.showRentedInventory s
  | .showDonationInventory => ReportsController.showDonationInventory s
  | .showUserDonationHistory => ReportsController.showUserDonationHistory id s
  | .showSpecialRequests => ReportsController.showSpecialRequests s
  | .showPendingArrivals => ReportsController.showPendingArrivals s
  | .showRentalHistory => ReportsController.showRentalHistory s

/-- Call the action of a route. -/
def dispatch (rt : Runtime) (action : Action) (args : List (List Char)) (req : Request)
    (sessionUser : Option SessionUser) (s : Store) : Outcome :=
  let method := req.method
  let payload := req.payload
  let id := idOf rt args
  match action with
  | .account => AccountPageController.indexAction sessionUser s
  | .homepage => DefaultController.indexAction s
  | .filter => DefaultController.filterAction rt (textOf args) s
  | .downloadUser => DefaultController.downloadFileActionUser s
  | .downloadAdmin => DefaultController.downloadFileActionAdmin s
  | .inventory .index => InventoryController.indexAction s
  | .inventory .new => InventoryController.newAction method payload s
  | .inventory .show => InventoryController.showAction id s
  | .inventory .edit => InventoryController.editAction method payload id s
  | .inventory .delete => InventoryController.deleteAction method payload id s
  | .login => LoginController.loginAction s
  | .rentShow => RentController.showAction sessionUser s
  | .rentItem => RentController.rentAction rt sessionUser id req.now s
  | .reportsIndex => ReportsController.indexAction s
  | .report report => dispatchReport report id s
  | .reservationIndex => ReservationController.indexAction s
  | .reservationNew => ReservationController.newAction method payload s
  | .reservationNotify => ReservationController.notifyAction rt s
  | .reservationEdit => ReservationController.editAction method payload id s
  | .reservationDelete => ReservationController.deleteAction id s
  | .user .index => UserController.indexAction s
  | .user .new => UserController.newAction method payload s
  | .user .show => UserController.showAction id s
  | .user .edit => UserController.editAction method payload id s
  | .user .delete => UserController.deleteAction method payload id s
  | .named kind .index => NamedController.indexAction kind s
  | .named kind .new => NamedController.newAction kind method payload s
  | .named kind .show => NamedController.showAction kind id s
  | .named kind .edit => NamedController.editAction kind method payload id s
  | .named kind .delete => NamedController.deleteAction kind method payload id s
  | .requestIndex kind => RequestController.indexAction kind rt sessionUser method payload s
  | .requestAdmin kind => RequestController.adminAction kind s
  | .requestAccept kind => RequestController.adminChangeStatusAction kind rt sessionUser id s
  | .requestReject kind =>
      RequestController.adminRejectSpecialRequestAction kind rt sessionUser id s
  -- the firewall answers this path itself
  | .logout => .answer s (.redirect "homepage" none)

/-- Exceptions the firewall takes as a failed login; others end the request. -/
def isAuthenticationException : Exception → Bool
  | .usernameNotFound _ | .badCredentials _ | .invalidCsrfToken => true
  | _ => false

/-- The login listener: a failed login also ends the session it came from. -/
def login (req : Request) (w : World) : World × Except Exception Response :=
  match attemptAuthentication req.directory w.store req.now req.credentials with
  | (u, .ok user) =>
      ({ w with store := u }.setSession req.session (some user), .ok (.redirect "homepage" none))
  | (u, .error e) =>
      if isAuthenticationException e then
        ({ w with store := u }.setSession req.session none, .ok (.redirect "login" none))
      else ({ w with store := u }, .error e)

/-- The firewall restores the session user. -/
def refresh (sid : SessionId) (w : World) : World :=
  w.setSession sid ((w.sessions sid).map LdapSessionUserProvider.refreshUser)

@[simp] theorem refresh_eq (sid : SessionId) (w : World) : refresh sid w = w := by
  have same : (w.sessions sid).map LdapSessionUserProvider.refreshUser = w.sessions sid := by
    cases w.sessions sid <;> rfl
  simp [refresh, same, World.setSession]

/-- Where a request ends up before any action runs. -/
inductive Passage where
  | noRoute
  | logout
  | login
  | denied
  | action (action : Action) (args : List (List Char))
  deriving DecidableEq

def passage (req : Request) (roles : List Role) : Passage :=
  match matchRoute req.method req.path with
  | none => .noRoute
  | some (route, args) =>
      if route.action = .logout then .logout
      else if route.action = .login ∧ req.method = .post then .login
      else if accessGranted req.host req.path roles then .action route.action args
      else .denied

def handle (rt : Runtime) (req : Request) (w : World) : World × Except Exception Response :=
  let w := refresh req.session w
  match passage req (w.roles req.session) with
  | .noRoute => (w, .error .notFound)
  | .logout => (w.setSession req.session none, .ok (.redirect "homepage" none))
  | .login => login req w
  | .denied => (w, .error .accessDenied)
  | .action action args =>
      let o := dispatch rt action args req (w.sessions req.session) w.store
      ({ w with toCloset := w.toCloset.after o }, o.result)

/-- The world after a request. -/
def World.step (rt : Runtime) (w : World) (req : Request) : World := (handle rt req w).1

/-- The sample store with nobody signed in. -/
def World.sample : World := ⟨⟨.sample, []⟩, fun _ => none⟩

/-- The directory entries of the sample users, and one password for all. -/
def Directory.sample : Directory where
  reachable := true
  find query :=
    if query = "(sAMAccountName=smitha)" then [⟨some "Smith, Ann", some "smitha@winthrop.edu"⟩]
    else [⟨some "Jones, Bob", some "jonesb@winthrop.edu"⟩]
  bind _ password := password = "secret"

/-- A request without a body. -/
def Request.visit (session : SessionId) (method : Method) (path : String) : Request where
  session
  host := "closet.winthrop.edu"
  method
  path
  payload := []
  credentials := ⟨"", "", false⟩
  now := 0
  directory := .sample

def Request.post (session : SessionId) (path : String) (payload : Payload) : Request :=
  { Request.visit session .post path with payload }

def Request.signIn (session : SessionId) (username : String) : Request :=
  { Request.visit session .post "/login" with credentials := ⟨username, "secret", true⟩ }

end WuRegalia
