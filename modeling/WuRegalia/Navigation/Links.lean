import WuRegalia.Navigation.Urls
import WuRegalia.Security.Audience

/-! # The links of a page

The templates with their anchors and delete forms, the menu and the footer of the layout
they all extend, and where a redirect goes. A form that is posted back to its own page is
no link.
-/

namespace WuRegalia

/-- Where a link leads: a route with the value of its parameter, or a path that is
    written out. -/
inductive Target where
  | route (name : String) (value : Option (List Char))
  | path (path : String)
  deriving DecidableEq, Repr

structure Link where
  method : Method
  target : Target
  deriving DecidableEq, Repr

def Link.page (name : String) : Link := ⟨.get, .route name none⟩

def Link.logout : Link := ⟨.get, .path "/logout"⟩

def Link.url (link : Link) : Option String :=
  match link.target with
  | .route name value => generate name value
  | .path path => some path

/-- A link as it stands in a template; in the loop over the rows it is there once for
    each. -/
inductive Anchor where
  | fixed (link : Link)
  | each (method : Method) (route : String)
  deriving DecidableEq, Repr

def Anchor.links (ids : List Id) : Anchor → List Link
  | .fixed link => [link]
  | .each method route => ids.map fun id => ⟨method, .route route (some (digits id))⟩

/-- What base.html.twig shows to administrators only. -/
def adminLinks : List Link :=
  [.page "adminDonationRequest", .page "adminSpecialRequest", .page "reservation_index",
    .page "user_index", .page "reports", .page "admin-download"]

/-- What it shows to everybody else. -/
def otherLinks : List Link := [.page "homepage", .page "specialRequest", .page "donationRequest"]

/-- What it shows to a user who is logged in, and the login form it shows otherwise. -/
def accountLinks : Option SessionUser → List Link
  | some _ => [.page "account_index", .logout]
  | none => [⟨.post, .path "/login"⟩]

/-- The menu and the footer of base.html.twig. -/
def layoutLinks (sessionUser : Option SessionUser) : List Link :=
  .page "user-download" :: accountLinks sessionUser ++
    if isGranted (.role .ROLE_ADMIN) (rolesOf sessionUser) then adminLinks else otherLinks

/-- A template and the links in its body. -/
structure Template where
  name : String
  anchors : List Anchor
  deriving DecidableEq, Repr

/-- The four templates of a generated controller. -/
def crudTemplates (slug : String) : List Template :=
  let index := .fixed (.page (slug ++ "_index"))
  let delete := .each .delete (slug ++ "_delete")
  [⟨slug ++ "/index.html.twig", [.each .get (slug ++ "_show"), .each .get (slug ++ "_edit"),
      .fixed (.page (slug ++ "_new"))]⟩,
    ⟨slug ++ "/new.html.twig", [index]⟩,
    ⟨slug ++ "/show.html.twig", [index, .each .get (slug ++ "_edit"), delete]⟩,
    ⟨slug ++ "/edit.html.twig", [index, delete]⟩]

/-- The report menu, admin_base.html.twig. -/
def reportMenu : List Anchor :=
  ["showUsers", "showAdmins", "showRegisteredUsers", "showInventory", "showAvailibleInventory",
    "showRentedInventory", "showDonationInventory", "showSpecialRequests", "showRentalHistory",
    "showPendingArrivals"].map fun name => .fixed (.page name)

def reportTemplates : List Template :=
  ["reports/index.html.twig", "reports/inventory.html.twig",
    "reports/inventory_availible.html.twig", "reports/inventory_donations.html.twig",
    "reports/inventory_pendingArrivals.html.twig", "reports/inventory_rented.html.twig",
    "reports/rentalHistory.html.twig", "reports/specialRequests.html.twig",
    "reports/users.donationHistory.html.twig", "reports/users.rentalHistory.html.twig"].map
      (fun name => ⟨name, reportMenu⟩) ++
  ["reports/users.html.twig", "reports/users_admins.html.twig",
    "reports/users_registered.html.twig"].map
      fun name => ⟨name, reportMenu ++
        [.each .get "showUserRentalHistory", .each .get "showUserDonationHistory"]⟩

def filterLink (type : String) : Anchor :=
  .fixed ⟨.get, .route "inventory_filter" (some type.toList)⟩

def templates : List Template :=
  [⟨"default/index.html.twig",
      [filterLink "Gown", filterLink "Cap", filterLink "Hood", .each .get "rent_item"]⟩,
    ⟨"account/index.html.twig", [.fixed .logout]⟩,
    ⟨"rent/index.html.twig", [.each .get "rent_item"]⟩,
    ⟨"rent/rent.html.twig", []⟩,
    ⟨"reservation/index.html.twig", [.each .get "reservation_delete",
      .each .get "reservation_edit", .fixed (.page "reservation_notify")]⟩,
    ⟨"reservation/new.html.twig", [.fixed (.page "reservation_index")]⟩,
    ⟨"reservation/edit.html.twig",
      [.fixed (.page "reservation_index"), .each .delete "reservation_delete"]⟩,
    ⟨"donationRequest/new.html.twig", []⟩,
    ⟨"donationRequest/success.html.twig", []⟩,
    ⟨"donationRequest/admin.html.twig",
      [.each .get "acceptDonationRequest", .each .get "rejectDonationRequest"]⟩,
    ⟨"specialRequest/new.html.twig", []⟩,
    ⟨"specialRequest/success.html.twig", []⟩,
    ⟨"specialRequest/admin.html.twig",
      [.each .get "acceptSpecialRequest", .each .get "rejectSpecialRequest"]⟩] ++
  crudTemplates "color" ++ crudTemplates "inventory" ++ crudTemplates "itemtype" ++
  crudTemplates "major" ++ crudTemplates "school" ++ crudTemplates "status" ++
  crudTemplates "user" ++ reportTemplates

/-- The keys of the rows a page shows. -/
def PageData.ids : PageData → List Id
  | .nothing => []
  | .items rows | .itemsWithMessage rows _ => rows.map Prod.fst
  | .reservations rows => rows.map Prod.fst
  | .users rows => rows.map Prod.fst
  | .named rows => rows.map Prod.fst
  | .item id _ | .reservation id _ | .user id _ | .namedOne id _ => [id]

def anchorsOf (template : String) : List Anchor :=
  ((templates.find? (fun page => page.name = template)).map Template.anchors).getD []

/-- What a browser can go on to from a response. -/
def Response.links (sessionUser : Option SessionUser) : Response → List Link
  | .render template data =>
      layoutLinks sessionUser ++ (anchorsOf template).flatMap (Anchor.links data.ids)
  | .redirect route id => [⟨.get, .route route (id.map digits)⟩]
  | .download _ => []

/-- What a key is a key of. -/
inductive Entity where
  | inventory | reservation | user
  | named (kind : NamedKind)
  deriving DecidableEq, Repr

/-- There is a row under the key. -/
def Entity.Holds (t : Tables) (id : Id) : Entity → Prop
  | .inventory => ∃ row, t.inventory.find id = some row
  | .reservation => ∃ row, t.reservation.find id = some row
  | .user => ∃ row, t.user.find id = some row
  | .named kind => ∃ row, (NamedController.get t kind).find id = some row

namespace Action

/-- What an action looks up under the key in its URL. -/
def subject : Action → Option Entity
  | .inventory .show | .inventory .edit | .inventory .delete => some .inventory
  | .user .show | .user .edit | .user .delete => some .user
  | .named kind .show | .named kind .edit | .named kind .delete => some (.named kind)
  | .reservationEdit | .reservationDelete => some .reservation
  | .rentItem | .requestAccept _ | .requestReject _ => some .inventory
  | _ => none

/-- What the rows on its pages are. -/
def rows : Action → Option Entity
  | .account => some .reservation
  | .homepage | .filter | .login | .rentShow | .rentItem => some .inventory
  | .inventory _ => some .inventory
  | .requestAdmin _ | .requestAccept _ | .requestReject _ => some .inventory
  | .user _ => some .user
  | .named kind _ => some (.named kind)
  | .reservationIndex | .reservationNew | .reservationEdit => some .reservation
  | .report .showUsers | .report .showAdmins | .report .showRegisteredUsers => some .user
  | .report .showUserRentalHistory | .report .showRentalHistory => some .reservation
  | .report _ => some .inventory
  | _ => none

/-- The page of a generated controller. -/
def crudPage (slug : String) : Crud → List String
  | .index => [slug ++ "/index.html.twig"]
  | .new => [slug ++ "/new.html.twig"]
  | .show => [slug ++ "/show.html.twig"]
  | .edit => [slug ++ "/edit.html.twig"]
  | .delete => []

/-- The templates an action renders. -/
def pages : Action → List String
  | .account => ["account/index.html.twig"]
  | .homepage | .filter | .login => ["default/index.html.twig"]
  | .rentShow => ["rent/index.html.twig"]
  | .rentItem => ["rent/index.html.twig", "rent/rent.html.twig"]
  | .reportsIndex => ["reports/index.html.twig"]
  | .report .showUsers => ["reports/users.html.twig"]
  | .report .showAdmins => ["reports/users_admins.html.twig"]
  | .report .showRegisteredUsers => ["reports/users_registered.html.twig"]
  | .report .showUserRentalHistory => ["reports/users.rentalHistory.html.twig"]
  | .report .showInventory => ["reports/inventory.html.twig"]
  | .report .showAvailibleInventory => ["reports/inventory_availible.html.twig"]
  | .report .showRentedInventory => ["reports/inventory_rented.html.twig"]
  | .report .showDonationInventory => ["reports/inventory_donations.html.twig"]
  | .report .showUserDonationHistory => ["reports/users.donationHistory.html.twig"]
  | .report .showSpecialRequests => ["reports/specialRequests.html.twig"]
  | .report .showPendingArrivals => ["reports/inventory_pendingArrivals.html.twig"]
  | .report .showRentalHistory => ["reports/rentalHistory.html.twig"]
  | .reservationIndex => ["reservation/index.html.twig"]
  | .reservationNew => ["reservation/new.html.twig"]
  | .reservationEdit => ["reservation/edit.html.twig"]
  | .inventory crud => crudPage "inventory" crud
  | .user crud => crudPage "user" crud
  | .named kind crud => crudPage (NamedController.slug kind) crud
  | .requestIndex kind =>
      [(RequestController.texts kind).newTemplate, (RequestController.texts kind).successTemplate]
  | .requestAdmin kind | .requestAccept kind | .requestReject kind =>
      [(RequestController.texts kind).adminTemplate]
  | .downloadUser | .downloadAdmin | .reservationNotify | .reservationDelete | .logout => []

/-- Where a generated controller goes on to, and whether with a key. -/
def crudSuccessor (slug : String) : Crud → List (String × Bool)
  | .new => [(slug ++ "_show", true)]
  | .edit => [(slug ++ "_edit", true)]
  | .delete => [(slug ++ "_index", false)]
  | .index | .show => []

/-- The routes an action redirects to, and whether with a key. The firewall answers a
    login and a logout. -/
def successors : Action → List (String × Bool)
  | .login => [("homepage", false), ("login", false)]
  | .logout => [("homepage", false)]
  | .reservationNotify | .reservationDelete => [("reservation_index", false)]
  | .reservationEdit => [("reservation_edit", true)]
  | .inventory crud => crudSuccessor "inventory" crud
  | .user crud => crudSuccessor "user" crud
  | .named kind crud => crudSuccessor (NamedController.slug kind) crud
  | _ => []

end Action

/-- The response is one of the action, and the rows it links to are there. -/
def Response.Faithful (action : Action) (t : Tables) : Response → Prop
  | .render template data =>
      template ∈ action.pages ∧ ∀ entity, action.rows = some entity →
        ∀ id ∈ data.ids, entity.Holds t id
  | .redirect route id =>
      (route, id.isSome) ∈ action.successors ∧ ∀ entity, action.rows = some entity →
        ∀ key, id = some key → entity.Holds t key
  | .download _ => True

/-- What is asked for is met. -/
def Granted (required : Option Attribute) (roles : List Role) : Prop :=
  match required with
  | some (.role role) => role ∈ reachableRoles roles
  | some .IS_AUTHENTICATED_FULLY => roles ≠ []
  | some .IS_AUTHENTICATED_ANONYMOUSLY | none => True

/-- The actions that are linked to from pages of sessions they refuse. -/
def Action.DeadEnd (roles : List Role) : Action → Prop
  | .account => .ROLE_ADMIN ∉ roles
  | .rentItem | .requestIndex _ => .ROLE_USER ∉ roles ∧ .ROLE_ADMIN ∉ roles
  | _ => False

/-- A session that has met what was asked for can go on to the action, or meets a known
    dead end. -/
def guarded (given : Option Attribute) : Action → Bool
  | .account | .rentItem | .requestIndex _ => true
  | action => demanded action = none || demanded action = given

def Link.sound (given : Option Attribute) (link : Link) : Bool :=
  match link.url.bind (matchRoute link.method) with
  | some (route, _) => route.action.subject = none && guarded given route.action
  | none => false

/-- The route a link of a row leads to. -/
def leadsTo (action : Action) (method : Method) (name : String) (route : Route) : Bool :=
  route.name = name && route.allows method && route.keyed &&
    (route.action.subject = none || route.action.subject = action.rows) &&
    guarded (demanded action) route.action

def Anchor.sound (action : Action) : Anchor → Bool
  | .fixed link => link.sound (demanded action)
  | .each method name => routes.any (leadsTo action method name)

theorem pages_sound : ∀ route ∈ routes, ∀ template ∈ route.action.pages,
    ∀ anchor ∈ anchorsOf template, anchor.sound route.action = true := by
  decide +kernel

theorem successors_sound : ∀ route ∈ routes, ∀ next ∈ route.action.successors,
    if next.2 then routes.any (leadsTo route.action .get next.1) = true
    else (Link.page next.1).sound (demanded route.action) = true := by
  decide +kernel

theorem adminLinks_sound : ∀ link ∈ adminLinks, link.sound (some (.role .ROLE_ADMIN)) = true := by
  decide +kernel

theorem openLinks_sound : ∀ link ∈ [.page "user-download", .page "account_index", .logout,
    ⟨.post, .path "/login"⟩] ++ otherLinks, link.sound none = true := by
  decide +kernel

/-- The layout shows what anybody can go on to, and to administrators what they can. -/
theorem layoutLinks_sound {sessionUser : Option SessionUser} {link : Link}
    (shown : link ∈ layoutLinks sessionUser) :
    ∃ given, link.sound given = true ∧ Granted given (rolesOf sessionUser) := by
  rw [layoutLinks, List.cons_append, List.mem_cons, List.mem_append] at shown
  rcases shown with rfl | account | menu
  · exact ⟨none, openLinks_sound _ (by decide), trivial⟩
  · refine ⟨none, openLinks_sound link ?_, trivial⟩
    refine List.mem_append_left _ (List.mem_cons_of_mem _ ?_)
    cases sessionUser with
    | none =>
        obtain rfl := List.mem_singleton.mp account
        decide
    | some user =>
        rw [accountLinks, List.mem_pair] at account
        rcases account with rfl | rfl <;> decide
  · split at menu
    · rename_i granted
      have holds : .ROLE_ADMIN ∈ reachableRoles (rolesOf sessionUser) := of_decide_eq_true granted
      exact ⟨_, adminLinks_sound link menu, holds⟩
    · exact ⟨none, openLinks_sound link (List.mem_append_right _ menu), trivial⟩

end WuRegalia
