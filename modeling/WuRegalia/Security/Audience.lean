import Mathlib.Data.List.Find
import WuRegalia.Controller.Pages
import WuRegalia.Controller.Rent

/-! # Who reaches which page

For every route, whom its page is for, and whom the access rules and the checks
in the actions let through to it. The rules are prefixes of the path, and the
text each route starts with settles them, whatever its parameters are.
-/

namespace WuRegalia

open PathPattern

inductive Audience where
  | everyone
  | users
  | administrators
  deriving DecidableEq, Repr

/-- Management and reports are for administrators, a user's own pages for users.
    The administrators' manual and the logout are left open. -/
def audience : Action → Option Audience
  | .account => some .users
  | .homepage | .filter | .downloadUser | .login => some .everyone
  | .downloadAdmin | .logout => none
  | .rentShow | .rentItem | .requestIndex _ => some .users
  | .inventory _ | .user _ | .named _ _ => some .administrators
  | .reportsIndex | .report _ => some .administrators
  | .reservationIndex | .reservationNew | .reservationNotify | .reservationEdit
  | .reservationDelete => some .administrators
  | .requestAdmin _ | .requestAccept _ | .requestReject _ => some .administrators

/-- The check in the action itself. -/
def checkedInAction : Action → List Role → Bool
  | .account, roles | .rentItem, roles => isGranted .IS_AUTHENTICATED_FULLY roles
  | _, _ => true

/-- The account page refuses a request exactly at its check. -/
theorem account_denied {sessionUser : Option SessionUser} {s : Store} :
    (AccountPageController.indexAction sessionUser s).result = .error .accessDenied ↔
      checkedInAction .account (rolesOf sessionUser) = false := by
  unfold AccountPageController.indexAction checkedInAction rolesOf
  cases sessionUser with
  | none => simp [Outcome.raise, isGranted]
  | some account =>
      simp only
      split
      · split <;> simp_all [Outcome.raise, Outcome.answer]
      · simp_all [Outcome.raise]

theorem load_denied {sessionUser : Option SessionUser} {id : Id} (now : DateTime) {t : Tables} :
    RentController.load sessionUser id now t = .ends (.error .accessDenied) ↔
      (t.inventory.find id).isSome ∧ checkedInAction .rentItem (rolesOf sessionUser) = false := by
  unfold RentController.load
  cases t.inventory.find id with
  | none => simp
  | some item =>
      cases sessionUser with
      | none => simp [checkedInAction, rolesOf, isGranted]
      | some account =>
          cases granted : isGranted .IS_AUTHENTICATED_FULLY account.roles with
          | false => simp [checkedInAction, rolesOf, granted]
          | true =>
              -- past the check, the action ends in some other way
              simp only [checkedInAction, rolesOf, granted, if_true, Bool.true_eq_false, and_false,
                iff_false]
              split
              · simp
              · split
                · split <;> simp
                · split <;> simp

/-- A rent is refused at its check, once its item has been found. -/
theorem rentItem_denied {rt : Runtime} {sessionUser : Option SessionUser} {id : Id} {now : DateTime}
    {s : Store} :
    (RentController.rentAction rt sessionUser id now s).result = .error .accessDenied ↔
      (s.inventory.find id).isSome ∧ checkedInAction .rentItem (rolesOf sessionUser) = false := by
  rw [← load_denied now]
  unfold RentController.rentAction Store.proceed
  cases RentController.load sessionUser id now s.toTables with
  | ends result => simp
  | decides rent =>
      simp only [reduceCtorEq, iff_false, Store.transact]
      split
      · unfold RentController.finish sendMail
        split
        · simp
        · split <;> simp
      · simp [Outcome.raise]

/-- The rules and the action let a request with these roles through. -/
def Reaches (host path : String) (action : Action) (roles : List Role) : Prop :=
  accessGranted host path roles = true ∧ checkedInAction action roles = true

instance (host path : String) (action : Action) (roles : List Role) :
    Decidable (Reaches host path action roles) :=
  inferInstanceAs (Decidable (_ ∧ _))

/-- The roles of a session, with those the hierarchy adds. -/
structure RoleSet where
  roles : List Role
  closed : .ROLE_ADMIN ∈ roles → .ROLE_USER ∈ roles

/-- The audience of the action and nobody else reaches it. -/
def RightlyReached (host path : String) (action : Action) (session : RoleSet) : Prop :=
  match audience action with
  | some .administrators => Reaches host path action session.roles ↔ .ROLE_ADMIN ∈ session.roles
  | some .users => Reaches host path action session.roles ↔ .ROLE_USER ∈ session.roles
  | some .everyone => Reaches host path action session.roles
  | none => True

/-- What the rules demand for an action, off `localhost`. -/
def demanded : Action → Option Attribute
  | .account | .downloadAdmin | .inventory _ | .user _ | .named _ _ | .reportsIndex
  | .reservationIndex | .reservationNew | .reservationNotify | .reservationEdit
  | .reservationDelete | .requestAdmin _ | .requestAccept _ | .requestReject _ =>
      some (.role .ROLE_ADMIN)
  | .rentShow | .rentItem | .requestIndex _ => some (.role .ROLE_USER)
  | .homepage | .filter | .downloadUser | .login | .logout | .report _ => none

/-- The rules that do not look at the host. -/
def pathRules : List AccessRule := accessControl.filter (fun rule => rule.host.isNone)

theorem accessControl_hosts : ∀ rule ∈ accessControl,
    rule.host = none ∨ rule.host = some "localhost".toList := by
  decide

theorem requiredAttribute_eq {host path : List Char} (elsewhere : ¬ "localhost".toList <:+ host) :
    requiredAttribute host path =
      (pathRules.find? (fun rule => rule.path <+: path)).map AccessRule.roles := by
  rw [requiredAttribute, pathRules, List.find?_filter]
  congr 1
  apply List.find?_congr
  intro rule listed
  cases accessControl_hosts rule listed with
  | inl anywhere => simp [AccessRule.applies, anywhere]
  | inr there =>
      have differs : decide ("localhost".toList <:+ host) = false := decide_eq_false elsewhere
      simp only [AccessRule.applies, there, Option.all_some, differs, Bool.and_false,
        Option.isNone_some, Bool.false_eq_true, false_and, decide_false]

theorem routes_settled : ∀ route ∈ routes, ∀ rule ∈ pathRules, Settles route.pattern rule.path := by
  decide

theorem routes_demanded : ∀ route ∈ routes,
    (pathRules.find? (fun rule => rule.path <+: leading route.pattern)).map AccessRule.roles =
      demanded route.action := by
  decide

/-- Off `localhost`, what is demanded for a path depends on its route alone. -/
theorem requiredAttribute_of_match {method : Method} {host path : String} {route : Route}
    {args : List (List Char)} (elsewhere : ¬ IsLocalhost host)
    (fits : matchRoute method path = some (route, args)) :
    requiredAttribute host.toList path.toList = demanded route.action := by
  obtain ⟨declared, captured⟩ := matchRoute_some fits
  rw [requiredAttribute_eq elsewhere, ← routes_demanded route declared]
  congr 1
  apply List.find?_congr
  intro rule listed
  rw [decide_eq_decide]
  exact isPrefix_of_capture captured (routes_settled route declared rule listed)

/-- Whether a session meets what is demanded for an action. -/
def Meets (action : Action) (roles : List Role) : Prop :=
  match demanded action with
  | some (.role role) => role ∈ reachableRoles roles
  | some .IS_AUTHENTICATED_FULLY => roles ≠ []
  | some .IS_AUTHENTICATED_ANONYMOUSLY | none => True

theorem accessGranted_iff {method : Method} {host path : String} {route : Route}
    {args : List (List Char)} (elsewhere : ¬ IsLocalhost host)
    (fits : matchRoute method path = some (route, args)) (roles : List Role) :
    accessGranted host path roles = true ↔ Meets route.action roles := by
  unfold accessGranted Meets
  rw [requiredAttribute_of_match elsewhere fits]
  cases demanded route.action with
  | none => simp
  | some required => cases required <;> simp [isGranted]

/-- A session that holds a role is fully authenticated. -/
theorem fully_of_mem {role : Role} {roles : List Role} (holds : role ∈ roles) :
    isGranted .IS_AUTHENTICATED_FULLY roles = true := by
  simpa [isGranted] using List.ne_nil_of_mem holds

/-- The pages that are reached by others than their audience: a report without
    `ROLE_ADMIN`, since `/reports` is no protected prefix; and the account page,
    under `/admin`, which a user who is no administrator is kept from. -/
def Misplaced (action : Action) (roles : List Role) : Prop :=
  match action with
  | .report _ => .ROLE_ADMIN ∉ roles
  | .account => .ROLE_USER ∈ roles ∧ .ROLE_ADMIN ∉ roles
  | _ => False

/-- Off `localhost`, a page is reached by its audience and nobody else exactly
    when it is not one of the misplaced ones. -/
theorem rightlyReached_iff {method : Method} {host path : String} {route : Route}
    {args : List (List Char)} (elsewhere : ¬ IsLocalhost host)
    (fits : matchRoute method path = some (route, args)) (session : RoleSet) :
    RightlyReached host path route.action session ↔ ¬ Misplaced route.action session.roles := by
  have granted := accessGranted_iff elsewhere fits session.roles
  have closed := session.closed
  unfold RightlyReached Misplaced Reaches
  rw [granted]
  generalize route.action = action
  cases action with
  | account =>
      have fully : .ROLE_ADMIN ∈ session.roles → isGranted .IS_AUTHENTICATED_FULLY session.roles = true :=
        fully_of_mem
      simp only [audience, Meets, demanded, checkedInAction, mem_reachableRoles_admin]
      tauto
  | rentItem =>
      have fully : .ROLE_USER ∈ session.roles → isGranted .IS_AUTHENTICATED_FULLY session.roles = true :=
        fully_of_mem
      simp only [audience, Meets, demanded, checkedInAction, mem_reachableRoles_user]
      tauto
  | rentShow | requestIndex =>
      simp only [audience, Meets, demanded, checkedInAction, mem_reachableRoles_user]
      tauto
  | report =>
      simp only [audience, Meets, demanded, checkedInAction]
      tauto
  | homepage | filter | downloadUser | login | downloadAdmin | logout =>
      simp [audience, Meets, demanded, checkedInAction]
  | inventory | user | named | reportsIndex | reservationIndex | reservationNew
  | reservationNotify | reservationEdit | reservationDelete | requestAdmin | requestAccept
  | requestReject =>
      simp [audience, Meets, demanded, checkedInAction]

theorem rightlyReached_account_of_admin :
    RightlyReached "closet.winthrop.edu" "/admin/account/" .account
      ⟨[.ROLE_USER, .ROLE_ADMIN], by decide⟩ := by
  have fits : matchRoute .get "/admin/account/" =
      some (⟨"account_index", [.get], [.text "/admin/account/".toList], .account⟩, []) := by rfl
  exact (rightlyReached_iff (by decide) fits _).mpr (by simp [Misplaced])

/-- Anybody gets the list of all users. -/
theorem report_reached_by_anyone : ¬ ∀ (method : Method) (host path : String) (route : Route)
    (args : List (List Char)) (session : RoleSet), ¬ IsLocalhost host →
      matchRoute method path = some (route, args) →
        RightlyReached host path route.action session := by
  intro claim
  have fits : matchRoute .get "/reports/users" =
      some (⟨"showUsers", [], [.text "/reports/users".toList], .report .showUsers⟩, []) := by rfl
  have right := claim .get "closet.winthrop.edu" "/reports/users" _ [] ⟨[], by decide⟩ (by decide)
    fits
  have reached : Reaches "closet.winthrop.edu" "/reports/users" (.report .showUsers) [] := by decide
  exact absurd (right.mp reached) (by decide)

end WuRegalia
