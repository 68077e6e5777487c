import WuRegalia.Navigation.Endings

/-! # No link leads nowhere

A page shows keys of rows that are there and a redirect goes to a row that was written,
so that the next request of the session finds what it asks for. The links that lead a
session to a refusal are known.
-/

namespace WuRegalia

/-- A link and the action it leads to: its rows are there, and the session can go on to
    it or meets a known dead end. -/
structure Lands (rt : Runtime) (t : Tables) (roles : List Role) (link : Link) (path : String)
    (route : Route) (args : List (List Char)) : Prop where
  url : link.url = some path
  fits : matchRoute link.method path = some (route, args)
  found : Found rt route.action args t
  reached : ∃ given, guarded given route.action = true ∧ Granted given roles

theorem lands_of_sound {rt : Runtime} {given : Option Attribute} {link : Link} {roles : List Role}
    (sound : link.sound given = true) (granted : Granted given roles) (t : Tables) :
    ∃ path route args, Lands rt t roles link path route args := by
  unfold Link.sound at sound
  cases url : link.url with
  | none => simp [url] at sound
  | some path =>
      cases fits : matchRoute link.method path with
      | none => simp [url, fits] at sound
      | some fit =>
          obtain ⟨route, args⟩ := fit
          simp only [url, fits, Option.bind_some, Bool.and_eq_true, decide_eq_true_eq] at sound
          refine ⟨path, route, args, url, fits, fun entity subject => ?_, given, sound.2, granted⟩
          rw [sound.1] at subject
          cases subject

theorem lands_of_row {rt : Runtime} {action : Action} {method : Method} {name : String} {id : Id}
    {t : Tables} {roles : List Role} (leads : routes.any (leadsTo action method name) = true)
    (there : ∀ entity, action.rows = some entity → entity.Holds t id)
    (granted : Granted (demanded action) roles) :
    ∃ path route args,
      Lands rt t roles ⟨method, .route name (some (digits id))⟩ path route args := by
  obtain ⟨route, member, leads⟩ := List.any_eq_true.mp leads
  simp only [leadsTo, Bool.and_eq_true, Bool.or_eq_true, decide_eq_true_eq] at leads
  obtain ⟨⟨⟨⟨rfl, allows⟩, keyed⟩, subject⟩, guards⟩ := leads
  obtain ⟨path, args, url, fits, key⟩ := generate_keyed member keyed allows id
  refine ⟨path, route, args, url, fits, fun entity looked => ?_, _, guards, granted⟩
  rw [key rt]
  rcases subject with nothing | same
  · rw [nothing] at looked
    cases looked
  · exact there entity (same ▸ looked)

/-- Every link of a response of an action lands somewhere. -/
theorem link_lands (rt : Runtime) {route : Route} (declared : route ∈ routes)
    {response : Response} {t : Tables} {sessionUser : Option SessionUser} (faithful : response.Faithful route.action t)
    (granted : Granted (demanded route.action) (rolesOf sessionUser)) {link : Link}
    (shown : link ∈ response.links sessionUser) :
    ∃ path target args, Lands rt t (rolesOf sessionUser) link path target args := by
  cases response with
  | download file => cases shown
  | redirect name id =>
      obtain rfl := List.mem_singleton.mp shown
      obtain ⟨next, there⟩ := faithful
      have sound := successors_sound route declared _ next
      cases id with
      | none => exact lands_of_sound sound granted t
      | some key => exact lands_of_row sound (fun entity rows => there entity rows key rfl) granted
  | render template data =>
      obtain ⟨page, there⟩ := faithful
      rcases List.mem_append.mp shown with layout | body
      · obtain ⟨given, sound, allowed⟩ := layoutLinks_sound layout
        exact lands_of_sound sound allowed t
      · obtain ⟨anchor, stands, member⟩ := List.mem_flatMap.mp body
        have sound := pages_sound route declared template page anchor stands
        cases anchor with
        | fixed link =>
            obtain rfl := List.mem_singleton.mp member
            exact lands_of_sound sound granted t
        | each method name =>
            obtain ⟨id, listed, rfl⟩ := List.mem_map.mp member
            exact lands_of_row sound (fun entity rows => there entity rows id listed) granted

theorem deadEnd_iff {given : Option Attribute} {action : Action} {roles : List Role}
    (guards : guarded given action = true) (granted : Granted given roles) :
    action.DeadEnd roles ↔ ¬ (Meets action roles ∧ checkedInAction action roles = true) := by
  have meets : ∀ other, demanded other = none ∨ demanded other = given → Meets other roles := by
    intro other demands
    show Granted (demanded other) roles
    rcases demands with nothing | same
    · rw [nothing]
      trivial
    · rw [same]
      exact granted
  cases action with
  | account =>
      have fully : .ROLE_ADMIN ∈ roles → isGranted .IS_AUTHENTICATED_FULLY roles = true :=
        fully_of_mem
      simp only [Action.DeadEnd, Meets, demanded, checkedInAction, mem_reachableRoles_admin]
      tauto
  | rentItem =>
      have user : .ROLE_USER ∈ roles → isGranted .IS_AUTHENTICATED_FULLY roles = true :=
        fully_of_mem
      have admin : .ROLE_ADMIN ∈ roles → isGranted .IS_AUTHENTICATED_FULLY roles = true :=
        fully_of_mem
      simp only [Action.DeadEnd, Meets, demanded, checkedInAction, mem_reachableRoles_user]
      tauto
  | requestIndex =>
      simp only [Action.DeadEnd, Meets, demanded, checkedInAction, mem_reachableRoles_user]
      tauto
  | homepage | filter | downloadUser | downloadAdmin | inventory | login | rentShow | reportsIndex
  | report | reservationIndex | reservationNew | reservationNotify | reservationEdit
  | reservationDelete | user | named | requestAdmin | requestAccept | requestReject | logout =>
      simp only [guarded, Bool.or_eq_true, decide_eq_true_eq] at guards
      exact iff_of_false id (not_not.mpr ⟨meets _ guards, rfl⟩)

theorem faithful_redirect {action : Action} {name : String} (t : Tables)
    (next : (name, false) ∈ action.successors) :
    (Response.redirect name none).Faithful action t :=
  ⟨next, fun _ _ _ none => nomatch none⟩

theorem route_of_action {req : Request} {roles : List Role} {action : Action}
    {args : List (List Char)} (passes : passage req roles = .action action args) :
    ∃ route, matchRoute req.method req.path = some (route, args) ∧ route.action = action := by
  unfold passage at passes
  split at passes
  · cases passes
  · rename_i route captured fits
    split at passes
    · cases passes
    · split at passes
      · cases passes
      · split at passes <;> cases passes
        exact ⟨route, fits, rfl⟩

/-- A request for what is there finds it, and is refused by the rules or by the action. -/
theorem handle_found (rt : Runtime) {w : World} {req : Request} {route : Route}
    {args : List (List Char)} (elsewhere : ¬ IsLocalhost req.host)
    (fits : matchRoute req.method req.path = some (route, args))
    (found : Found rt route.action args w.store.toTables) :
    (handle rt req w).2 ≠ .error .notFound ∧
      ((handle rt req w).2 = .error .accessDenied ↔
        ¬ (Meets route.action (w.roles req.session) ∧
          checkedInAction route.action (w.roles req.session) = true)) := by
  have granted := accessGranted_iff elsewhere fits (w.roles req.session)
  rw [handle_result]
  unfold passage
  simp only [fits]
  by_cases leaves : route.action = .logout
  · rw [leaves]
    exact ⟨nofun, iff_of_false nofun (not_not.mpr ⟨trivial, rfl⟩)⟩
  rw [if_neg leaves]
  by_cases signsIn : route.action = .login ∧ req.method = .post
  · rw [if_pos signsIn, signsIn.1]
    obtain ⟨found, through⟩ := login_ends req w
    exact ⟨found, iff_of_false through (not_not.mpr ⟨trivial, rfl⟩)⟩
  rw [if_neg signsIn]
  by_cases passes : accessGranted req.host req.path (w.roles req.session) = true
  · rw [if_pos passes, and_iff_right (granted.mp passes)]
    refine ⟨fun missed => ?_, dispatch_denied_iff rt req _ found⟩
    exact (error_of_ends (dispatch_ends ..) missed).1 rfl found
  · rw [if_neg passes]
    exact ⟨nofun, iff_of_true rfl fun through => passes (granted.mpr through.1)⟩

/-- A response is one of the action of some route that asks for no more than the session
    has met. -/
theorem answered_faithful {rt : Runtime} {req : Request} {w : World} {response : Response}
    (elsewhere : ¬ IsLocalhost req.host) (answered : (handle rt req w).2 = .ok response) :
    ∃ route ∈ routes, response.Faithful route.action (w.step rt req).store.toTables ∧
      Granted (demanded route.action) (rolesOf ((w.step rt req).sessions req.session)) := by
  have login : ⟨"login", [], [.text "/login".toList], .login⟩ ∈ routes := by decide
  rw [handle_result] at answered
  rw [step_eq]
  cases passes : passage req (w.roles req.session) with
  | noRoute | denied =>
      rw [passes] at answered
      cases answered
  | logout =>
      rw [passes] at answered
      cases answered
      exact ⟨_, login, faithful_redirect _ (by decide), trivial⟩
  | login =>
      simp only [passes] at answered
      refine ⟨_, login, ?_, trivial⟩
      rcases login_redirects answered with rfl | rfl <;>
        exact faithful_redirect _ (by decide)
  | action action args =>
      simp only [passes] at answered
      obtain ⟨route, fits, rfl⟩ := route_of_action passes
      have declared := (matchRoute_some fits).1
      exact ⟨route, declared, faithful_of_ends (dispatch_ends ..) answered,
        meets_of_action elsewhere passes⟩

/-- Off `localhost`, a session that goes on to what a response links or redirects to is
    not sent to a page that is not there. It is refused only where the link was a dead
    end for it in the first place. -/
theorem links_unbroken (rt : Runtime) {w : World} {req : Request} {response : Response}
    (elsewhere : ¬ IsLocalhost req.host) (answered : (handle rt req w).2 = .ok response)
    {link : Link} (shown : link ∈ response.links ((w.step rt req).sessions req.session)) :
    ∃ path route args, link.url = some path ∧ matchRoute link.method path = some (route, args) ∧
      ∀ next : Request, next.session = req.session → next.host = req.host →
        next.method = link.method → next.path = path →
        (handle rt next (w.step rt req)).2 ≠ .error .notFound ∧
          ((handle rt next (w.step rt req)).2 = .error .accessDenied ↔
            route.action.DeadEnd ((w.step rt req).roles req.session)) := by
  obtain ⟨origin, declared, faithful, granted⟩ := answered_faithful elsewhere answered
  obtain ⟨path, route, args, lands⟩ := link_lands rt declared faithful granted shown
  obtain ⟨given, guards, met⟩ := lands.reached
  refine ⟨path, route, args, lands.url, lands.fits, fun next session host method there => ?_⟩
  have fits : matchRoute next.method next.path = some (route, args) := by
    rw [method, there]
    exact lands.fits
  obtain ⟨there, refused⟩ := handle_found rt (host ▸ elsewhere) fits lands.found
  refine ⟨there, refused.trans ?_⟩
  rw [session]
  exact (deadEnd_iff guards met).symm

/-- The homepage offers a visitor to rent what only users can rent. -/
theorem links_unbroken_sample :
    (handle .sample (.visit 0 .get "/rent/1") (World.sample.step .sample (.visit 0 .get "/"))).2 =
      .error .accessDenied := by
  let page := Response.render "default/index.html.twig"
    (.itemsWithMessage Store.sample.inventory.rows none)
  have answered : (handle .sample (.visit 0 .get "/") .sample).2 = .ok page := rfl
  have shown : (⟨.get, .route "rent_item" (some (digits 1))⟩ : Link) ∈ page.links none := by decide
  obtain ⟨path, route, args, url, fits, follows⟩ :=
    links_unbroken .sample (by decide) answered shown
  have there : path = "/rent/1" := Option.some.inj (url.symm.trans (by decide))
  subst there
  have leads : route.action = .rentItem := by
    have fit : (matchRoute .get "/rent/1").map (fun fit => fit.1.action) = some .rentItem := by
      decide
    rw [fits] at fit
    exact Option.some.inj fit
  refine (follows (.visit 0 .get "/rent/1") rfl rfl rfl rfl).2.mpr ?_
  rw [leads]
  exact ⟨List.not_mem_nil, List.not_mem_nil⟩

end WuRegalia
