import WuRegalia.Kernel.Effect

/-! # Where administrator rights come from

Roles are read off user rows at a login, and user rows are written behind the
rules that look at roles. Each half holds the other up: a session gets
`ROLE_ADMIN` from a row, and a row becomes an administrator's through a session
that has `ROLE_ADMIN`.
-/

namespace WuRegalia

open Relational

namespace World

/-- The row under a key is an administrator's. -/
def AdminAt (w : World) (id : Id) : Prop := ∃ user ∈ w.store.user.find id, user.isAdmin = true

/-- Nobody has `ROLE_ADMIN` and no row would give it. -/
def WithoutAdmins (w : World) : Prop :=
  (∀ id, ¬ w.AdminAt id) ∧ ∀ sid, ¬ w.HoldsAdmin sid

end World

theorem holdsAdmin_iff {w : World} {sid : SessionId} :
    w.HoldsAdmin sid ↔ ∃ account, w.sessions sid = some account ∧ .ROLE_ADMIN ∈ account.roles := by
  unfold World.HoldsAdmin World.roles
  cases w.sessions sid <;> simp [rolesOf]

/-- The request is the login that gives the session its user, made while a row of
    the user's name is an administrator's. -/
def GrantedAt (rt : Runtime) (sid : SessionId) (account : SessionUser) (w : World) (req : Request) :
    Prop :=
  req.session = sid ∧ passage req (w.roles req.session) = .login ∧
    (World.step rt w req).sessions sid = some account ∧ AdminRow w.store.toTables account.username

/-- The request makes a row an administrator's, by inserting or changing it. -/
def MakesAdmin (rt : Runtime) (w : World) (req : Request) : Prop :=
  ∃ id, (World.step rt w req).AdminAt id ∧ ¬ w.AdminAt id

theorem granted_of_step {rt : Runtime} {w : World} {req : Request} {sid : SessionId}
    {account : SessionUser} (admin : .ROLE_ADMIN ∈ account.roles)
    (before : w.sessions sid ≠ some account)
    (after : (World.step rt w req).sessions sid = some account) : GrantedAt rt sid account w req := by
  cases step_sessions after with
  | inl old => exact absurd old before
  | inr started =>
      obtain ⟨rfl, signsIn, signedIn⟩ := started
      exact ⟨rfl, signsIn, after, attemptAuthentication_admin signedIn admin⟩

theorem LoginWrites.adminAt {s u : Store} (writes : LoginWrites s u) {id : Id} {user : User}
    (found : u.user.find id = some user) (admin : user.isAdmin = true) :
    s.user.find id = some user := by
  cases writes with
  | nothing => exact found
  | added row after ordinary =>
      rw [after, Tables.insertUser, Table.find_insert] at found
      split at found
      · obtain rfl := Option.some.inj found
        simp [ordinary] at admin
      · exact found

/-- Only administrators make administrators. -/
theorem holdsAdmin_of_makesAdmin {rt : Runtime} {w : World} {req : Request}
    (elsewhere : ¬ IsLocalhost req.host) (makes : MakesAdmin rt w req) :
    w.HoldsAdmin req.session := by
  obtain ⟨id, ⟨user, found, admin⟩, before⟩ := makes
  have unchanged : (World.step rt w req).store.user ≠ w.store.user := by
    intro same
    rw [same] at found
    exact before ⟨user, found, admin⟩
  rw [step_eq] at found unchanged
  split at found
  · exact absurd ⟨user, found, admin⟩ before
  · exact absurd ⟨user, found, admin⟩ before
  · exact absurd ⟨user, found, admin⟩ before
  · rw [login_store] at found
    have kept := (attemptAuthentication_writes _ _ _ _).adminAt found admin
    exact absurd ⟨user, kept, admin⟩ before
  · rename_i action args passes
    have meets := meets_of_action elsewhere passes
    rw [passes] at unchanged
    by_cases crud : ∃ crud, action = .user crud
    · obtain ⟨crud, rfl⟩ := crud
      exact mem_reachableRoles_admin.mp meets
    · have frame := dispatch_user rt (fun c same => crud ⟨c, same⟩) args req
        (w.sessions req.session) w.store
      exact absurd frame unchanged

theorem withoutAdmins_step {rt : Runtime} {w : World} {req : Request}
    (elsewhere : ¬ IsLocalhost req.host) (without : w.WithoutAdmins) :
    (World.step rt w req).WithoutAdmins := by
  obtain ⟨noRow, noSession⟩ := without
  constructor
  · intro id after
    exact noSession _ (holdsAdmin_of_makesAdmin elsewhere ⟨id, after, noRow id⟩)
  · intro sid after
    obtain ⟨account, live, admin⟩ := holdsAdmin_iff.mp after
    have before : w.sessions sid ≠ some account := fun old =>
      noSession sid (holdsAdmin_iff.mpr ⟨account, old, admin⟩)
    obtain ⟨-, -, -, row⟩ := granted_of_step admin before live
    obtain ⟨id, user, found, -, isAdmin⟩ := adminRow_iff.mp row
    exact noRow id ⟨user, found, isAdmin⟩

/-- Off `localhost`: a session with `ROLE_ADMIN` got it at a login that found an
    administrator's row, and has had it ever since; rows are made administrators'
    by sessions with `ROLE_ADMIN` only; and where there is neither, neither appears. -/
theorem administrators_from_administrators (rt : Runtime) {w : World} {requests : List Request}
    (elsewhere : ∀ req ∈ requests, ¬ IsLocalhost req.host) :
    (w.NoSession → ∀ sid account, (Run.final (World.step rt) w requests).sessions sid = some account →
        .ROLE_ADMIN ∈ account.roles → ∃ before req after, requests = before ++ req :: after ∧
          GrantedAt rt sid account (Run.final (World.step rt) w before) req ∧
          ∀ t ∈ Run.states (World.step rt)
              (World.step rt (Run.final (World.step rt) w before) req) after,
            t.sessions sid = some account) ∧
      (∀ move ∈ Run.steps (World.step rt) w requests, MakesAdmin rt move.1 move.2 →
        move.1.HoldsAdmin move.2.session) ∧
      (w.WithoutAdmins → ∀ t ∈ Run.states (World.step rt) w requests, t.WithoutAdmins) := by
  have elsewhereOf : ∀ t req, (t, req) ∈ Run.steps (World.step rt) w requests →
      ¬ IsLocalhost req.host :=
    fun t req move => elsewhere req (Run.event_of_mem_steps _ move)
  refine ⟨?_, ?_, ?_⟩
  · intro start sid account live admin
    have notYet : w.sessions sid ≠ some account := by simp [start sid]
    obtain ⟨before, req, after, split, unset, kept⟩ :=
      Run.established (fun t : World => t.sessions sid = some account) notYet live
    refine ⟨before, req, after, split, granted_of_step admin unset ?_, kept⟩
    exact kept _ (Run.start_mem_states _ _ after)
  · intro move member
    exact holdsAdmin_of_makesAdmin (elsewhereOf move.1 move.2 member)
  · intro without
    exact Run.invariant_states World.WithoutAdmins without
      fun t req move => withoutAdmins_step (elsewhereOf t req move)

theorem administrators_from_administrators_sample :
    ∃ before req after, [Request.signIn 0 "smitha", .visit 0 .get "/admin/user/"] =
        before ++ req :: after ∧
      GrantedAt .sample 0 .sampleAdmin (Run.final (World.step .sample) .sample before) req ∧
      ∀ t ∈ Run.states (World.step .sample)
          (World.step .sample (Run.final (World.step .sample) .sample before) req) after,
        t.sessions 0 = some .sampleAdmin :=
  (administrators_from_administrators .sample (by decide)).1 (fun _ => rfl) 0 .sampleAdmin
    (by decide) (by decide)

end WuRegalia
