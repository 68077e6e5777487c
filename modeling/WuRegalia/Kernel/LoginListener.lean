import WuRegalia.Kernel.Effect

/-! # The login listener

`LoginListener` is written, but no longer registered: what it does when a user has logged
in, the user provider has done by then. With the listener registered again every run is
the same, response by response.
-/

namespace WuRegalia

namespace LoginListener

def addUser (s : Store) (now : DateTime) (tok : SessionUser) : Store × Except Exception Unit :=
  match LdapSessionUserProvider.userRow tok now with
  | none => (s, .error .constraintViolation)
  | some row =>
      match s.flush (Tables.insertUser row) with
      | some u => (u, .ok ())
      | none => (s, .error .constraintViolation)

def onInteractiveLogin (s : Store) (now : DateTime) (userToken : SessionUser) :
    Store × Except Exception Unit :=
  match s.findUser userToken.username with
  | none => addUser s now userToken
  | some _ => (s, .ok ())

end LoginListener

/-- A login that is listened to. The session is started before the listener is called. -/
def loginListening (req : Request) (w : World) : World × Except Exception Response :=
  match attemptAuthentication req.directory w.store req.now req.credentials with
  | (u, .ok user) =>
      let (v, heard) := LoginListener.onInteractiveLogin u req.now user
      ({ w with store := v }.setSession req.session (some user),
        heard.map fun _ => .redirect "homepage" none)
  | (u, .error e) =>
      if isAuthenticationException e then
        ({ w with store := u }.setSession req.session none, .ok (.redirect "login" none))
      else ({ w with store := u }, .error e)

def handleListening (rt : Runtime) (req : Request) (w : World) :
    World × Except Exception Response :=
  match passage req (w.roles req.session) with
  | .login => loginListening req (refresh req.session w)
  | .noRoute | .logout | .denied | .action .. => handle rt req w

def World.stepListening (rt : Runtime) (w : World) (req : Request) : World :=
  (handleListening rt req w).1

/-- The listener finds the row the provider has found or added. -/
theorem onInteractiveLogin_nothing {dir : Directory} {s u : Store} {now : DateTime}
    {c : Credentials} {account : SessionUser}
    (signedIn : attemptAuthentication dir s now c = (u, .ok account)) :
    LoginListener.onInteractiveLogin u now account = (u, .ok ()) := by
  obtain ⟨id, user, row, named⟩ := attemptAuthentication_row (congrArg Prod.snd signedIn)
  rw [signedIn] at row
  unfold LoginListener.onInteractiveLogin
  cases found : u.findUser account.username with
  | some other => rfl
  | none => exact absurd named (Tables.findUser_none.mp found id user row)

theorem loginListening_eq (req : Request) (w : World) : loginListening req w = login req w := by
  unfold loginListening login
  rcases attempted : attemptAuthentication req.directory w.store req.now req.credentials with
    ⟨u, e | account⟩
  · rfl
  · simp only [onInteractiveLogin_nothing attempted]
    rfl

theorem handleListening_eq (rt : Runtime) (req : Request) (w : World) :
    handleListening rt req w = handle rt req w := by
  unfold handleListening
  split
  · rename_i passes
    rw [loginListening_eq]
    unfold handle
    simp only [refresh_eq, passes]
  all_goals rfl

/-- From any state, the listener changes no state of a run and no response. -/
theorem listener_redundant (rt : Runtime) (w : World) (requests : List Request) :
    Run.states (World.stepListening rt) w requests = Run.states (World.step rt) w requests ∧
      (Run.steps (World.stepListening rt) w requests).map
          (fun move => (handleListening rt move.2 move.1).2) =
        (Run.steps (World.step rt) w requests).map fun move => (handle rt move.2 move.1).2 := by
  have same : World.stepListening rt = World.step rt := by
    funext v req
    exact congrArg Prod.fst (handleListening_eq rt req v)
  simp only [same, handleListening_eq, and_self]

end WuRegalia
