import WuRegalia.Library.Run
import Mathlib.Logic.Function.Basic

/-! # Requests that read first and write later

Many requests share one store. Each takes two steps: it loads, reading the
store once and deciding what to write, and it flushes, writing that decision to
whatever the store has become meanwhile. Between the two steps any other
request may run. An in-flight decision is kept in a numbered slot; a slot that
is taken, or a flush of an empty one, leaves the system as it is.
-/

/-- What the requests `ρ` do to the store `σ`, through decisions `π`. -/
structure TwoPhase (σ ρ π : Type) where
  /-- The decision taken on the store as loaded; `none` when there is no flush. -/
  load : σ → ρ → Option π
  flush : σ → π → σ

namespace TwoPhase

variable {σ ρ π : Type}

/-- The store, and the decisions loaded and not yet flushed. -/
structure State (σ π : Type) where
  store : σ
  pending : Nat → Option π

inductive Event (ρ : Type) where
  | load (slot : Nat) (request : ρ)
  | flush (slot : Nat)
  deriving DecidableEq, Repr

/-- No request is in flight. -/
def State.quiet (s : σ) : State σ π := ⟨s, fun _ => none⟩

variable (requests : TwoPhase σ ρ π)

def step (s : State σ π) : Event ρ → State σ π
  | .load slot request =>
      match s.pending slot with
      | some _ => s
      | none => { s with pending := Function.update s.pending slot (requests.load s.store request) }
  | .flush slot =>
      match s.pending slot with
      | none => s
      | some p => ⟨requests.flush s.store p, Function.update s.pending slot none⟩

/-- A request whose steps nothing comes between. -/
def handle (s : σ) (request : ρ) : σ :=
  match requests.load s request with
  | some p => requests.flush s p
  | none => s

/-- Guard an event by a condition on the decision it flushes. -/
def FlushGuard (G : σ → π → Prop) (s : State σ π) : Event ρ → Prop
  | .load _ _ => True
  | .flush slot =>
      match s.pending slot with
      | some p => G s.store p
      | none => True

instance (G : σ → π → Prop) [∀ s p, Decidable (G s p)] (s : State σ π) :
    (e : Event ρ) → Decidable (FlushGuard G s e)
  | .load _ _ => .isTrue trivial
  | .flush slot =>
      match located : s.pending slot with
      | some p => decidable_of_iff (G s.store p) (by simp only [FlushGuard, located])
      | none => .isTrue (by simp only [FlushGuard, located])

/-- Every decision in flight is related to the store as it is now. -/
def State.Tracks (K : σ → π → Prop) (s : State σ π) : Prop :=
  ∀ slot p, s.pending slot = some p → K s.store p

theorem State.tracks_quiet (K : σ → π → Prop) (s : σ) : (State.quiet s).Tracks K := by
  intro slot p pending
  cases pending

variable {requests}

/-- What a decision knows of the store may be relied on, if it is true when
    loaded and no lawful flush of another decision makes it false. -/
theorem tracks_step {I : σ → Prop} {K G : σ → π → Prop}
    (loaded : ∀ s r p, I s → requests.load s r = some p → K s p)
    (stable : ∀ s p q, I s → K s p → K s q → G s p → K (requests.flush s p) q)
    {s : State σ π} {e : Event ρ} (good : I s.store) (tracks : s.Tracks K)
    (guard : FlushGuard G s e) : (step requests s e).Tracks K := by
  cases e with
  | load slot request =>
      simp only [step]
      split
      · exact tracks
      · intro other p pending
        simp only [Function.update_apply] at pending
        split at pending
        · exact loaded s.store request p good pending
        · exact tracks other p pending
  | flush slot =>
      simp only [step]
      split
      · exact tracks
      · rename_i flushed located
        intro other p pending
        simp only [Function.update_apply] at pending
        split at pending
        · cases pending
        · simp only [FlushGuard, located] at guard
          exact stable s.store flushed p good (tracks slot flushed located)
            (tracks other p pending) guard

/-- What no flush at all makes false may be relied on in every state of a run. -/
theorem tracks_states {K : σ → π → Prop}
    (loaded : ∀ s r p, requests.load s r = some p → K s p)
    (stable : ∀ s p q, K s p → K s q → K (requests.flush s p) q) (s : σ)
    (events : List (Event ρ)) :
    ∀ t ∈ Run.states (step requests) (State.quiet s) events, t.Tracks K := by
  refine Run.invariant_states (State.Tracks K) (State.tracks_quiet K s) fun t e _ tracks => ?_
  refine tracks_step (I := fun _ => True) (G := fun _ _ => True)
    (fun s r p _ => loaded s r p) (fun s p q _ known other _ => stable s p q known other) trivial
    tracks ?_
  cases e with
  | load slot request => trivial
  | flush slot =>
      simp only [FlushGuard]
      split <;> trivial

/-- The guarded-invariant rule for interleavings: when a flush keeps the store
    good exactly if it meets the guard, an interleaving keeps it good exactly
    if all its flushes do. -/
theorem exact_guard {I : σ → Prop} {K G : σ → π → Prop}
    (loaded : ∀ s r p, I s → requests.load s r = some p → K s p)
    (stable : ∀ s p q, I s → K s p → K s q → G s p → K (requests.flush s p) q)
    (exact_ : ∀ s p, I s → K s p → (I (requests.flush s p) ↔ G s p))
    {s : State σ π} {events : List (Event ρ)} (good : I s.store) (tracks : s.Tracks K) :
    (∀ t ∈ Run.states (step requests) s events, I t.store) ↔
      ∀ move ∈ Run.steps (step requests) s events, FlushGuard G move.1 move.2 := by
  refine Run.exact_guard (fun s => I s.store) (State.Tracks K) (FlushGuard G)
    (fun s e => tracks_step loaded stable) (fun s e good tracks => ?_) good tracks
  cases e with
  | load slot request =>
      simp only [step, FlushGuard, iff_true]
      split <;> exact good
  | flush slot =>
      simp only [step, FlushGuard]
      cases located : s.pending slot with
      | none => simpa using good
      | some p => simpa using exact_ s.store p good (tracks slot p located)

/-- The slot an event is about. -/
def Event.slot : Event ρ → Nat
  | .load slot _ | .flush slot => slot

/-- The events of the slots that are not hidden. -/
def visible (hidden : Nat → Bool) (events : List (Event ρ)) : List (Event ρ) :=
  events.filter (fun e => !hidden e.slot)

/-- Hidden slots take requests whose decisions are quiet, the others take those that are
    looked at. -/
def Apart (requests : TwoPhase σ ρ π) (hidden : Nat → Bool) (Seen : ρ → Prop) (Quiet : π → Prop)
    (s : State σ π) : Event ρ → Prop
  | .load slot request =>
      if hidden slot then ∀ p ∈ requests.load s.store request, Quiet p else Seen request
  | .flush _ => True

instance (requests : TwoPhase σ ρ π) (hidden : Nat → Bool) (Seen : ρ → Prop) (Quiet : π → Prop)
    [DecidablePred Seen] [DecidablePred Quiet] (s : State σ π) :
    (e : Event ρ) → Decidable (Apart requests hidden Seen Quiet s e)
  | .load slot request =>
      inferInstanceAs (Decidable (if hidden slot then ∀ _ ∈ _, Quiet _ else Seen request))
  | .flush _ => .isTrue trivial

/-- What makes quiet decisions invisible in what `Same` compares: requests that are looked
    at decide the same from stores that are the same, their flushes lead to stores that are
    the same, and a quiet flush on one side leaves them so. `K` is what a decision knows. -/
structure Erases (requests : TwoPhase σ ρ π) (Same : σ → σ → Prop) (Match : π → π → Prop)
    (K : σ → π → Prop) (Seen : ρ → Prop) (Quiet : π → Prop) : Prop where
  loaded : ∀ s r p, requests.load s r = some p → K s p
  stable : ∀ s p q, K s p → K s q → K (requests.flush s p) q
  loads : ∀ s t r, Same s t → Seen r → Option.Rel Match (requests.load s r) (requests.load t r)
  flushes : ∀ s t p q, Same s t → K s p → K t q → Match p q →
    Same (requests.flush s p) (requests.flush t q)
  quiet : ∀ s t p, Same s t → K s p → Quiet p → Same (requests.flush s p) t

section Erases

variable {Same : σ → σ → Prop} {Match : π → π → Prop} {K : σ → π → Prop} {Seen : ρ → Prop}
  {Quiet : π → Prop} {hidden : Nat → Bool}

/-- The two runs side by side: one with the hidden slots, one without. -/
structure Alike (Same : σ → σ → Prop) (Match : π → π → Prop) (K : σ → π → Prop)
    (Quiet : π → Prop) (hidden : Nat → Bool) (s t : State σ π) : Prop where
  store : Same s.store t.store
  tracks : s.Tracks K
  tracksToo : t.Tracks K
  seen : ∀ slot, hidden slot = false → Option.Rel Match (s.pending slot) (t.pending slot)
  quiet : ∀ slot p, hidden slot = true → s.pending slot = some p → Quiet p

theorem Erases.tracks (erases : Erases requests Same Match K Seen Quiet) {s : State σ π}
    (tracks : s.Tracks K) (e : Event ρ) : (step requests s e).Tracks K := by
  apply tracks_step (I := fun _ => True) (G := fun _ _ => True)
    (fun s r p _ => erases.loaded s r p) (fun s p q _ known other _ => erases.stable s p q known other)
    trivial tracks
  cases e with
  | load slot request => trivial
  | flush slot =>
      simp only [FlushGuard]
      split <;> trivial

/-- A hidden event leaves the two alike. -/
theorem Erases.step_hidden (erases : Erases requests Same Match K Seen Quiet) {s t : State σ π}
    {e : Event ρ} (alike : Alike Same Match K Quiet hidden s t) (hides : hidden e.slot = true)
    (apart : Apart requests hidden Seen Quiet s e) :
    Alike Same Match K Quiet hidden (step requests s e) t := by
  have tracks := erases.tracks alike.tracks e
  have other : ∀ {slot : Nat} (p : Option π), hidden slot = true → ∀ visible,
      hidden visible = false → Function.update s.pending slot p visible = s.pending visible := by
    intro slot p hides visible seen
    exact Function.update_of_ne (fun same => by simp [same, hides] at seen) _ _
  cases e with
  | load slot request =>
      simp only [Event.slot] at hides
      simp only [step] at tracks ⊢
      split
      · exact alike
      · rename_i free
        rw [free] at tracks
        refine ⟨alike.store, tracks, alike.tracksToo, fun visible seen => ?_, ?_⟩
        · simpa only [other _ hides visible seen] using alike.seen visible seen
        · intro any p hidesToo pending
          simp only [Function.update_apply] at pending
          split at pending
          · simp only [Apart, hides, if_true] at apart
            exact apart p pending
          · exact alike.quiet any p hidesToo pending
  | flush slot =>
      simp only [Event.slot] at hides
      simp only [step] at tracks ⊢
      split
      · exact alike
      · rename_i p pending
        rw [pending] at tracks
        refine ⟨?_, tracks, alike.tracksToo, fun visible seen => ?_, ?_⟩
        · exact erases.quiet _ _ p alike.store (alike.tracks slot p pending)
            (alike.quiet slot p hides pending)
        · simpa only [other _ hides visible seen] using alike.seen visible seen
        · intro any q hidesToo left
          simp only [Function.update_apply] at left
          split at left
          · cases left
          · exact alike.quiet any q hidesToo left

/-- An event that is looked at takes both on. -/
theorem Erases.step_seen (erases : Erases requests Same Match K Seen Quiet) {s t : State σ π}
    {e : Event ρ} (alike : Alike Same Match K Quiet hidden s t) (seen : hidden e.slot = false)
    (apart : Apart requests hidden Seen Quiet s e) :
    Alike Same Match K Quiet hidden (step requests s e) (step requests t e) := by
  have tracks := erases.tracks alike.tracks e
  have tracksToo := erases.tracks alike.tracksToo e
  have here := alike.seen e.slot seen
  have updated : ∀ {slot : Nat} {p q : Option π}, hidden slot = false → Option.Rel Match p q →
      (∀ any, hidden any = false → Option.Rel Match (Function.update s.pending slot p any)
        (Function.update t.pending slot q any)) ∧
      ∀ any r, hidden any = true → Function.update s.pending slot p any = some r → Quiet r := by
    intro slot p q shown same
    constructor
    · intro any visible
      simp only [Function.update_apply]
      split
      · exact same
      · exact alike.seen any visible
    · intro any r hides pending
      simp only [Function.update_apply] at pending
      split at pending
      · rename_i clash
        simp [clash, shown] at hides
      · exact alike.quiet any r hides pending
  cases e with
  | load slot request =>
      simp only [Event.slot] at seen here
      simp only [step] at tracks tracksToo ⊢
      generalize mine : s.pending slot = own at here
      generalize theirs : t.pending slot = their at here
      rw [mine] at tracks
      rw [theirs] at tracksToo
      cases here with
      | some matched => exact alike
      | none =>
          simp only [Apart, seen, Bool.false_eq_true, if_false] at apart
          obtain ⟨visible, quiet⟩ := updated seen (erases.loads _ _ request alike.store apart)
          exact ⟨alike.store, tracks, tracksToo, visible, quiet⟩
  | flush slot =>
      simp only [Event.slot] at seen here
      simp only [step] at tracks tracksToo ⊢
      generalize mine : s.pending slot = own at here
      generalize theirs : t.pending slot = their at here
      rw [mine] at tracks
      rw [theirs] at tracksToo
      cases here with
      | none => exact alike
      | @some p q matched =>
          obtain ⟨visible, quiet⟩ := updated (p := none) (q := none) seen .none
          exact ⟨erases.flushes _ _ p q alike.store (alike.tracks slot p mine)
            (alike.tracksToo slot q theirs) matched, tracks, tracksToo, visible, quiet⟩

/-- In every interleaving, hidden requests with quiet decisions can be left out. -/
theorem Erases.final (erases : Erases requests Same Match K Seen Quiet) {s t : σ}
    (same : Same s t) {events : List (Event ρ)}
    (apart : ∀ move ∈ Run.steps (step requests) (State.quiet s) events,
      Apart requests hidden Seen Quiet move.1 move.2) :
    Same (Run.final (step requests) (State.quiet s) events).store
      (Run.final (step requests) (State.quiet t) (visible hidden events)).store := by
  have start : Alike Same Match K Quiet hidden (State.quiet s) (State.quiet t) :=
    ⟨same, State.tracks_quiet K s, State.tracks_quiet K t, fun _ _ => .none, fun _ _ _ taken => by
      cases taken⟩
  generalize State.quiet s = full at start apart ⊢
  generalize State.quiet t = part at start ⊢
  induction events generalizing full part with
  | nil => exact start.store
  | cons e events ih =>
      simp only [Run.steps, List.forall_mem_cons] at apart
      cases hides : hidden e.slot with
      | true =>
          have next := erases.step_hidden start hides apart.1
          simpa only [visible, List.filter_cons, hides, Bool.not_true, Bool.false_eq_true, if_false,
            Run.final_cons] using ih _ apart.2 _ next
      | false =>
          have next := erases.step_seen start hides apart.1
          simpa only [visible, List.filter_cons, hides, Bool.not_false, if_true, Run.final_cons]
            using ih _ apart.2 _ next

end Erases

end TwoPhase
