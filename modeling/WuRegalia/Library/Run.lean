import Mathlib.Data.List.Basic
import Mathlib.Data.List.Induction

/-! # Runs of a deterministic system

A system is a step function from a state and an event to the next state. Runs
are folds over event lists; the rules below reduce statements about runs to
statements about single steps. `exact_guard` is the rule for invariants that
only hold as long as every step meets a guard: when each step from a good state
leads to a good state exactly if the guard holds, a whole run stays good
exactly if all its steps meet the guard.
-/

namespace Run

variable {σ ε : Type} (step : σ → ε → σ)

/-- The state a list of events leads to. -/
def final (s : σ) (events : List ε) : σ := events.foldl step s

/-- Every step of a run: the state it starts from and its event. -/
def steps : σ → List ε → List (σ × ε)
  | _, [] => []
  | s, e :: events => (s, e) :: steps (step s e) events

/-- Every state of a run, the first and the last included. -/
def states : σ → List ε → List σ
  | s, [] => [s]
  | s, e :: events => s :: states (step s e) events

@[simp] theorem final_nil (s : σ) : final step s [] = s := rfl

@[simp] theorem final_cons (s : σ) (e : ε) (events : List ε) :
    final step s (e :: events) = final step (step s e) events := rfl

theorem final_append (s : σ) (before after : List ε) :
    final step s (before ++ after) = final step (final step s before) after :=
  List.foldl_append

theorem mem_steps {s t : σ} {e : ε} {events : List ε} :
    (t, e) ∈ steps step s events ↔
      ∃ before after, events = before ++ e :: after ∧ t = final step s before := by
  induction events generalizing s with
  | nil => simp [steps]
  | cons head tail ih =>
      simp only [steps, List.mem_cons, Prod.mk.injEq, ih]
      constructor
      · rintro (⟨rfl, rfl⟩ | ⟨before, after, rfl, rfl⟩)
        · exact ⟨[], tail, rfl, rfl⟩
        · exact ⟨head :: before, after, rfl, rfl⟩
      · rintro ⟨before, after, split, rfl⟩
        cases before with
        | nil =>
            obtain ⟨rfl, rfl⟩ := List.cons.inj split
            exact .inl ⟨rfl, rfl⟩
        | cons first rest =>
            obtain ⟨rfl, rfl⟩ := List.cons.inj split
            exact .inr ⟨rest, after, rfl, rfl⟩

theorem event_of_mem_steps {s t : σ} {e : ε} {events : List ε} (move : (t, e) ∈ steps step s events) :
    e ∈ events := by
  obtain ⟨before, after, rfl, -⟩ := (mem_steps step).mp move
  simp

theorem mem_states {s t : σ} {events : List ε} :
    t ∈ states step s events ↔ ∃ before after, events = before ++ after ∧ t = final step s before := by
  induction events generalizing s with
  | nil => simp [states]
  | cons head tail ih =>
      simp only [states, List.mem_cons, ih]
      constructor
      · rintro (rfl | ⟨before, after, rfl, rfl⟩)
        · exact ⟨[], head :: tail, rfl, rfl⟩
        · exact ⟨head :: before, after, rfl, rfl⟩
      · rintro ⟨before, after, split, rfl⟩
        cases before with
        | nil => exact .inl rfl
        | cons first rest =>
            obtain ⟨rfl, rfl⟩ := List.cons.inj split
            exact .inr ⟨rest, after, rfl, rfl⟩

theorem steps_append (s : σ) (before after : List ε) :
    steps step s (before ++ after) = steps step s before ++ steps step (final step s before) after := by
  induction before generalizing s with
  | nil => rfl
  | cons head tail ih => simp only [List.cons_append, steps, ih, final_cons]

theorem start_mem_states (s : σ) (events : List ε) : s ∈ states step s events :=
  (mem_states step).mpr ⟨[], events, rfl, rfl⟩

theorem final_mem_states (s : σ) (events : List ε) : final step s events ∈ states step s events :=
  (mem_states step).mpr ⟨events, [], by simp, rfl⟩

variable {step}

/-- A property that every step of the run keeps holds at its end. -/
theorem invariant {s : σ} {events : List ε} (I : σ → Prop) (start : I s)
    (keeps : ∀ t e, (t, e) ∈ steps step s events → I t → I (step t e)) :
    I (final step s events) := by
  induction events generalizing s with
  | nil => exact start
  | cons e events ih =>
      refine ih (keeps s e (by simp [steps]) start) fun t later member => keeps t later ?_
      simp [steps, member]

/-- The same rule, for every state the run passes through. -/
theorem invariant_states {s : σ} {events : List ε} (I : σ → Prop) (start : I s)
    (keeps : ∀ t e, (t, e) ∈ steps step s events → I t → I (step t e)) :
    ∀ t ∈ states step s events, I t := by
  intro t member
  obtain ⟨before, after, rfl, rfl⟩ := (mem_states step).mp member
  refine invariant I start fun t e inBefore => keeps t e ?_
  obtain ⟨earlier, later, rfl, rfl⟩ := (mem_steps step).mp inBefore
  exact (mem_steps step).mpr ⟨earlier, later ++ after, by simp, rfl⟩

theorem states_concat (s : σ) (events : List ε) (e : ε) :
    states step s (events ++ [e]) = states step s events ++ [step (final step s events) e] := by
  induction events generalizing s with
  | nil => rfl
  | cons head tail ih => simp only [List.cons_append, states, ih, final_cons]

theorem steps_concat (s : σ) (events : List ε) (e : ε) :
    steps step s (events ++ [e]) = steps step s events ++ [(final step s events, e)] := by
  induction events generalizing s with
  | nil => rfl
  | cons head tail ih => simp only [List.cons_append, steps, ih, final_cons]

/-- A property of a run, its steps and its end, that every further step extends. -/
theorem traced {s : σ} {events : List ε} (P : List (σ × ε) → σ → Prop) (start : P [] s)
    (extends_ : ∀ moves t e, (t, e) ∈ steps step s events → P moves t → P (moves ++ [(t, e)]) (step t e)) :
    P (steps step s events) (final step s events) := by
  induction events using List.reverseRecOn with
  | nil => exact start
  | append_singleton events last ih =>
      rw [steps_concat, final_append, final_cons, final_nil]
      rw [steps_concat] at extends_
      refine extends_ _ _ _ (by simp) (ih fun moves t e inside => extends_ moves t e ?_)
      exact List.mem_append_left _ inside

/-- What holds at the end of a run and not at its start was established by one
    of its steps, and has held ever since. -/
theorem established {s : σ} {events : List ε} (Q : σ → Prop) (start : ¬ Q s)
    (finish : Q (final step s events)) :
    ∃ before e after, events = before ++ e :: after ∧ ¬ Q (final step s before) ∧
      ∀ t ∈ states step (step (final step s before) e) after, Q t := by
  induction events using List.reverseRecOn with
  | nil => exact absurd finish start
  | append_singleton events last ih =>
      rw [final_append, final_cons, final_nil] at finish
      by_cases sooner : Q (final step s events)
      · obtain ⟨before, e, after, rfl, fails, kept⟩ := ih sooner
        refine ⟨before, e, after ++ [last], by simp, fails, fun t member => ?_⟩
        rw [states_concat] at member
        rcases List.mem_append.mp member with inside | atEnd
        · exact kept t inside
        · obtain rfl := List.mem_singleton.mp atEnd
          simpa only [final_append, final_cons] using finish
      · refine ⟨events, last, [], rfl, sooner, fun t member => ?_⟩
        obtain rfl := List.mem_singleton.mp member
        exact finish

/-- The states before and after a step are states of the run. -/
theorem states_of_mem_steps {s t : σ} {e : ε} {events : List ε} (move : (t, e) ∈ steps step s events) :
    t ∈ states step s events ∧ step t e ∈ states step s events := by
  obtain ⟨before, after, rfl, rfl⟩ := (mem_steps step).mp move
  refine ⟨(mem_states step).mpr ⟨before, e :: after, rfl, rfl⟩, (mem_states step).mpr ?_⟩
  exact ⟨before ++ [e], after, by simp, by rw [final_append, final_cons, final_nil]⟩

private theorem never {s : σ} {events : List ε} (Open : σ → Prop) (change : σ → ε → Prop)
    (opened : ∀ t e, (t, e) ∈ steps step s events → change t e → Open t)
    (closed : ∀ t e, (t, e) ∈ steps step s events → ¬ Open t → ¬ Open (step t e))
    (start : ¬ Open s) : ∀ move ∈ steps step s events, ¬ change move.1 move.2 := by
  intro move member changes
  have shut : ¬ Open move.1 :=
    invariant_states (fun t => ¬ Open t) start closed move.1 (states_of_mem_steps member).1
  exact shut (opened move.1 move.2 member changes)

/-- What needs a condition, ends it, and is followed by nothing that restores it
    happens at most once. -/
theorem once {s : σ} {events : List ε} (Open : σ → Prop) (change : σ → ε → Prop)
    [∀ t e, Decidable (change t e)]
    (opened : ∀ t e, (t, e) ∈ steps step s events → change t e → Open t)
    (ends : ∀ t e, (t, e) ∈ steps step s events → change t e → ¬ Open (step t e))
    (closed : ∀ t e, (t, e) ∈ steps step s events → ¬ Open t → ¬ Open (step t e)) :
    (steps step s events).countP (fun move => change move.1 move.2) ≤ 1 := by
  induction events generalizing s with
  | nil => simp [steps]
  | cons e events ih =>
      have later : ∀ move, move ∈ steps step (step s e) events → move ∈ steps step s (e :: events) :=
        fun move member => List.mem_cons_of_mem _ member
      simp only [steps, List.countP_cons]
      by_cases now : change s e
      · have rest : (steps step (step s e) events).countP (fun move => change move.1 move.2) = 0 := by
          apply List.countP_eq_zero.mpr
          intro move member changes
          exact never Open change (fun t e inRest => opened t e (later _ inRest))
            (fun t e inRest => closed t e (later _ inRest)) (ends s e (by simp [steps]) now) move member
            (by simpa using changes)
        simp [rest, now]
      · simpa [now] using ih (fun t e inRest => opened t e (later _ inRest))
          (fun t e inRest => ends t e (later _ inRest)) (fun t e inRest => closed t e (later _ inRest))

/-- When a step from a good state is good exactly if it meets the guard, a run
    from a good state stays good exactly if all its steps meet the guard. `J`
    collects what good runs maintain besides, `H` what the steps of the run are
    known to be. -/
theorem exact_guard_among (H : σ → ε → Prop) (I J : σ → Prop) (G : σ → ε → Prop)
    (keeps : ∀ s e, H s e → I s → J s → G s e → J (step s e))
    (exact_ : ∀ s e, H s e → I s → J s → (I (step s e) ↔ G s e)) {s : σ} {events : List ε}
    (among : ∀ move ∈ steps step s events, H move.1 move.2) (good : I s) (side : J s) :
    (∀ t ∈ states step s events, I t) ↔ ∀ move ∈ steps step s events, G move.1 move.2 := by
  induction events generalizing s with
  | nil => simp [states, steps, good]
  | cons e events ih =>
      simp only [steps, List.forall_mem_cons] at among
      have here := exact_ s e among.1 good side
      simp only [states, steps, List.forall_mem_cons]
      constructor
      · rintro ⟨-, rest⟩
        have next : I (step s e) := rest _ (start_mem_states step _ events)
        have guard := here.mp next
        exact ⟨guard, (ih among.2 next (keeps s e among.1 good side guard)).mp rest⟩
      · rintro ⟨guard, rest⟩
        exact ⟨good, (ih among.2 (here.mpr guard) (keeps s e among.1 good side guard)).mpr rest⟩

/-- The same rule, nothing being known of the steps. -/
theorem exact_guard (I J : σ → Prop) (G : σ → ε → Prop)
    (keeps : ∀ s e, I s → J s → G s e → J (step s e))
    (exact_ : ∀ s e, I s → J s → (I (step s e) ↔ G s e)) {s : σ} {events : List ε}
    (good : I s) (side : J s) :
    (∀ t ∈ states step s events, I t) ↔ ∀ move ∈ steps step s events, G move.1 move.2 :=
  exact_guard_among (fun _ _ => True) I J G (fun s e _ => keeps s e) (fun s e _ => exact_ s e)
    (fun _ _ => trivial) good side

/-- The same rule for a run from any start, which has to be good as well. -/
theorem exact_guard_start (I J : σ → Prop) (G : σ → ε → Prop)
    (keeps : ∀ s e, I s → J s → G s e → J (step s e))
    (exact_ : ∀ s e, I s → J s → (I (step s e) ↔ G s e)) {s : σ} {events : List ε} (side : J s) :
    (∀ t ∈ states step s events, I t) ↔ I s ∧ ∀ move ∈ steps step s events, G move.1 move.2 := by
  constructor
  · intro all
    have good : I s := all s (start_mem_states step s events)
    exact ⟨good, (exact_guard I J G keeps exact_ good side).mp all⟩
  · rintro ⟨good, guards⟩
    exact (exact_guard I J G keeps exact_ good side).mpr guards

/-- Two systems that start from related states, take related events and whose steps
    from related states show the same and lead to related states, show the same all
    along and end in related states. -/
theorem lockstep {τ δ ω : Type} {other : τ → δ → τ} (R : σ → τ → Prop) (H : ε → Prop)
    (f : ε → δ) (shows : σ × ε → ω) (showsOther : τ × δ → ω)
    (together : ∀ s t e, H e → R s t →
      R (step s e) (other t (f e)) ∧ shows (s, e) = showsOther (t, f e)) {s : σ} {t : τ}
    {events : List ε} (start : R s t) (among : ∀ e ∈ events, H e) :
    R (final step s events) (final other t (events.map f)) ∧
      (steps step s events).map shows = (steps other t (events.map f)).map showsOther := by
  induction events generalizing s t with
  | nil => exact ⟨start, rfl⟩
  | cons e events ih =>
      obtain ⟨related, same⟩ := together s t e (among e List.mem_cons_self) start
      obtain ⟨ends, rest⟩ := ih related fun later member => among later (List.mem_cons_of_mem e member)
      refine ⟨ends, ?_⟩
      simp only [List.map_cons, steps, same, rest]

/-- Every event of a run with those that come again right after it. -/
def repeated (events : List (ε × List ε)) : List ε := events.flatMap fun e => e.1 :: e.2

section Repeated

variable {τ : Type} (view : σ → τ)
  (blind : ∀ s t e, view s = view t → view (step s e) = view (step t e))

include blind

/-- Events that show nothing in a state show nothing one after the other. -/
theorem final_absorbed {s t : σ} {events : List ε} (same : view s = view t)
    (absorbed : ∀ e ∈ events, view (step t e) = view t) : view (final step s events) = view t := by
  induction events generalizing s with
  | nil => exact same
  | cons e events ih =>
      have here := absorbed e List.mem_cons_self
      exact ih ((blind s t e same).trans here) fun later inside =>
        absorbed later (List.mem_cons_of_mem e inside)

/-- What shows nothing where it comes again can be left out of the whole run. -/
theorem final_repeated {s t : σ} {events : List (ε × List ε)} (same : view s = view t)
    (absorbed : ∀ move ∈ steps (fun s (e : ε × List ε) => step s e.1) t events,
      ∀ again ∈ move.2.2, view (step (step move.1 move.2.1) again) = view (step move.1 move.2.1)) :
    view (final step s (repeated events)) = view (final step t (events.map Prod.fst)) := by
  induction events generalizing s t with
  | nil => exact same
  | cons e events ih =>
      obtain ⟨event, agains⟩ := e
      simp only [steps, List.forall_mem_cons] at absorbed
      have after := final_absorbed view blind (blind s t event same) absorbed.1
      have split : repeated ((event, agains) :: events) = (event :: agains) ++ repeated events := rfl
      rw [split, final_append, final_cons]
      exact ih after absorbed.2

end Repeated

/-- A system each step of which is, in the view of a more abstract one, a step of that one
    or nothing at all, does what the abstract one does. -/
theorem refines {τ δ : Type} {other : τ → δ → τ} (view : σ → τ) (label : σ → ε → Option δ)
    (I : σ → Prop) (G : σ → ε → Prop) (keeps : ∀ s e, I s → G s e → I (step s e))
    (square : ∀ s e, I s → G s e →
      view (step s e) = (label s e).elim (view s) (other (view s))) {s : σ} {events : List ε}
    (start : I s) (guarded : ∀ move ∈ steps step s events, G move.1 move.2) :
    view (final step s events) =
      final other (view s) ((steps step s events).filterMap (fun move => label move.1 move.2)) := by
  induction events generalizing s with
  | nil => rfl
  | cons e events ih =>
      simp only [steps, List.forall_mem_cons] at guarded
      have here := square s e start guarded.1
      have rest := ih (keeps s e start guarded.1) guarded.2
      rw [final_cons, rest, here, steps, List.filterMap_cons]
      cases label s e <;> rfl

/-- Events any two of which may change places may be handled in any order. -/
theorem final_perm (I : σ → Prop) (Apart : ε → ε → Prop)
    (keeps : ∀ s e, I s → I (step s e))
    (commute : ∀ s e f, I s → Apart e f → step (step s e) f = step (step s f) e)
    (symm : ∀ e f, Apart e f → Apart f e) {events other : List ε} (perm : events.Perm other)
    (apart : events.Pairwise Apart) {s : σ} (start : I s) :
    final step s events = final step s other := by
  induction perm generalizing s with
  | nil => rfl
  | cons e perm ih => exact ih (List.pairwise_cons.mp apart).2 (keeps s e start)
  | swap e f rest =>
      have changes := (List.pairwise_cons.mp apart).1 e List.mem_cons_self
      simp only [final_cons, commute s f e start changes]
  | trans first second ihFirst ihSecond =>
      have between := (first.pairwise_iff fun {e f} => symm e f).mp apart
      exact (ihFirst apart start).trans (ihSecond between start)

/-- A state with the steps that led to it, oldest first. -/
structure Recorded (σ ε : Type) where
  now : σ
  past : List (σ × ε)

/-- Nothing has happened yet. -/
def Recorded.start (s : σ) : Recorded σ ε := ⟨s, []⟩

variable (step) in
/-- The system that records its steps. -/
def record (r : Recorded σ ε) (e : ε) : Recorded σ ε := ⟨step r.now e, r.past ++ [(r.now, e)]⟩

theorem steps_record (r : Recorded σ ε) (events : List ε) :
    (steps (record step) r events).map (fun move => (move.1.now, move.2)) =
      steps step r.now events := by
  induction events generalizing r with
  | nil => rfl
  | cons e events ih => simp only [steps, List.map_cons, ih, record]

/-- What does not look at the past is the same for both systems. -/
theorem forall_steps_record {P : σ → ε → Prop} {r : Recorded σ ε} {events : List ε} :
    (∀ move ∈ steps (record step) r events, P move.1.now move.2) ↔
      ∀ move ∈ steps step r.now events, P move.1 move.2 := by
  rw [← steps_record, List.forall_mem_map]

end Run
