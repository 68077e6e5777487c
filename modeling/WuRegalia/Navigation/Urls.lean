import WuRegalia.Kernel
import WuRegalia.Library.PathTemplate
import Mathlib.Data.List.TakeWhile

/-! # URLs the router generates

The generator fills the pattern of a route with a value; the matcher goes through the
routes in their order. Every pattern is settled against every other before the value is
there, so that a URL generated for a route leads back to this route and to no other one,
whatever key it was generated for.
-/

namespace WuRegalia

open PathPattern

/-- The default of the parameters that have one, as text. -/
def defaultValue : List Char := ['0']

/-- The path of a route under a name; `none` when there is no such route or its parameter
    is missing. A value that is the default is left out. -/
def generate (name : String) (value : Option (List Char)) : Option String :=
  (routes.find? (fun route => route.name = name)).bind fun route =>
    match value with
    | none =>
        if .param ∈ route.pattern then none
        else some (String.ofList (fill [] (template false route.pattern)))
    | some value =>
        some (String.ofList (fill value (template (value ≠ defaultValue) route.pattern)))

/-- A key in a URL. -/
def digits (id : Id) : List Char := Nat.toDigits 10 id

/-- The key is read back. -/
theorem keyOf_digits (rt : Runtime) (id : Id) : rt.keyOf (digits id) = id := rt.keyOf_numeral id

theorem digits_eq_default {id : Id} : digits id = defaultValue ↔ id = 0 := by
  constructor
  · intro same
    have read : Nat.ofDigitChars 10 (digits id) 0 = id := Nat.ofDigitChars_ten_toDigits
    rw [← read, same]
    decide
  · rintro rfl
    exact Nat.toDigits_zero 10

theorem digits_isValue (id : Id) : IsValue Char.isDigit (digits id) where
  nonempty := Nat.toDigits_ne_nil
  made _ member := Nat.isDigit_of_mem_toDigits (by decide) (by decide) member
  noSlash := by decide

/-- `firstFitting` on a path with a hole. A route whose method does not fit is passed over
    whether its pattern fits or not. -/
def resolve (allowed : Char → Bool) (method : Method) (path : List Symbol) :
    List Route → Verdict (Route × List (List Symbol))
  | [] => .fails
  | route :: rest =>
      if route.allows method then
        match captureSymbols allowed route.pattern path with
        | .fails => resolve allowed method path rest
        | .depends => .depends
        | .yields args => .yields (route, args)
      else resolve allowed method path rest

theorem resolve_tells {allowed : Char → Bool} {value : List Char} (good : IsValue allowed value)
    (method : Method) (path : List Symbol) (list : List Route) :
    (resolve allowed method path list).Tells (fun found => (found.1, found.2.map (fill value)))
      (firstFitting method (fill value path) list) := by
  induction list with
  | nil => rfl
  | cons route rest ih =>
      have tells := capture_tells good route.pattern path
      simp only [resolve, firstFitting]
      by_cases fits : route.allows method = true
      · simp only [fits, if_true]
        generalize captureSymbols allowed route.pattern path = verdict at tells ⊢
        cases verdict with
        | fails =>
            have captured : capture route.pattern (fill value path) = none := tells
            rw [captured]
            exact ih
        | depends => trivial
        | yields args =>
            have captured : capture route.pattern (fill value path) =
              some (args.map (fill value)) := tells
            rw [captured]
            rfl
      · simp only [fits, Bool.false_eq_true, if_false]
        split
        · exact ih
        · exact ih

/-- What a route captures from its own path: the value, when it is in it. -/
def captured (given : Bool) (pattern : List Piece) : List (List Symbol) :=
  pattern.filterMap fun piece =>
    match piece with
    | .text _ => none
    | .param => some [.value]
    | .defaultParam => if given then some [.value] else none

/-- Every route comes first for its own path, for every key. -/
theorem routes_resolve : ∀ given ∈ [true, false], ∀ route ∈ routes,
    ∀ method ∈ [Method.get, .head, .post, .put, .patch, .delete], route.allows method = true →
      resolve Char.isDigit method (template given route.pattern) routes =
        .yields (route, captured given route.pattern) := by
  decide +kernel

theorem routes_named : ∀ route ∈ routes,
    routes.find? (fun other => other.name = route.name) = some route := by
  decide +kernel

theorem generate_of_named {route : Route} (member : route ∈ routes) (value : List Char) :
    generate route.name (some value) =
      some (String.ofList (fill value (template (value ≠ defaultValue) route.pattern))) := by
  rw [generate, routes_named route member]
  rfl

theorem generate_closed {route : Route} (member : route ∈ routes)
    (closed : .param ∉ route.pattern) :
    generate route.name none = some (String.ofList (fill [] (template false route.pattern))) := by
  rw [generate, routes_named route member]
  exact if_neg closed

theorem matchRoute_fill {route : Route} (member : route ∈ routes) {method : Method}
    (allows : route.allows method = true) (given : Bool) (id : Id) :
    matchRoute method (String.ofList (fill (digits id) (template given route.pattern))) =
      some (route, (captured given route.pattern).map (fill (digits id))) := by
  have tells := resolve_tells (digits_isValue id) method (template given route.pattern) routes
  have verdict := routes_resolve given (by cases given <;> decide) route member method
    (by cases method <;> decide) allows
  rw [verdict] at tells
  rw [matchRoute, String.toList_ofList]
  exact tells

/-- The route has a parameter, with or without a default. -/
def Route.keyed (route : Route) : Bool := .param ∈ route.pattern ∨ .defaultParam ∈ route.pattern

/-- The value a route is given for a key. -/
def Route.valueOf (route : Route) (id : Id) : Option (List Char) :=
  if route.keyed then some (digits id) else none

/-- The key is read off what is captured. -/
theorem routes_captured : ∀ route ∈ routes, route.keyed = true →
    captured true route.pattern = [[.value]] ∧
      (captured false route.pattern = [[.value]] ∨ captured false route.pattern = []) := by
  decide

theorem generate_keyed {route : Route} (member : route ∈ routes) (keyed : route.keyed = true)
    {method : Method} (allows : route.allows method = true) (id : Id) :
    ∃ path args, generate route.name (some (digits id)) = some path ∧
      matchRoute method path = some (route, args) ∧ ∀ rt, idOf rt args = id := by
  refine ⟨_, _, generate_of_named member _,
    matchRoute_fill member allows (digits id ≠ defaultValue) id, fun rt => ?_⟩
  obtain ⟨given, absent⟩ := routes_captured route member keyed
  by_cases zero : digits id = defaultValue
  · simp only [zero, ne_eq, not_true_eq_false, decide_false]
    rcases absent with one | nothing
    · have read : rt.keyOf defaultValue = id := zero ▸ keyOf_digits rt id
      rw [one]
      simpa [idOf] using read
    · rw [nothing]
      exact (digits_eq_default.mp zero).symm
  · simp only [zero, ne_eq, not_false_eq_true, decide_true, given]
    simp [idOf, keyOf_digits]

theorem generate_unkeyed {route : Route} (member : route ∈ routes) (keyed : route.keyed = false)
    {method : Method} (allows : route.allows method = true) :
    ∃ path args, generate route.name none = some path ∧
      matchRoute method path = some (route, args) := by
  have closed : .param ∉ route.pattern := by
    intro inside
    simp [Route.keyed, inside] at keyed
  refine ⟨_, _, ?_, matchRoute_fill member allows false 0⟩
  rw [fill_template closed]
  exact generate_closed member closed

/-- The URL of a route for a key leads back to the route and to the key, whatever other
    routes it could be mistaken for. -/
theorem url_leads_back {route : Route} (member : route ∈ routes) {method : Method}
    (allows : route.allows method = true) (id : Id) :
    ∃ path args, generate route.name (route.valueOf id) = some path ∧
      matchRoute method path = some (route, args) ∧
        (route.keyed = true → ∀ rt, idOf rt args = id) := by
  cases keyed : route.keyed with
  | false =>
      obtain ⟨path, args, there, back⟩ := generate_unkeyed member keyed allows
      refine ⟨path, args, ?_, back, fun impossible => absurd impossible (by decide)⟩
      rw [Route.valueOf, keyed]
      exact there
  | true =>
      obtain ⟨path, args, there, back, key⟩ := generate_keyed member keyed allows id
      refine ⟨path, args, ?_, back, fun _ => key⟩
      rw [Route.valueOf, keyed]
      exact there

theorem url_leads_back_sample :
    ∃ path args, generate "rent_item" (some (digits 12)) = some path ∧
      matchRoute .get path =
        some (⟨"rent_item", [.get], [.text "/rent/".toList, .param], .rentItem⟩, args) ∧
      idOf .sample args = 12 := by
  have declared : (⟨"rent_item", [.get], [.text "/rent/".toList, .param], .rentItem⟩ : Route) ∈
    routes := by decide
  obtain ⟨path, args, there, back, key⟩ :=
    url_leads_back declared (show Route.allows _ .get = true by decide) 12
  exact ⟨path, args, there, back, key rfl .sample⟩

end WuRegalia
