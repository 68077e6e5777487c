import WuRegalia.Library.PathPattern

/-! # Generated paths

The path a pattern stands for has a hole where the value of its parameter goes. What
another pattern captures from such a path can be found out before the value is there: the
match fails, or yields what it captures with the same hole in it, or depends on the value.
All that is known of the values is which characters they are made of.
-/

namespace PathPattern

/-- A character of a path, or the place of the value. -/
inductive Symbol where
  | lit (c : Char)
  | value
  deriving DecidableEq, Repr

def Symbol.chars (value : List Char) : Symbol → List Char
  | .lit c => [c]
  | .value => value

/-- The path with the value in its place. -/
def fill (value : List Char) (path : List Symbol) : List Char := path.flatMap (Symbol.chars value)

/-- The path of a pattern. A last parameter that is not given is left out with its slash. -/
def template (given : Bool) : List Piece → List Symbol
  | [] => []
  | .text s :: rest => s.map .lit ++ template given rest
  | .param :: rest => .value :: template given rest
  | .defaultParam :: rest =>
      if given then .lit '/' :: .value :: template given rest else template given rest

/-- What is known of a result before the value is. -/
inductive Verdict (α : Type) where
  | fails
  | depends
  | yields (result : α)
  deriving DecidableEq, Repr

namespace Verdict

variable {α β : Type}

def bind (verdict : Verdict α) (f : α → Verdict β) : Verdict β :=
  match verdict with
  | .fails => .fails
  | .depends => .depends
  | .yields result => f result

/-- The verdict is right about a result. -/
def Tells (f : α → β) (verdict : Verdict α) (result : Option β) : Prop :=
  match verdict with
  | .fails => result = none
  | .depends => True
  | .yields a => result = some (f a)

end Verdict

def stripSymbols (allowed : Char → Bool) : List Char → List Symbol → Verdict (List Symbol)
  | [], path => .yields path
  | _ :: _, [] => .fails
  | c :: text, .lit d :: path => if c = d then stripSymbols allowed text path else .fails
  | c :: _, .value :: _ => if allowed c then .depends else .fails

def symbolSegment (path : List Symbol) : List Symbol := path.takeWhile (· ≠ .lit '/')

def afterSymbolSegment (path : List Symbol) : List Symbol := path.dropWhile (· ≠ .lit '/')

/-- `capture` on a path whose value is still to come. -/
def captureSymbols (allowed : Char → Bool) :
    List Piece → List Symbol → Verdict (List (List Symbol))
  | [], [] => .yields []
  | [], _ :: _ => .fails
  | .text s :: rest, path => (stripSymbols allowed s path).bind (captureSymbols allowed rest)
  | .param :: rest, path =>
      if symbolSegment path = [] then .fails
      else (captureSymbols allowed rest (afterSymbolSegment path)).bind
        fun args => .yields (symbolSegment path :: args)
  | .defaultParam :: rest, path =>
      match path with
      | [] => captureSymbols allowed rest []
      | .lit '/' :: path =>
          if symbolSegment path = [] then .fails
          else (captureSymbols allowed rest (afterSymbolSegment path)).bind
            fun args => .yields (symbolSegment path :: args)
      | _ :: _ => .fails

/-- The values that are made of the allowed characters. -/
structure IsValue (allowed : Char → Bool) (value : List Char) : Prop where
  nonempty : value ≠ []
  made : ∀ c ∈ value, allowed c = true
  noSlash : allowed '/' = false

section Sound

variable {allowed : Char → Bool} {value : List Char}

@[simp] theorem fill_nil : fill value [] = [] := rfl

@[simp] theorem fill_lit (c : Char) (path : List Symbol) :
    fill value (.lit c :: path) = c :: fill value path := rfl

@[simp] theorem fill_value (path : List Symbol) :
    fill value (.value :: path) = value ++ fill value path := rfl

theorem fill_append (path rest : List Symbol) :
    fill value (path ++ rest) = fill value path ++ fill value rest :=
  List.flatMap_append

@[simp] theorem fill_map_lit (s : List Char) : fill value (s.map .lit) = s := by
  induction s with
  | nil => rfl
  | cons c text ih => exact congrArg (c :: ·) ih

/-- A path without a parameter is the same for every value. -/
theorem fill_template {pattern : List Piece} (closed : .param ∉ pattern) :
    fill value (template false pattern) = fill [] (template false pattern) := by
  induction pattern with
  | nil => rfl
  | cons piece rest ih =>
      have rests := ih fun member => closed (List.mem_cons_of_mem _ member)
      cases piece with
      | text s => simp only [template, fill_append, fill_map_lit, rests]
      | param => exact absurd List.mem_cons_self closed
      | defaultParam => exact rests

theorem IsValue.ne_slash (good : IsValue allowed value) {c : Char} (member : c ∈ value) :
    c ≠ '/' := by
  rintro rfl
  have slash := good.made _ member
  rw [good.noSlash] at slash
  cases slash

/-- A value starts with an allowed character. -/
theorem IsValue.cons (good : IsValue allowed value) :
    ∃ c rest, value = c :: rest ∧ allowed c = true := by
  obtain ⟨c, rest, rfl⟩ := List.exists_cons_of_ne_nil good.nonempty
  exact ⟨c, rest, rfl, good.made c List.mem_cons_self⟩

theorem strip_tells (good : IsValue allowed value) (s : List Char) (path : List Symbol) :
    (stripSymbols allowed s path).Tells (fill value) (stripText s (fill value path)) := by
  induction s generalizing path with
  | nil => rfl
  | cons c text ih =>
      cases path with
      | nil => rfl
      | cons symbol path =>
          cases symbol with
          | lit d =>
              simp only [stripSymbols, fill_lit, stripText]
              split
              · exact ih path
              · rfl
          | value =>
              obtain ⟨d, rest, rfl, ok⟩ := good.cons
              simp only [stripSymbols, fill_value, List.cons_append, stripText]
              split
              · trivial
              · rename_i other
                have differs : c ≠ d := fun same => other (same ▸ ok)
                rw [if_neg differs]
                rfl

theorem segment_fill (good : IsValue allowed value) (path : List Symbol) :
    segment (fill value path) = fill value (symbolSegment path) ∧
      afterSegment (fill value path) = fill value (afterSymbolSegment path) := by
  induction path with
  | nil => exact ⟨rfl, rfl⟩
  | cons symbol path ih =>
      obtain ⟨front, back⟩ := ih
      unfold segment symbolSegment at front
      unfold afterSegment afterSymbolSegment at back
      cases symbol with
      | lit c =>
          by_cases slash : c = '/'
          · subst slash
            exact ⟨rfl, rfl⟩
          · simpa [segment, symbolSegment, afterSegment, afterSymbolSegment, slash] using
              And.intro front back
      | value =>
          have inside : ∀ c ∈ value, (decide (c ≠ '/')) = true :=
            fun c member => decide_eq_true (good.ne_slash member)
          simp only [segment, symbolSegment, afterSegment, afterSymbolSegment, fill_value,
            List.takeWhile_append_of_pos inside, List.dropWhile_append_of_pos inside, front, back]
          simp

theorem fill_eq_nil (good : IsValue allowed value) {path : List Symbol} :
    fill value path = [] ↔ path = [] := by
  cases path with
  | nil => simp
  | cons symbol path =>
      cases symbol with
      | lit c => simp
      | value => simp [good.nonempty]

theorem bind_tells {α β γ δ : Type} {f : α → γ} {g : β → δ} {verdict : Verdict α}
    {result : Option γ} {next : α → Verdict β} {then_ : γ → Option δ}
    (tells : verdict.Tells f result) (later : ∀ a, (next a).Tells g (then_ (f a))) :
    (verdict.bind next).Tells g (result.bind then_) := by
  cases verdict with
  | fails =>
      obtain rfl : result = none := tells
      rfl
  | depends => trivial
  | yields a =>
      obtain rfl : result = some (f a) := tells
      exact later a

/-- What is found out without the value is right for every value. -/
theorem capture_tells (good : IsValue allowed value) (pattern : List Piece) (path : List Symbol) :
    (captureSymbols allowed pattern path).Tells (List.map (fill value))
      (capture pattern (fill value path)) := by
  -- a parameter takes the segment that is there
  have taken : ∀ rest path, (∀ path, (captureSymbols allowed rest path).Tells
      (List.map (fill value)) (capture rest (fill value path))) →
      (if symbolSegment path = [] then Verdict.fails
        else (captureSymbols allowed rest (afterSymbolSegment path)).bind
          fun args => .yields (symbolSegment path :: args)).Tells (List.map (fill value))
        (if segment (fill value path) = [] then none
          else (capture rest (afterSegment (fill value path))).map
            (segment (fill value path) :: ·)) := by
    intro rest path ih
    obtain ⟨front, back⟩ := segment_fill good path
    simp only [front, back, fill_eq_nil good]
    split
    · rfl
    · rw [Option.map_eq_bind]
      exact bind_tells (ih _) fun args => rfl
  induction pattern generalizing path with
  | nil =>
      cases path with
      | nil => rfl
      | cons symbol path =>
          have nonempty : fill value (symbol :: path) ≠ [] := by simp [fill_eq_nil good]
          obtain ⟨c, rest, filled⟩ := List.exists_cons_of_ne_nil nonempty
          rw [filled]
          rfl
  | cons piece rest ih =>
      cases piece with
      | text s =>
          have both : capture (.text s :: rest) (fill value path) =
              (stripText s (fill value path)).bind (capture rest) := by
            simp only [capture]
            cases stripText s (fill value path) <;> rfl
          rw [both]
          exact bind_tells (strip_tells good s path) ih
      | param => exact taken rest path ih
      | defaultParam =>
          cases path with
          | nil => exact ih []
          | cons symbol path =>
              cases symbol with
              | lit c =>
                  by_cases slash : c = '/'
                  · subst slash
                    exact taken rest path ih
                  · simp [captureSymbols, capture, slash, Verdict.Tells]
              | value =>
                  obtain ⟨c, tail, rfl, -⟩ := good.cons
                  have slash : c ≠ '/' := good.ne_slash List.mem_cons_self
                  simp [captureSymbols, capture, Verdict.Tells]

end Sound

end PathPattern
