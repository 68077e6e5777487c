import Mathlib.Data.List.Basic

/-! # Path patterns

Patterns of literal text and parameters, as URL routers compile them. A
parameter takes everything up to the next slash and at least one character.
What an ordered list of prefix rules says about a path can be read off the
leading text of the pattern it matched, as long as that text settles every
prefix: `isPrefix_of_capture`.
-/

namespace PathPattern

inductive Piece where
  | text (s : List Char)
  | param
  /-- A last `/{name}` whose parameter has a default, so that it may be absent. -/
  | defaultParam
  deriving DecidableEq, Repr

/-- Drop a literal text from the front. -/
def stripText : List Char → List Char → Option (List Char)
  | [], path => some path
  | _ :: _, [] => none
  | c :: text, d :: path => if c = d then stripText text path else none

def segment (path : List Char) : List Char := path.takeWhile (· ≠ '/')

def afterSegment (path : List Char) : List Char := path.dropWhile (· ≠ '/')

/-- The values of the parameters when the whole path matches. -/
def capture : List Piece → List Char → Option (List (List Char))
  | [], [] => some []
  | [], _ :: _ => none
  | .text s :: rest, path =>
      match stripText s path with
      | some left => capture rest left
      | none => none
  | .param :: rest, path =>
      if segment path = [] then none
      else (capture rest (afterSegment path)).map (segment path :: ·)
  | .defaultParam :: rest, path =>
      match path with
      | [] => capture rest []
      | '/' :: path =>
          if segment path = [] then none
          else (capture rest (afterSegment path)).map (segment path :: ·)
      | _ :: _ => none

/-- The literal text a pattern starts with. -/
def leading : List Piece → List Char
  | .text s :: _ => s
  | _ => []

/-- Whether the leading text alone tells if a matching path has the prefix. -/
def Settles (pattern : List Piece) (start : List Char) : Prop :=
  pattern = [.text (leading pattern)] ∨ start <+: leading pattern ∨ ¬ leading pattern <+: start

instance (pattern : List Piece) (start : List Char) : Decidable (Settles pattern start) :=
  inferInstanceAs (Decidable (_ ∨ _ ∨ _))

theorem stripText_eq_some {s path left : List Char} :
    stripText s path = some left ↔ path = s ++ left := by
  induction s generalizing path with
  | nil => simp [stripText]
  | cons c text ih =>
      cases path with
      | nil => simp [stripText]
      | cons d path =>
          by_cases same : c = d
          · simp [stripText, same, ih]
          · simp [stripText, same, Ne.symm same]

theorem leading_isPrefix {pattern : List Piece} {path : List Char} {args : List (List Char)}
    (captured : capture pattern path = some args) : leading pattern <+: path := by
  cases pattern with
  | nil => exact List.nil_prefix
  | cons piece rest =>
      cases piece with
      | param | defaultParam => exact List.nil_prefix
      | text s =>
          cases stripped : stripText s path with
          | none => simp [capture, stripped] at captured
          | some left => exact ⟨left, (stripText_eq_some.mp stripped).symm⟩

theorem eq_of_capture_text {s path : List Char} {args : List (List Char)}
    (captured : capture [.text s] path = some args) : path = s := by
  cases stripped : stripText s path with
  | none => simp [capture, stripped] at captured
  | some left =>
      cases left with
      | nil => simpa using stripText_eq_some.mp stripped
      | cons c left => simp [capture, stripped] at captured

/-- A path that matched a pattern has a settled prefix exactly if the pattern's
    leading text has it. -/
theorem isPrefix_of_capture {pattern : List Piece} {path start : List Char}
    {args : List (List Char)} (captured : capture pattern path = some args)
    (settles : Settles pattern start) : start <+: path ↔ start <+: leading pattern := by
  rcases settles with literal | inside | apart
  · rw [literal] at captured
    rw [eq_of_capture_text captured]
  · exact ⟨fun _ => inside, fun _ => inside.trans (leading_isPrefix captured)⟩
  · constructor
    · intro starts
      rcases List.prefix_or_prefix_of_prefix starts (leading_isPrefix captured) with short | long
      · exact short
      · exact absurd long apart
    · exact fun starts => starts.trans (leading_isPrefix captured)

end PathPattern
