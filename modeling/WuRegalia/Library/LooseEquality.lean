import Mathlib.Data.Int.Log
import Mathlib.Data.Rat.Floor

/-! # Loose equality of strings

PHP's `==` on two strings. When both are numeric, the numbers are compared:
64-bit integers, or doubles where a point, an exponent or the size asks for one.
Otherwise the strings are. Blanks may lead a numeric string, not follow it.
-/

namespace LooseEquality

/-- What the versions differ in. Up to 5.6 an unsigned string `0x…` is numeric; from
    5.4.4 on, integers too large for 64 bits are not taken for equal because they
    are the same double. -/
structure Version where
  hexadecimal : Bool
  marksOverflow : Bool
  deriving DecidableEq, Repr

/-- 7.0. -/
def Version.seven : Version := ⟨false, true⟩

/-- A double by the number it stands for; the two zeros are equal. -/
inductive Double where
  | finite (value : ℚ)
  | infinite (negative : Bool)
  deriving DecidableEq, Repr

def Double.isInfinite : Double → Bool
  | .finite _ => false
  | .infinite _ => true

/-- To the nearest integer, from the middle to the even one. -/
def roundEven (q : ℚ) : Int :=
  let low := ⌊q⌋
  if q - low < 1 / 2 then low
  else if 1 / 2 < q - low then low + 1
  else low + low % 2

/-- The nearest double: 53 significant bits, the last one worth at least `2 ^ -1074`. -/
def nearest (q : ℚ) : Double :=
  let unit : ℚ := 2 ^ max (Int.log 2 |q| - 52) (-1074)
  let value := roundEven (q / unit) * unit
  if |value| < 2 ^ 1024 then .finite value else .infinite (value < 0)

/-- The number a numeric string stands for. A double also tells whether an integer
    part was too large for 64 bits: its sign, and 0 when it was not. -/
inductive Number where
  | integer (value : Int)
  | double (value : Double) (overflow : Int)
  deriving DecidableEq, Repr

def isSpace (c : Char) : Bool := c ∈ [' ', '\t', '\n', '\r', '\x0b', '\x0c']

def digitValue (c : Char) : Nat :=
  if c.isDigit then c.toNat - '0'.toNat
  else if c.isLower then c.toNat - 'a'.toNat + 10
  else c.toNat - 'A'.toNat + 10

def natural (base : Nat) (digits : List Char) : Nat :=
  digits.foldl (fun n c => n * base + digitValue c) 0

/-- An optional sign, as whether it is a minus, and the rest. -/
def sign : List Char → Bool × List Char
  | '-' :: s => (true, s)
  | '+' :: s => (false, s)
  | s => (false, s)

def signed (negative : Bool) (n : Nat) : Int := if negative then -n else n

/-- The digits behind a point, when there is a point, and the rest. -/
def fraction : List Char → Option (List Char) × List Char
  | '.' :: s => (some (s.span Char.isDigit).1, (s.span Char.isDigit).2)
  | s => (none, s)

/-- The number behind an `e`, when there is one, and the rest. -/
def exponent : List Char → Option Int × List Char
  | [] => (none, [])
  | c :: s =>
      let (negative, unsigned) := sign s
      let (digits, rest) := unsigned.span Char.isDigit
      if (c = 'e' ∨ c = 'E') ∧ digits ≠ [] then (some (signed negative (natural 10 digits)), rest)
      else (none, c :: s)

def fits (n : Int) : Bool := -2 ^ 63 ≤ n && n < 2 ^ 63

def decimal (s : List Char) : Option Number :=
  let (negative, s) := sign s
  let (whole, s) := s.span Char.isDigit
  let (point, s) := fraction s
  let (power, s) := exponent s
  let digits := whole ++ point.getD []
  if digits = [] ∨ s ≠ [] then none
  else
    let mantissa := signed negative (natural 10 digits)
    if point.isNone ∧ power.isNone ∧ fits mantissa then some (.integer mantissa)
    else
      let scale : ℚ := 10 ^ (power.getD 0 - (point.getD []).length)
      -- twenty digits are too many for 64 bits, whatever follows them
      let long := 20 ≤ (whole.dropWhile (· = '0')).length ∨ point.isNone ∧ power.isNone
      some (.double (nearest (mantissa * scale)) (if long then signed negative 1 else 0))

def isHexDigit (c : Char) : Bool := c.isDigit || 'a' ≤ c && c ≤ 'f' || 'A' ≤ c && c ≤ 'F'

/-- A large number is rounded after every digit. -/
def hexDouble (digits : List Char) : Double :=
  digits.foldl (fun read c => match read with
    | .finite value => nearest (value * 16 + digitValue c)
    | .infinite negative => .infinite negative) (.finite 0)

def hex : List Char → Option Number
  | '0' :: x :: digits =>
      if (x = 'x' ∨ x = 'X') ∧ digits ≠ [] ∧ digits.all isHexDigit then
        if fits (natural 16 digits) then some (.integer (natural 16 digits))
        else some (.double (hexDouble digits) 1)
      else none
  | _ => none

/-- The number a string stands for, when it is numeric. -/
def number (v : Version) (s : String) : Option Number :=
  let s := s.toList.dropWhile isSpace
  if v.hexadecimal then (hex s).or (decimal s) else decimal s

/-- Whether two numbers are equal; `none` when it is left to their strings. -/
def sameNumber (v : Version) : Number → Number → Option Bool
  | .integer a, .integer b => some (a = b)
  | .integer a, .double y overflow =>
      some (!(v.marksOverflow && overflow ≠ 0) && nearest a = y)
  | .double x overflow, .integer b =>
      some (!(v.marksOverflow && overflow ≠ 0) && x = nearest b)
  | .double x overflow, .double y other =>
      if x = y ∧ (v.marksOverflow ∧ overflow ≠ 0 ∧ overflow = other ∨ x.isInfinite) then none
      else some (x = y)

def looseEquals (v : Version) (a b : String) : Bool :=
  match number v a, number v b with
  | some x, some y => (sameNumber v x y).getD (a == b)
  | _, _ => a == b

/-- Both strings are numeric, and their numbers are equal. -/
def SameNumber (v : Version) (a b : String) : Prop :=
  ∃ x ∈ number v a, ∃ y ∈ number v b, sameNumber v x y = some true

instance (v : Version) (a b : String) : Decidable (SameNumber v a b) :=
  inferInstanceAs (Decidable (∃ _ ∈ _, ∃ _ ∈ _, _))

/-- No number differs from itself. -/
theorem sameNumber_self (v : Version) (x : Number) :
    sameNumber v x x = some true ∨ sameNumber v x x = none := by
  cases x with
  | integer a => simp [sameNumber]
  | double x overflow =>
      simp only [sameNumber]
      split
      · exact .inr rfl
      · simp

theorem looseEquals_self (v : Version) (a : String) : looseEquals v a a = true := by
  unfold looseEquals
  cases number v a with
  | none => simp
  | some x =>
      rcases sameNumber_self v x with same | left
      · simp [same]
      · simp [left]

/-- Different strings are equal on account of their numbers only. -/
theorem looseEquals_iff {v : Version} {a b : String} :
    looseEquals v a b = true ↔ a = b ∨ SameNumber v a b := by
  by_cases same : a = b
  · subst same
    exact iff_of_true (looseEquals_self v a) (.inl rfl)
  · have apart : (a == b) = false := by simpa using same
    rw [or_iff_right same]
    unfold looseEquals SameNumber
    cases number v a with
    | none => simp [apart]
    | some x =>
        cases number v b with
        | none => simp [apart]
        | some y =>
            simp only [Option.mem_some_iff, exists_eq_left']
            cases sameNumber v x y <;> simp [apart]

example : looseEquals .seven "1e1" "10" = true := by decide +kernel

end LooseEquality
