import Mathlib.Data.List.DropRight

/-! # Text fields of one line

What becomes of a text on its way through a text field: a field of one line does not hold
line breaks, and blanks at both ends of what is submitted are dropped. A text that has
been submitted before has no such blanks and loses its line breaks only.
-/

namespace TextField

/-- A separator or a control character: the Unicode categories Z and Cc. -/
def isBlank (c : Char) : Bool :=
  c.toNat ≤ 0x20 || (0x7f ≤ c.toNat && c.toNat ≤ 0xa0) || c.toNat = 0x1680 ||
    (0x2000 ≤ c.toNat && c.toNat ≤ 0x200a) || c.toNat = 0x2028 || c.toNat = 0x2029 ||
    c.toNat = 0x202f || c.toNat = 0x205f || c.toNat = 0x3000

def isBreak (c : Char) : Bool := c = '\n' || c = '\r'

def trim (text : String) : String :=
  String.ofList ((text.toList.dropWhile isBlank).rdropWhile isBlank)

/-- The text without its line breaks. -/
def oneLine (text : String) : String := String.ofList (text.toList.filter fun c => !isBreak c)

/-- There is no blank at either end. -/
def Trimmed (text : String) : Prop :=
  (∀ c ∈ text.toList.head?, isBlank c = false) ∧ ∀ c ∈ text.toList.getLast?, isBlank c = false

instance (text : String) : Decidable (Trimmed text) :=
  decidable_of_iff ((text.toList.head?.all fun c => !isBlank c) = true ∧
    (text.toList.getLast?.all fun c => !isBlank c) = true) (by simp [Trimmed, Option.all_eq_true])

/-- There is no line break in the text. -/
def InOneLine (text : String) : Prop := ∀ c ∈ text.toList, isBreak c = false

instance (text : String) : Decidable (InOneLine text) :=
  decidable_of_iff ((text.toList.all fun c => !isBreak c) = true) (by simp [InOneLine])

theorem isBlank_of_isBreak {c : Char} (breaks : isBreak c = true) : isBlank c = true := by
  simp only [isBreak, Bool.or_eq_true, decide_eq_true_eq] at breaks
  rcases breaks with rfl | rfl <;> decide

/-- Nothing is dropped from a text without blanks at its ends. -/
theorem trim_of_trimmed {text : String} (trimmed : Trimmed text) : trim text = text := by
  have front : text.toList.dropWhile isBlank = text.toList := by
    cases letters : text.toList with
    | nil => rfl
    | cons c rest =>
        have plain := trimmed.1 c (by rw [letters]; rfl)
        rw [List.dropWhile_cons_of_neg (by simp [plain])]
  have back : text.toList.rdropWhile isBlank = text.toList := by
    refine List.rdropWhile_eq_self_iff.mpr fun nonempty => ?_
    have plain := trimmed.2 _ (List.getLast?_eq_some_getLast nonempty)
    simp [plain]
  rw [trim, front, back, String.ofList_toList]

private theorem head_filter {letters : List Char}
    (starts : ∀ c ∈ letters.head?, isBlank c = false) :
    (letters.filter fun c => !isBreak c).head? = letters.head? := by
  cases letters with
  | nil => rfl
  | cons c rest =>
      have plain := starts c rfl
      have kept : isBreak c = false := by
        cases breaks : isBreak c with
        | false => rfl
        | true => exact (isBlank_of_isBreak breaks).symm.trans plain
      rw [List.filter_cons_of_pos (by simp [kept]), List.head?_cons, List.head?_cons]

theorem toList_oneLine (text : String) :
    (oneLine text).toList = text.toList.filter fun c => !isBreak c := by
  rw [oneLine, String.toList_ofList]

/-- The first and the last character are no line breaks, and stay. -/
theorem Trimmed.ends {text : String} (trimmed : Trimmed text) :
    (oneLine text).toList.head? = text.toList.head? ∧
      (oneLine text).toList.getLast? = text.toList.getLast? := by
  refine ⟨?_, ?_⟩
  · rw [toList_oneLine, head_filter trimmed.1]
  · have ends : ∀ c ∈ text.toList.reverse.head?, isBlank c = false := by
      rw [List.head?_reverse]
      exact trimmed.2
    rw [toList_oneLine, ← List.head?_reverse, ← List.filter_reverse, head_filter ends,
      List.head?_reverse]

theorem Trimmed.oneLine {text : String} (trimmed : Trimmed text) : Trimmed (oneLine text) := by
  obtain ⟨first, last⟩ := trimmed.ends
  unfold Trimmed
  rw [first, last]
  exact trimmed

/-- A text that has been submitted before only loses its line breaks. -/
theorem Trimmed.sent {text : String} (trimmed : Trimmed text) :
    trim (TextField.oneLine text) = TextField.oneLine text :=
  trim_of_trimmed trimmed.oneLine

theorem Trimmed.oneLine_ne_empty {text : String} (trimmed : Trimmed text) (nonempty : text ≠ "") :
    TextField.oneLine text ≠ "" := by
  intro empty
  have first := trimmed.ends.1
  rw [empty] at first
  have none : text.toList = [] := List.head?_eq_none_iff.mp first.symm
  exact nonempty (String.toList_eq_nil_iff.mp none)

theorem length_oneLine (text : String) : (oneLine text).length ≤ text.length := by
  rw [← String.length_toList, ← String.length_toList, toList_oneLine]
  exact List.length_filter_le _ _

theorem oneLine_eq_iff {text : String} : oneLine text = text ↔ InOneLine text := by
  rw [← String.toList_inj, toList_oneLine, List.filter_eq_self]
  simp only [Bool.not_eq_true', InOneLine]

end TextField
