import Mathlib.Data.List.Infix

/-! # Splitting strings at a delimiter

`explode` cuts a string at every occurrence of a delimiter, found from left to
right without overlaps. There is always at least one part.
-/

namespace Explode

/-- The parts of `s`, where `part` has been read (in reverse) of the current one
    and `skip` characters of a delimiter are still to be passed over. -/
def parts (delimiter : List Char) : Nat → List Char → List Char → List (List Char)
  | _, part, [] => [part.reverse]
  | skip + 1, part, _ :: s => parts delimiter skip part s
  | 0, part, c :: s =>
      if delimiter <+: c :: s then part.reverse :: parts delimiter (delimiter.length - 1) [] s
      else parts delimiter 0 (c :: part) s

def explode (delimiter s : String) : List String :=
  (parts delimiter.toList 0 [] s.toList).map String.ofList

theorem parts_ne_nil (delimiter : List Char) (skip : Nat) (part s : List Char) :
    parts delimiter skip part s ≠ [] := by
  fun_induction parts delimiter skip part s with
  | case1 => simp
  | case2 skip part c s ih => exact ih
  | case3 => simp
  | case4 part c s apart ih => exact ih

theorem explode_ne_nil (delimiter s : String) : explode delimiter s ≠ [] := by
  simp [explode, parts_ne_nil]

/-- One character cuts a string exactly where it occurs. -/
theorem one_lt_length_parts (c : Char) (part s : List Char) :
    1 < (parts [c] 0 part s).length ↔ c ∈ s := by
  induction s generalizing part with
  | nil => simp [parts]
  | cons d s ih =>
      by_cases here : c = d
      · subst here
        have rest := List.length_pos_iff.mpr (parts_ne_nil [c] 0 [] s)
        simp [parts, rest]
      · simp [parts, here, ih]

theorem one_lt_length_explode (c : Char) (s : String) :
    1 < (explode (String.singleton c) s).length ↔ c ∈ s.toList := by
  simp [explode, one_lt_length_parts]

example : explode ", " "Smith, Ann Marie" = ["Smith", "Ann Marie"] := by decide

/-- No two occurrences overlap: a suffix that is also a prefix is empty or all of it. -/
def Unbordered (delimiter : List Char) : Prop :=
  ∀ tail ∈ delimiter.tails, tail <+: delimiter → tail = [] ∨ tail = delimiter

instance (delimiter : List Char) : Decidable (Unbordered delimiter) :=
  inferInstanceAs (Decidable (∀ _ ∈ _, _ → _))

theorem parts_of_absent {delimiter s : List Char} (absent : ¬ delimiter <:+: s) (part : List Char) :
    parts delimiter 0 part s = [part.reverse ++ s] := by
  induction s generalizing part with
  | nil => simp [parts]
  | cons c s ih =>
      have apart : ¬ delimiter <+: c :: s := fun here => absent here.isInfix
      have later : ¬ delimiter <:+: s := fun inside => absent (List.infix_cons inside)
      rw [parts, if_neg apart, ih later]
      simp

/-- The rest of a delimiter is passed over. -/
theorem parts_skip (delimiter rest s : List Char) :
    parts delimiter rest.length [] (rest ++ s) = parts delimiter 0 [] s := by
  induction rest with
  | nil => rfl
  | cons c rest ih => simpa [parts] using ih

/-- A delimiter behind a text it does not occur in does not begin inside the text. -/
theorem not_prefix_append {delimiter text rest : List Char} (unbordered : Unbordered delimiter)
    (absent : ¬ delimiter <:+: text) (nonempty : text ≠ []) :
    ¬ delimiter <+: text ++ (delimiter ++ rest) := by
  intro early
  rcases List.prefix_or_prefix_of_prefix early (List.prefix_append text _) with inside | beyond
  · exact absent inside.isInfix
  · -- the delimiter is the text and a proper tail of itself, which begins it again
    obtain ⟨tail, split⟩ := beyond
    have again : tail <+: delimiter ++ rest := by
      rw [← split, List.prefix_append_right_inj] at early
      rwa [split] at early
    have shorter : tail.length ≤ delimiter.length := by
      rw [← split, List.length_append]
      omega
    have border : tail <+: delimiter :=
      List.prefix_of_prefix_length_le again (List.prefix_append _ _) shorter
    have suffixed : tail ∈ delimiter.tails := (List.mem_tails _ _).mpr ⟨text, split⟩
    cases unbordered tail suffixed border with
    | inl none =>
        rw [none, List.append_nil] at split
        exact absent (split ▸ List.infix_refl text)
    | inr whole =>
        rw [whole] at split
        exact nonempty (List.append_left_eq_self.mp split)

theorem parts_append {delimiter text : List Char} (unbordered : Unbordered delimiter)
    (absent : ¬ delimiter <:+: text) (part rest : List Char) :
    parts delimiter 0 part (text ++ (delimiter ++ rest)) =
      (part.reverse ++ text) :: parts delimiter 0 [] rest := by
  induction text generalizing part with
  | nil =>
      cases delimiter with
      | nil => exact absurd (List.infix_refl []) absent
      | cons c delimiter =>
          have here : c :: delimiter <+: c :: (delimiter ++ rest) :=
            List.prefix_append (c :: delimiter) rest
          simp only [List.nil_append, List.cons_append, parts, if_pos here, List.length_cons,
            Nat.add_sub_cancel, parts_skip, List.append_nil]
  | cons c text ih =>
      have apart : ¬ delimiter <+: c :: text ++ (delimiter ++ rest) :=
        not_prefix_append unbordered absent (List.cons_ne_nil c text)
      have later : ¬ delimiter <:+: text := fun inside => absent (List.infix_cons inside)
      rw [List.cons_append] at apart ⊢
      rw [parts, if_neg apart, ih later]
      simp

/-- The delimiter stands somewhere in the string. -/
def Occurs (delimiter s : String) : Prop := delimiter.toList <:+: s.toList

instance (delimiter s : String) : Decidable (Occurs delimiter s) :=
  inferInstanceAs (Decidable (_ <:+: _))

theorem explode_of_absent {delimiter s : String} (absent : ¬ Occurs delimiter s) :
    explode delimiter s = [s] := by
  simp [explode, parts_of_absent absent]

theorem explode_append {delimiter text : String} (unbordered : Unbordered delimiter.toList)
    (absent : ¬ Occurs delimiter text) (rest : String) :
    explode delimiter (text ++ delimiter ++ rest) = text :: explode delimiter rest := by
  simp [explode, parts_append unbordered absent]

end Explode
