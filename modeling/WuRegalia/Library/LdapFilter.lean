import Mathlib.Data.List.TakeWhile

/-! # Directory search filters

The string form of the filters a directory is searched with: conjunctions,
disjunctions and negations in parentheses over comparisons and patterns. Octets that
mean something to the parser are written as a backslash and two hexadecimal digits.
What is printed is parsed back: `parse_print`. Extensible matches are left out.
-/

namespace LdapFilter

abbrev Octets := List UInt8

def nul : UInt8 := 0x00
def lparen : UInt8 := 0x28
def rparen : UInt8 := 0x29
def star : UInt8 := 0x2a
def backslash : UInt8 := 0x5c

inductive Comparison where
  | equal | approximate | greaterOrEqual | lessOrEqual
  deriving DecidableEq, Repr

def Comparison.print : Comparison → Octets
  | .equal => [0x3d]
  | .approximate => [0x7e, 0x3d]
  | .greaterOrEqual => [0x3e, 0x3d]
  | .lessOrEqual => [0x3c, 0x3d]

/-- Letters, digits, `-`, `.` and `;`. -/
def isDescriptive (c : UInt8) : Bool :=
  (0x41 ≤ c && c ≤ 0x5a) || (0x61 ≤ c && c ≤ 0x7a) || (0x30 ≤ c && c ≤ 0x39) ||
    c ∈ ([0x2d, 0x2e, 0x3b] : Octets)

/-- The description of an attribute. -/
@[ext] structure Description where
  octets : Octets
  nonempty : octets ≠ []
  made : ∀ c ∈ octets, isDescriptive c = true
  deriving DecidableEq

inductive Item where
  | compare (description : Description) (comparison : Comparison) (value : Octets)
  /-- The value starts with `initial`, ends with `final` and has the rest in between, in
      this order. With nothing given the attribute is only there. -/
  | pattern (description : Description) (initial : Octets) (middle : List Octets) (final : Octets)
  deriving DecidableEq

mutual

inductive Filter where
  | item (item : Item)
  | all (filters : Filters)
  | any (filters : Filters)
  | not (filter : Filter)

inductive Filters where
  | nil
  | cons (filter : Filter) (rest : Filters)

end

mutual

/-- Whether an entry is found, given which items hold of it. -/
def Filter.eval (holds : Item → Bool) : Filter → Bool
  | .item item => holds item
  | .all filters => filters.all holds
  | .any filters => filters.any holds
  | .not filter => !filter.eval holds

def Filters.all (holds : Item → Bool) : Filters → Bool
  | .nil => true
  | .cons filter rest => filter.eval holds && rest.all holds

def Filters.any (holds : Item → Bool) : Filters → Bool
  | .nil => false
  | .cons filter rest => filter.eval holds || rest.any holds

end

/-- The octets that are not written as they are. -/
def special : Octets := [nul, lparen, rparen, star, backslash]

def hexDigit (n : UInt8) : UInt8 := if n < 10 then 0x30 + n else 0x57 + n

def encodeOctet (c : UInt8) : Octets :=
  if c ∈ special then [backslash, hexDigit (c / 16), hexDigit (c % 16)] else [c]

def encode (value : Octets) : Octets := value.flatMap encodeOctet

/-- Values with a star between each two. -/
def printParts : List Octets → Octets
  | [] => []
  | [value] => encode value
  | value :: rest => encode value ++ star :: printParts rest

def Item.print : Item → Octets
  | .compare description comparison value => description.octets ++ comparison.print ++ encode value
  | .pattern description initial middle final =>
      description.octets ++ Comparison.equal.print ++ printParts (initial :: middle ++ [final])

mutual

def Filter.print : Filter → Octets
  | .item item => lparen :: (item.print ++ [rparen])
  | .all filters => lparen :: 0x26 :: (filters.print ++ [rparen])
  | .any filters => lparen :: 0x7c :: (filters.print ++ [rparen])
  | .not filter => lparen :: 0x21 :: (filter.print ++ [rparen])

def Filters.print : Filters → Octets
  | .nil => []
  | .cons filter rest => filter.print ++ rest.print

end

def hexValue (c : UInt8) : Option UInt8 :=
  if 0x30 ≤ c ∧ c ≤ 0x39 then some (c - 0x30)
  else if 0x61 ≤ c ∧ c ≤ 0x66 then some (c - 0x57)
  else if 0x41 ≤ c ∧ c ≤ 0x46 then some (c - 0x37)
  else none

def hexOctet (high low : UInt8) : Option UInt8 :=
  match hexValue high, hexValue low with
  | some high, some low => some (16 * high + low)
  | _, _ => none

/-- A value cut at its stars, and what follows its closing parenthesis. -/
structure Parts where
  first : Octets
  more : List Octets
  rest : Octets
  deriving DecidableEq

/-- Put octets in front. -/
def Parts.prepend (value : Octets) (read : Parts) : Parts :=
  { read with first := value ++ read.first }

/-- The parts of a value up to its closing parenthesis. -/
def readParts : Octets → Option Parts
  | [] => none
  | c :: text =>
      if c = rparen then some ⟨[], [], text⟩
      else if c = star then (readParts text).map fun read => ⟨[], read.first :: read.more, read.rest⟩
      else if c = backslash then
        match text with
        | high :: low :: text =>
            (hexOctet high low).bind fun c => (readParts text).map (.prepend [c])
        | _ => none
      else if c = lparen ∨ c = nul then none
      else (readParts text).map (.prepend [c])

def readComparison : Octets → Option (Comparison × Octets)
  | 0x3d :: rest => some (.equal, rest)
  | 0x7e :: 0x3d :: rest => some (.approximate, rest)
  | 0x3e :: 0x3d :: rest => some (.greaterOrEqual, rest)
  | 0x3c :: 0x3d :: rest => some (.lessOrEqual, rest)
  | _ => none

/-- What a comparison with a value cut at its stars means; they are for equality only. -/
def assemble (description : Description) : Comparison → Octets → List Octets → Option Item
  | comparison, value, [] => some (.compare description comparison value)
  | .equal, initial, next :: more =>
      some (.pattern description initial (next :: more).dropLast
        ((next :: more).getLast (List.cons_ne_nil next more)))
  | _, _, _ => none

def readDescription (text : Octets) : Option (Description × Octets) :=
  if nonempty : text.takeWhile isDescriptive ≠ [] then
    some (⟨_, nonempty, fun _ => List.mem_takeWhile_imp⟩, text.dropWhile isDescriptive)
  else none

def parseItem (text : Octets) : Option (Item × Octets) :=
  (readDescription text).bind fun described =>
    (readComparison described.2).bind fun compared =>
      (readParts compared.2).bind fun value =>
        (assemble described.1 compared.1 value.first value.more).map fun item => (item, value.rest)

/-- The closing parenthesis. -/
def close (filter : Filter) : Octets → Option (Filter × Octets)
  | c :: rest => if c = rparen then some (filter, rest) else none
  | [] => none

mutual

def parseFilter : Nat → Octets → Option (Filter × Octets)
  | fuel + 1, c :: text =>
      if c = lparen then
        match text with
        | 0x26 :: rest => (parseFilters fuel rest).bind fun read => close (.all read.1) read.2
        | 0x7c :: rest => (parseFilters fuel rest).bind fun read => close (.any read.1) read.2
        | 0x21 :: rest => (parseFilter fuel rest).bind fun read => close (.not read.1) read.2
        | _ => (parseItem text).map fun read => (.item read.1, read.2)
      else none
  | _, _ => none

def parseFilters : Nat → Octets → Option (Filters × Octets)
  | 0, _ => none
  | fuel + 1, text =>
      if text.head? = some lparen then
        (parseFilter fuel text).bind fun read =>
          (parseFilters fuel read.2).map fun later => (.cons read.1 later.1, later.2)
      else some (.nil, text)

end

/-- The filter a text stands for, when it stands for one. -/
def parse (text : Octets) : Option Filter :=
  match parseFilter text.length text with
  | some (filter, []) => some filter
  | _ => none

theorem encode_append (value rest : Octets) : encode (value ++ rest) = encode value ++ encode rest :=
  List.flatMap_append

theorem encode_ordinary {value : Octets} (ordinary : ∀ c ∈ value, c ∉ special) :
    encode value = value := by
  induction value with
  | nil => rfl
  | cons c value ih =>
      have rest := ih fun d member => ordinary d (List.mem_cons_of_mem _ member)
      have first : encodeOctet c = [c] := if_neg (ordinary c List.mem_cons_self)
      unfold encode at rest ⊢
      rw [List.flatMap_cons, first, rest]
      rfl

theorem hexOctet_special : ∀ c ∈ special,
    hexOctet (hexDigit (c / 16)) (hexDigit (c % 16)) = some c := by
  intro c member
  simp only [special, List.mem_cons, List.not_mem_nil, or_false] at member
  rcases member with rfl | rfl | rfl | rfl | rfl <;> rfl

theorem readParts_encodeOctet (c : UInt8) (rest : Octets) :
    readParts (encodeOctet c ++ rest) = (readParts rest).map (.prepend [c]) := by
  by_cases escaped : c ∈ special
  · rw [encodeOctet, if_pos escaped]
    have back := hexOctet_special c escaped
    rw [List.cons_append, List.cons_append, List.cons_append, List.nil_append, readParts,
      if_neg (by decide), if_neg (by decide), if_pos rfl]
    simp only [back, Option.bind_some]
  · rw [encodeOctet, if_neg escaped]
    simp only [special, List.mem_cons, List.not_mem_nil, or_false, not_or] at escaped
    obtain ⟨zero, opens, closes, starred, slashed⟩ := escaped
    rw [List.singleton_append, readParts.eq_def]
    simp only [zero, opens, closes, starred, slashed, if_false, or_self]

theorem readParts_encode (value rest : Octets) :
    readParts (encode value ++ rest) = (readParts rest).map (.prepend value) := by
  induction value with
  | nil =>
      have nothing : Parts.prepend [] = id := rfl
      rw [nothing, Option.map_id]
      rfl
  | cons c value ih =>
      have first : encode (c :: value) ++ rest = encodeOctet c ++ (encode value ++ rest) := by
        simp [encode]
      rw [first, readParts_encodeOctet, ih, Option.map_map]
      rfl

theorem readParts_rparen (rest : Octets) : readParts (rparen :: rest) = some ⟨[], [], rest⟩ := by
  rw [readParts.eq_def]
  exact if_pos rfl

theorem readParts_star (rest : Octets) :
    readParts (star :: rest) =
      (readParts rest).map fun read => ⟨[], read.first :: read.more, read.rest⟩ := by
  rw [readParts.eq_def]
  exact (if_neg (by decide)).trans (if_pos rfl)

theorem printParts_cons (value next : Octets) (more : List Octets) :
    printParts (value :: next :: more) = encode value ++ star :: printParts (next :: more) := rfl

theorem readParts_printParts (first : Octets) (more : List Octets) (rest : Octets) :
    readParts (printParts (first :: more) ++ rparen :: rest) = some ⟨first, more, rest⟩ := by
  induction more generalizing first with
  | nil =>
      rw [printParts, readParts_encode, readParts_rparen]
      simp [Parts.prepend]
  | cons next more ih =>
      rw [printParts_cons, List.append_assoc, readParts_encode, List.cons_append, readParts_star, ih]
      simp [Parts.prepend]

theorem readComparison_print (comparison : Comparison) (rest : Octets) :
    readComparison (comparison.print ++ rest) = some (comparison, rest) := by
  cases comparison <;> rfl

/-- A comparison ends the description before it. -/
theorem readDescription_print (description : Description) (comparison : Comparison)
    (rest : Octets) :
    readDescription (description.octets ++ (comparison.print ++ rest)) =
      some (description, comparison.print ++ rest) := by
  have ends : (comparison.print ++ rest).takeWhile isDescriptive = [] ∧
      (comparison.print ++ rest).dropWhile isDescriptive = comparison.print ++ rest := by
    cases comparison <;> exact ⟨rfl, rfl⟩
  have taken : (description.octets ++ (comparison.print ++ rest)).takeWhile isDescriptive =
      description.octets := by
    rw [List.takeWhile_append_of_pos description.made, ends.1, List.append_nil]
  have dropped : (description.octets ++ (comparison.print ++ rest)).dropWhile isDescriptive =
      comparison.print ++ rest := by
    rw [List.dropWhile_append_of_pos description.made, ends.2]
  unfold readDescription
  simp only [taken, dropped, description.nonempty, ne_eq, not_false_eq_true, dite_true]

theorem assemble_pattern (description : Description) (initial : Octets) {more : List Octets}
    (nonempty : more ≠ []) : assemble description .equal initial more =
      some (.pattern description initial more.dropLast (more.getLast nonempty)) := by
  cases more with
  | nil => exact absurd rfl nonempty
  | cons next more => rfl

theorem parseItem_print (item : Item) (rest : Octets) :
    parseItem (item.print ++ rparen :: rest) = some (item, rest) := by
  cases item with
  | compare description comparison value =>
      have parts := readParts_printParts value [] rest
      rw [printParts] at parts
      simp only [parseItem, Item.print, List.append_assoc, readDescription_print, Option.bind_some,
        readComparison_print, parts, assemble, Option.map_some]
  | pattern description initial middle final =>
      have parts := readParts_printParts initial (middle ++ [final]) rest
      simp only [parseItem, Item.print, List.append_assoc, readDescription_print, Option.bind_some,
        readComparison_print, List.cons_append, parts]
      rw [assemble_pattern description initial (List.append_ne_nil_of_right_ne_nil middle
        (List.cons_ne_nil final []))]
      simp

theorem print_descriptive (item : Item) :
    ∃ c rest, item.print = c :: rest ∧ isDescriptive c = true := by
  cases item with
  | compare description | pattern description =>
      obtain ⟨c, more, made⟩ := List.exists_cons_of_ne_nil description.nonempty
      have descriptive := description.made c (made ▸ List.mem_cons_self)
      simp only [Item.print, made]
      exact ⟨c, _, rfl, descriptive⟩

theorem parseFilter_item (fuel : Nat) (item : Item) (rest : Octets) :
    parseFilter (fuel + 1) ((Filter.item item).print ++ rest) = some (.item item, rest) := by
  have back := parseItem_print item rest
  obtain ⟨c, text, printed, descriptive⟩ := print_descriptive item
  rw [printed] at back
  have apart : c ≠ 0x26 ∧ c ≠ 0x7c ∧ c ≠ 0x21 := by
    refine ⟨?_, ?_, ?_⟩ <;> rintro rfl <;> exact absurd descriptive (by decide)
  rw [Filter.print, printed, List.cons_append, parseFilter, if_pos rfl]
  · rw [List.append_assoc, List.singleton_append, back]
    rfl
  · exact fun _ same => apart.1 (List.cons.inj same).1
  · exact fun _ same => apart.2.1 (List.cons.inj same).1
  · exact fun _ same => apart.2.2 (List.cons.inj same).1

mutual

/-- How deep the parser goes. -/
def Filter.size : Filter → Nat
  | .item _ => 1
  | .all filters | .any filters => 1 + filters.size
  | .not filter => 1 + filter.size

def Filters.size : Filters → Nat
  | .nil => 1
  | .cons filter rest => 1 + filter.size + rest.size

end

theorem Filter.print_head (filter : Filter) : ∃ rest, filter.print = lparen :: rest := by
  cases filter <;> exact ⟨_, rfl⟩

mutual

theorem Filter.size_lt (filter : Filter) : filter.size < filter.print.length := by
  cases filter with
  | item item =>
      simp only [Filter.size, Filter.print, List.length_cons, List.length_append]
      omega
  | all filters | any filters =>
      have below := filters.size_le
      simp only [Filter.size, Filter.print, List.length_cons, List.length_append]
      omega
  | not filter =>
      have below := filter.size_lt
      simp only [Filter.size, Filter.print, List.length_cons, List.length_append]
      omega

theorem Filters.size_le (filters : Filters) : filters.size ≤ filters.print.length + 1 := by
  cases filters with
  | nil => exact Nat.le_refl 1
  | cons filter rest =>
      have first := filter.size_lt
      have later := rest.size_le
      simp only [Filters.size, Filters.print, List.length_append]
      omega

end

theorem close_rparen (filter : Filter) (rest : Octets) :
    close filter (rparen :: rest) = some (filter, rest) := by
  rw [close, if_pos rfl]

mutual

theorem parseFilter_print (filter : Filter) {fuel : Nat} (enough : filter.size ≤ fuel)
    (rest : Octets) : parseFilter fuel (filter.print ++ rest) = some (filter, rest) := by
  cases fuel with
  | zero =>
      cases filter <;> simp only [Filter.size] at enough <;> omega
  | succ fuel =>
      cases filter with
      | item item => exact parseFilter_item fuel item rest
      | all filters =>
          simp only [Filter.size] at enough
          have inside := parseFilters_print filters (show _ ≤ fuel by omega) rest
          simp only [Filter.print, List.cons_append, List.append_assoc, List.nil_append]
          rw [parseFilter, if_pos rfl]
          simp only [inside, Option.bind_some, close_rparen]
      | any filters =>
          simp only [Filter.size] at enough
          have inside := parseFilters_print filters (show _ ≤ fuel by omega) rest
          simp only [Filter.print, List.cons_append, List.append_assoc, List.nil_append]
          rw [parseFilter, if_pos rfl]
          simp only [inside, Option.bind_some, close_rparen]
      | not filter =>
          simp only [Filter.size] at enough
          have inside := parseFilter_print filter (show _ ≤ fuel by omega) (rparen :: rest)
          simp only [Filter.print, List.cons_append, List.append_assoc, List.nil_append]
          rw [parseFilter, if_pos rfl]
          simp only [inside, Option.bind_some, close_rparen]

theorem parseFilters_print (filters : Filters) {fuel : Nat} (enough : filters.size ≤ fuel)
    (rest : Octets) :
    parseFilters fuel (filters.print ++ rparen :: rest) = some (filters, rparen :: rest) := by
  cases fuel with
  | zero =>
      cases filters <;> simp only [Filters.size] at enough <;> omega
  | succ fuel =>
      cases filters with
      | nil => exact if_neg (by simp [Filters.print, rparen, lparen])
      | cons filter more =>
          simp only [Filters.size] at enough
          obtain ⟨tail, starts⟩ := filter.print_head
          have first := parseFilter_print filter (show _ ≤ fuel by omega)
            (more.print ++ rparen :: rest)
          have later := parseFilters_print more (show _ ≤ fuel by omega) rest
          rw [Filters.print, List.append_assoc, parseFilters, if_pos (by rw [starts]; rfl), first]
          simp only [Option.bind_some, later, Option.map_some]

end

/-- A filter is what its printed form stands for. -/
theorem parse_print (filter : Filter) : parse filter.print = some filter := by
  have back := parseFilter_print filter (Nat.le_of_lt filter.size_lt) []
  rw [List.append_nil] at back
  rw [parse, back]

end LdapFilter
