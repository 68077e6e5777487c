import WuRegalia.Library.LdapFilter
import WuRegalia.Security.SessionUser

/-! # What the directory is asked

The query of the user provider is text with the submitted name in it. Read as a filter it
is one comparison, with the octets of the name and nothing else, whatever the name is:
no name is a pattern, and none adds a condition.
-/

namespace WuRegalia

open LdapFilter LdapSessionUserProvider

/-- A text as the directory gets it, in UTF-8. -/
def octets (s : String) : Octets := s.toList.flatMap String.utf8EncodeChar

/-- `uid_key` of services.yml. -/
def accountName : Description where
  octets := octets "sAMAccountName"
  nonempty := by decide
  made := List.all_eq_true.mp rfl

/-- The entries that have the name for their account name. -/
def named (username : String) : Item := .compare accountName .equal (octets username)

theorem octets_append (s t : String) : octets (s ++ t) = octets s ++ octets t := by
  simp [octets]

theorem octets_injective : Function.Injective octets := by
  intro s t same
  have encoded : s.toList.utf8Encode = t.toList.utf8Encode := congrArg List.toByteArray same
  rw [← String.toByteArray_ofList, ← String.toByteArray_ofList, String.toByteArray_inj] at encoded
  simpa using encoded

theorem special_toNat : ∀ b ∈ special, b.toNat ∈ [0x00, 0x28, 0x29, 0x2a, 0x5c] := by
  intro b member
  simp only [special, List.mem_cons, List.not_mem_nil, or_false] at member
  rcases member with rfl | rfl | rfl | rfl | rfl <;> decide

/-- An octet of a character that is not escaped is not special either. -/
theorem not_special_of_ordinary {c : Char} (ordinary : c ∉ ['\\', '*', '(', ')', '\x00']) {b : UInt8}
    (member : b ∈ String.utf8EncodeChar c) : b ∉ special := by
  intro bad
  have value := special_toNat b bad
  by_cases single : c.val.toNat ≤ 0x7f
  · -- the character is its octet
    simp only [String.utf8EncodeChar, single, if_true, List.mem_singleton] at member
    have same : b.toNat = c.toNat := by
      rw [member, UInt8.toNat_ofNat']
      exact Nat.mod_eq_of_lt (by omega)
    rw [same] at value
    have back := Char.ofNat_toNat c
    simp only [List.mem_cons, List.not_mem_nil, or_false] at value
    rcases value with code | code | code | code | code <;> rw [code] at back <;> rw [← back] at ordinary <;>
      exact absurd ordinary (by decide)
  · -- every octet of a longer character is at least 128
    have high : 0x80 ≤ b.toNat := by
      simp only [String.utf8EncodeChar, single, if_false] at member
      split at member
      · simp only [List.mem_cons, List.not_mem_nil, or_false] at member
        rcases member with rfl | rfl <;> rw [UInt8.toNat_ofNat'] <;> omega
      · split at member
        · simp only [List.mem_cons, List.not_mem_nil, or_false] at member
          rcases member with rfl | rfl | rfl <;> rw [UInt8.toNat_ofNat'] <;> omega
        · simp only [List.mem_cons, List.not_mem_nil, or_false] at member
          rcases member with rfl | rfl | rfl | rfl <;> rw [UInt8.toNat_ofNat'] <;> omega
    simp only [List.mem_cons, List.not_mem_nil, or_false] at value
    omega

theorem octets_escapeChar (c : Char) :
    (escapeChar c).flatMap String.utf8EncodeChar = encode (String.utf8EncodeChar c) := by
  by_cases escaped : c ∈ ['\\', '*', '(', ')', '\x00']
  · simp only [List.mem_cons, List.not_mem_nil, or_false] at escaped
    rcases escaped with rfl | rfl | rfl | rfl | rfl <;> decide
  · have plain : escapeChar c = [c] := by
      simp only [List.mem_cons, List.not_mem_nil, or_false, not_or] at escaped
      unfold escapeChar
      split <;> simp_all
    rw [plain, encode_ordinary fun b => not_special_of_ordinary escaped, List.flatMap_singleton]

/-- Escaping a text and writing its octets into a filter are the same. -/
theorem octets_escape (username : String) : octets (escape username) = encode (octets username) := by
  rw [octets, escape, String.toList_ofList]
  unfold octets
  induction username.toList with
  | nil => rfl
  | cons c rest ih =>
      rw [List.flatMap_cons, List.flatMap_append, List.flatMap_cons, encode_append, ih,
        octets_escapeChar]

theorem octets_query (username : String) :
    octets (query (escape username)) = (Filter.item (named username)).print := by
  have key : octets "(sAMAccountName=" = lparen :: (accountName.octets ++ Comparison.equal.print) := by
    decide
  have close : octets ")" = [rparen] := by decide
  rw [query, octets_append, octets_append, key, close, octets_escape]
  simp [Filter.print, named, Item.print]

/-- The directory is asked for the entries with exactly the submitted name. -/
theorem parse_query (username : String) :
    parse (octets (query (escape username))) = some (.item (named username)) := by
  rw [octets_query, parse_print]

/-- Two names are escaped to the same text only if they are the same. -/
theorem escape_injective : Function.Injective escape := by
  intro username other same
  have both := (parse_query username).symm.trans (same ▸ parse_query other)
  have values := Filter.item.inj (Option.some.inj both)
  exact octets_injective (Item.compare.inj values).2.2

/-- An entry with the items that hold of it. -/
abbrev Listing := List (LdapEntry × (Item → Bool))

/-- What a directory finds for a text: it evaluates the filter on every entry. -/
def search (listing : Listing) (text : String) : List LdapEntry :=
  match parse (octets text) with
  | some filter => (listing.filter fun entry => filter.eval entry.2).map Prod.fst
  | none => []

/-- The entries of a name. -/
def entriesOf (listing : Listing) (username : String) : List LdapEntry :=
  (listing.filter fun entry => entry.2 (named username)).map Prod.fst

theorem search_query (listing : Listing) (username : String) :
    search listing (query (escape username)) = entriesOf listing username := by
  rw [search, parse_query]
  rfl

/-- Whatever name is submitted, the directory is asked for the entries with exactly this
    name, and the account the entry is made into is of no other name. -/
theorem query_exact (username : String) :
    parse (octets (query (escape username))) = some (.item (named username)) ∧
      ∀ other, escape other = escape username → other = username :=
  ⟨parse_query username, fun _ same => escape_injective same⟩

/-- Unescaped, a star finds every entry. -/
example : parse (octets (query "*")) = some (.item (.pattern accountName [] [] [])) := by
  have printed : octets (query "*") = (Filter.item (.pattern accountName [] [] [])).print := by
    decide
  rw [printed, parse_print]

end WuRegalia
