import WuRegalia.Controller.Pages
import WuRegalia.Library.LooseEquality

/-! # The homepage by item type

The filter compares the name of an item's type with the string in the URL by
loose equality. It lists the items of that type and no others, unless a type of
an available item has another name that is numeric and the same number.
-/

namespace WuRegalia.DefaultController

open Relational LooseEquality

/-- The homepage with some of its rows. -/
def page (rows : List (Id × Inventory)) : Response :=
  .render "default/index.html.twig" (.itemsWithMessage rows none)

@[simp] theorem page_inj {rows others : List (Id × Inventory)} :
    page rows = page others ↔ rows = others := by
  simp [page]

def typeName (t : Tables) (item : Inventory) : Option String :=
  (t.itemType.find item.itemType).map NamedEntity.name

/-- The homepage lists the available items, and the filter lists those of them whose
    type has the name, in the same order. -/
def FiltersExactly (rt : Runtime) (s : Store) (filter : String) : Prop :=
  ∃ rows, (indexAction s).result = .ok (page rows) ∧
    (∀ row, row ∈ rows ↔ row ∈ s.inventory.rows ∧ s.statusName row.2 = some "AVAL") ∧
    (filterAction rt filter s).result =
      .ok (page (rows.filter (fun row => typeName s.toTables row.2 = some filter)))

/-- The filter lists the row. -/
def ListedUnder (rt : Runtime) (s : Store) (filter : String) (row : Id × Inventory) : Prop :=
  ∃ rows, (filterAction rt filter s).result = .ok (page rows) ∧ row ∈ rows

/-- There is a homepage, and no item on it has a type of another name that stands for
    the same number as the filter. -/
def Separates (v : Version) (s : Store) (filter : String) : Prop :=
  ∃ rows ∈ listed s.toTables, ∀ row ∈ rows, ∀ name ∈ typeName s.toTables row.2,
    SameNumber v name filter → name = filter

instance (v : Version) (s : Store) (filter : String) : Decidable (Separates v s filter) :=
  inferInstanceAs (Decidable (∃ _ ∈ _, ∀ _ ∈ _, ∀ _ ∈ _, _ → _))

/-- Two selections from a list are the same exactly when they agree on its members. -/
theorem filter_eq_filter_iff {α : Type} {rows : List α} {p q : α → Bool} :
    rows.filter p = rows.filter q ↔ ∀ row ∈ rows, p row = q row := by
  constructor
  · intro same row there
    have both : row ∈ rows.filter p ↔ row ∈ rows.filter q := by rw [same]
    simp only [List.mem_filter, there, true_and] at both
    exact Bool.eq_iff_iff.mpr both
  · exact List.filter_congr

section Filter

variable {v : Version} {rt : Runtime} {s : Store}

/-- What PHP's `==` makes of the test in the loop. -/
theorem hasType_iff (php : ∀ a b, rt.looseEquals a b = looseEquals v a b) {t : Tables}
    {filter : String} {item : Inventory} :
    hasType rt t filter item = true ↔
      ∃ name ∈ typeName t item, name = filter ∨ SameNumber v name filter := by
  unfold hasType typeName
  cases t.itemType.find item.itemType with
  | none => simp
  | some itemType => simp [php, looseEquals_iff]

/-- At one item, the test is right exactly when no other name is the same number. -/
theorem hasType_eq_iff (php : ∀ a b, rt.looseEquals a b = looseEquals v a b) {t : Tables}
    {filter : String} {item : Inventory} :
    hasType rt t filter item = decide (typeName t item = some filter) ↔
      ∀ name ∈ typeName t item, SameNumber v name filter → name = filter := by
  rw [Bool.eq_iff_iff, hasType_iff php, decide_eq_true_eq]
  cases typeName t item with
  | none => simp
  | some name =>
      simp only [Option.mem_some_iff, exists_eq_left', forall_eq', Option.some.injEq]
      constructor
      · intro right same
        exact right.mp (.inr same)
      · intro apart
        exact ⟨fun either => either.elim id apart, .inl⟩

/-- The rows of the homepage are the available items. -/
theorem mem_listed {rows : List (Id × Inventory)} (home : listed s.toTables = some rows)
    (row : Id × Inventory) :
    row ∈ rows ↔ row ∈ s.inventory.rows ∧ s.statusName row.2 = some "AVAL" := by
  obtain ⟨aval, found, rfl⟩ := Option.map_eq_some_iff.mp home
  rw [s.valid.statusName_iff, found]
  simp [Tables.findByItemStatus, Table.findBy, eq_comm]

theorem filterAction_of_listed {rows : List (Id × Inventory)}
    (home : listed s.toTables = some rows) (filter : String) :
    (filterAction rt filter s).result =
      .ok (page (rows.filter (fun row => hasType rt s.toTables filter row.2))) := by
  simp only [filterAction, home, Outcome.answer, page]

/-- One filter is exact as long as no other name is the same number. -/
theorem filtersExactly_iff (php : ∀ a b, rt.looseEquals a b = looseEquals v a b)
    (filter : String) : FiltersExactly rt s filter ↔ Separates v s filter := by
  unfold FiltersExactly Separates
  cases home : listed s.toTables with
  | none => simp [indexAction, home, Outcome.raise]
  | some rows =>
      have index : (indexAction s).result = .ok (page rows) := by
        simp only [indexAction, home, Outcome.answer, page]
      have filtered : (filterAction rt filter s).result =
          .ok (page (rows.filter (fun row => hasType rt s.toTables filter row.2))) :=
        filterAction_of_listed home filter
      have exactly : (∃ all, (indexAction s).result = .ok (page all) ∧
          (∀ row, row ∈ all ↔ row ∈ s.inventory.rows ∧ s.statusName row.2 = some "AVAL") ∧
          (filterAction rt filter s).result =
            .ok (page (all.filter (fun row => typeName s.toTables row.2 = some filter)))) ↔
          ∀ row ∈ rows, hasType rt s.toTables filter row.2 =
            decide (typeName s.toTables row.2 = some filter) := by
        rw [← filter_eq_filter_iff]
        simp [index, filtered, mem_listed home]
      rw [exactly]
      simp only [hasType_eq_iff php, Option.mem_some_iff, exists_eq_left']

theorem listedUnder_iff (php : ∀ a b, rt.looseEquals a b = looseEquals v a b)
    {rows : List (Id × Inventory)} (home : listed s.toTables = some rows) {row : Id × Inventory}
    (there : row ∈ rows) (filter : String) :
    ListedUnder rt s filter row ↔
      ∃ name ∈ typeName s.toTables row.2, name = filter ∨ SameNumber v name filter := by
  rw [← hasType_iff php]
  simp [ListedUnder, filterAction_of_listed home, there]

/-- An item is under the filters of its own type and of those whose name is the same
    number. -/
theorem existsUnique_type_iff (php : ∀ a b, rt.looseEquals a b = looseEquals v a b)
    {rows : List (Id × Inventory)} (home : listed s.toTables = some rows) {row : Id × Inventory}
    (there : row ∈ rows) :
    (∃! id, ∃ itemType, s.itemType.find id = some itemType ∧ ListedUnder rt s itemType.name row) ↔
      ∀ name ∈ typeName s.toTables row.2, ∀ id itemType, s.itemType.find id = some itemType →
        SameNumber v name itemType.name → name = itemType.name := by
  have present := Table.mem_rows_iff.mp ((mem_listed home row).mp there).1
  obtain ⟨own, found⟩ := s.valid.inventoryType.target present rfl
  have named : typeName s.toTables row.2 = some own.name := by rw [typeName, found]; rfl
  simp only [listedUnder_iff php home there, named, Option.mem_some_iff, exists_eq_left',
    forall_eq']
  constructor
  · intro one id itemType located same
    have here := one.unique ⟨itemType, located, .inr same⟩ ⟨own, found, .inl rfl⟩
    rw [here, found] at located
    rw [Option.some.inj located]
  · intro apart
    refine ⟨row.2.itemType, ⟨own, found, .inl rfl⟩, ?_⟩
    rintro id ⟨itemType, located, either⟩
    have same : own.name = itemType.name := either.elim (fun same => same) (apart id itemType located)
    exact s.valid.itemTypeName.eq located found same.symm

end Filter

/-- A filter shows the available items of its type and no others exactly when no
    available item has a type of another name that is the same number; and every
    available item is under one type's filter exactly when no other type has a name
    that is the same number as its own. -/
theorem filterAction_exact (v : Version) {rt : Runtime}
    (php : ∀ a b, rt.looseEquals a b = looseEquals v a b) (s : Store) :
    (∀ filter, FiltersExactly rt s filter ↔ Separates v s filter) ∧
      ∀ rows ∈ listed s.toTables, ∀ row ∈ rows,
        (∃! id, ∃ itemType, s.itemType.find id = some itemType ∧
            ListedUnder rt s itemType.name row) ↔
          ∀ name ∈ typeName s.toTables row.2, ∀ id itemType,
            s.itemType.find id = some itemType → SameNumber v name itemType.name →
              name = itemType.name :=
  ⟨filtersExactly_iff php, fun _ home _ there => existsUnique_type_iff php home there⟩

/-- PHP 7. -/
def runtimeSeven : Runtime := { Runtime.sample with looseEquals := looseEquals .seven }

theorem filterAction_exact_sample : FiltersExactly runtimeSeven .sample "Gown" :=
  ((filterAction_exact .seven (fun _ _ => rfl) .sample).1 "Gown").mpr (by decide)

/-- Two sizes of hoods, and one item of the second. -/
def twoSizes : Store :=
  { Store.sample with
    itemType := .ofList [⟨"38"⟩, ⟨"038"⟩]
    inventory := .ofList [⟨1, 2, 1, 1, 1, "a hood", none, none⟩]
    valid := by decide }

/-- The filter of one size lists an item of the other. -/
theorem filter_lists_other_type : ¬ ∀ (v : Version) (rt : Runtime) (s : Store) (filter : String),
    (∀ a b, rt.looseEquals a b = looseEquals v a b) → FiltersExactly rt s filter := by
  intro claim
  have separates := (filtersExactly_iff (fun _ _ => rfl) "38").mp
    (claim .seven runtimeSeven twoSizes "38" fun _ _ => rfl)
  exact absurd separates (by decide)

end WuRegalia.DefaultController
