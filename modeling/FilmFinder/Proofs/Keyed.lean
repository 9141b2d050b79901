import FilmFinder.Keyed
import Mathlib.Data.Finset.Card
import Mathlib.Data.List.Nodup
import Mathlib.Data.List.Sort

/-!
# Looking up and putting in

A keyed list answers with the item that was put in last under a key, and with each of its items
under the key of the item. Of some items it holds one for each different key, the last one with that
key. Putting in items with different keys loses none of them: the list is the items in another order.
-/
namespace FilmFinder

variable {α : Type} {key : α → String}

/-- Under its key a placed item is found, and under every other key what was found before. -/
theorem find?_place (item : α) (items : List α) (name : String) :
    (place key item items).find? (fun other => key other = name) =
      if key item = name then some item else items.find? fun other => key other = name := by
  induction items with
  | nil => by_cases named : key item = name <;> simp [place, named]
  | cons first rest step =>
    unfold place
    split
    next => by_cases named : key item = name <;> simp [named]
    next =>
      split
      next same => by_cases named : key item = name <;> simp [← same, named]
      next different =>
        rw [List.find?_cons, List.find?_cons, step]
        by_cases named : key first = name
        · have other : key item ≠ name := fun placed => different (placed.trans named.symm)
          simp [named, other]
        · simp [named]

/-- Placing an item under a new key leaves the other items. -/
theorem place_perm {item : α} {items : List α} (new : ∀ other ∈ items, key other ≠ key item) :
    (place key item items).Perm (item :: items) := by
  induction items with
  | nil => exact .refl _
  | cons first rest step =>
    have different : key item ≠ key first := fun same => new first (.head _) same.symm
    unfold place
    rw [if_neg different]
    split
    next => exact .refl _
    next =>
      have placed := step fun other inside => new other (.tail _ inside)
      exact (placed.cons first).trans (.swap item first rest)

/-- An item is the last one of a list with a key. -/
structure LastWith (key : α → String) (name : String) (items : List α) (item : α) : Prop where
  /-- It has the key. -/
  key_eq : key item = name
  /-- No item behind it has the key. -/
  final : ∃ before after, items = before ++ item :: after ∧ ∀ later ∈ after, key later ≠ name

/-- Looking from the end finds the last item with a key. -/
theorem find?_reverse_eq_some_iff {name : String} {items : List α} {item : α} :
    items.reverse.find? (fun other => key other = name) = some item ↔
      LastWith key name items item := by
  rw [List.find?_eq_some_iff_append]
  constructor
  · rintro ⟨named, after, before, split, others⟩
    refine ⟨of_decide_eq_true named, before.reverse, after.reverse, ?_, fun later inside => ?_⟩
    · rw [← List.reverse_reverse items, split]
      simp
    · simpa using others later (List.mem_reverse.mp inside)
  · rintro ⟨named, before, after, rfl, others⟩
    refine ⟨decide_eq_true named, after.reverse, before.reverse, by simp, fun later inside => ?_⟩
    simpa using others later (List.mem_reverse.mp inside)

/-- Some item is the last one with a key exactly when an item has the key. -/
theorem exists_lastWith_iff {name : String} {items : List α} :
    (∃ item, LastWith key name items item) ↔ name ∈ items.map key := by
  simp only [← find?_reverse_eq_some_iff]
  rw [← Option.isSome_iff_exists, List.find?_isSome]
  simp

/-- The last item with a key is the only one. -/
theorem LastWith.unique {name : String} {items : List α} {item other : α}
    (last : LastWith key name items item) (otherLast : LastWith key name items other) :
    item = other := by
  rw [← find?_reverse_eq_some_iff] at last otherLast
  exact Option.some.inj (last.symm.trans otherLast)

namespace Keyed

/-- Under its key the item put in is found, and under every other key what was found before. -/
theorem find?_insert (keyed : Keyed α key) (item : α) (name : String) :
    (keyed.insert item).find? name = if key item = name then some item else keyed.find? name :=
  find?_place item keyed.items name

/-- Nothing is found in the keyed list without items. -/
theorem find?_empty (name : String) : (empty : Keyed α key).find? name = none := rfl

/-- Of items put in one after another the last one under a name is found, and under any other name
what was found before. -/
theorem find?_foldl_insert (items : List α) (start : Keyed α key) (name : String) :
    (items.foldl insert start).find? name =
      (items.reverse.find? fun item => key item = name).or (start.find? name) := by
  induction items generalizing start with
  | nil => rfl
  | cons item items step =>
    rw [List.foldl_cons, step, find?_insert, List.reverse_cons, List.find?_append, Option.or_assoc]
    by_cases named : key item = name <;> simp [named]

/-- A keyed list of items finds the last one under a name. -/
theorem find?_ofList (items : List α) (name : String) :
    (ofList items : Keyed α key).find? name = items.reverse.find? fun item => key item = name := by
  rw [ofList, find?_foldl_insert, find?_empty, Option.or_none]

/-- A keyed list of items that are built from entries finds what is built from the last entry with
a name. -/
theorem find?_ofList_map_iff {Entry : Type} {nameOf : Entry → String} {build : Entry → α}
    (named : ∀ entry, key (build entry) = nameOf entry) {entries : List Entry} {name : String}
    {item : α} :
    (ofList (entries.map build) : Keyed α key).find? name = some item ↔
      ∃ entry, LastWith nameOf name entries entry ∧ item = build entry := by
  have names : (fun item => decide (key item = name)) ∘ build =
      fun entry => decide (nameOf entry = name) := by
    funext entry
    exact congrArg (fun other => decide (other = name)) (named entry)
  rw [find?_ofList, ← List.map_reverse, List.find?_map, names, Option.map_eq_some_iff]
  refine exists_congr fun entry => and_congr find?_reverse_eq_some_iff eq_comm

/-- No key of a keyed list stands twice. -/
theorem distinct_keys (keyed : Keyed α key) : (keyed.items.map key).Nodup := by
  refine List.pairwise_map.mpr (keyed.ascending.imp fun before same => ?_)
  rw [same] at before
  exact String.lt_irrefl _ before

/-- Keyed lists with the same items are equal. -/
theorem eq_of_mem_iff {left right : Keyed α key}
    (same : ∀ item, item ∈ left.items ↔ item ∈ right.items) : left = right := by
  have irreflexive : Std.Irrefl fun first second : α => key first < key second :=
    ⟨fun _ => String.lt_irrefl _⟩
  have antisymmetric : Std.Antisymm fun first second : α => key first < key second :=
    ⟨fun _ _ before after => absurd (String.lt_trans before after) (String.lt_irrefl _)⟩
  have items : left.items = right.items := left.ascending.eq_of_mem_iff right.ascending same
  cases left
  cases right
  cases items
  rfl

/-- The item that a key finds has that key and is one of the items. -/
theorem key_of_find? {keyed : Keyed α key} {name : String} {item : α}
    (found : keyed.find? name = some item) : key item = name ∧ item ∈ keyed.items :=
  ⟨by simpa using List.find?_some found, List.mem_of_find?_eq_some found⟩

/-- An item is found under its key. -/
theorem find?_of_mem {keyed : Keyed α key} {item : α} (inside : item ∈ keyed.items) :
    keyed.find? (key item) = some item := by
  cases found : keyed.find? (key item) with
  | none =>
    have missing := List.find?_eq_none.mp found item inside
    simp at missing
  | some other =>
    obtain ⟨same, otherInside⟩ := key_of_find? found
    rw [List.inj_on_of_nodup_map keyed.distinct_keys otherInside inside same]

/-- A key is held exactly when something is found under it. -/
theorem mem_keys_iff {keyed : Keyed α key} {name : String} :
    name ∈ keyed.items.map key ↔ ∃ item, keyed.find? name = some item := by
  constructor
  · intro held
    obtain ⟨item, inside, rfl⟩ := List.mem_map.mp held
    exact ⟨item, find?_of_mem inside⟩
  · rintro ⟨item, found⟩
    obtain ⟨named, inside⟩ := key_of_find? found
    exact List.mem_map.mpr ⟨item, inside, named⟩

/-- A key is contained exactly when something is found under it. -/
theorem contains_iff {keyed : Keyed α key} {name : String} :
    keyed.contains name = true ↔ ∃ item, keyed.find? name = some item := by
  rw [← mem_keys_iff, contains, List.any_eq_true, List.mem_map]
  simp only [decide_eq_true_eq]

/-- The keys of a keyed list are those of the items put in. -/
theorem mem_keys_ofList {items : List α} {name : String} :
    name ∈ (ofList items : Keyed α key).items.map key ↔ name ∈ items.map key := by
  rw [mem_keys_iff, ← exists_lastWith_iff]
  simp only [find?_ofList, find?_reverse_eq_some_iff]

/-- There are as many items as different keys. -/
theorem size_ofList (items : List α) :
    (ofList items : Keyed α key).size = (items.map key).toFinset.card := by
  have keys : (ofList items : Keyed α key).size =
      ((ofList items : Keyed α key).items.map key).toFinset.card := by
    rw [List.toFinset_card_of_nodup (ofList items).distinct_keys, List.length_map]
    rfl
  have same : ((ofList items : Keyed α key).items.map key).toFinset =
      (items.map key).toFinset := by
    ext name
    rw [List.mem_toFinset, List.mem_toFinset]
    exact mem_keys_ofList
  rw [keys, same]

/-- Putting in items with new and different keys loses none of them. -/
theorem foldl_insert_perm {items : List α} {start : Keyed α key}
    (distinct : ((start.items ++ items).map key).Nodup) :
    (items.foldl insert start).items.Perm (start.items ++ items) := by
  induction items generalizing start with
  | nil => simp
  | cons item items step =>
    have moved : (start.items ++ item :: items).Perm (item :: start.items ++ items) :=
      List.perm_middle
    have split := (moved.map key).nodup distinct
    have new : ∀ other ∈ start.items, key other ≠ key item := by
      intro other inside same
      rw [List.cons_append, List.map_cons, List.nodup_cons, ← same] at split
      exact split.1 (List.mem_map_of_mem (List.mem_append_left _ inside))
    have placed : ((start.insert item).items ++ items).Perm (item :: start.items ++ items) :=
      (place_perm new).append_right items
    exact (step ((placed.map key).symm.nodup split)).trans (placed.trans moved.symm)

/-- The keyed list of items with different keys is the items in another order. -/
theorem ofList_perm {items : List α} (distinct : (items.map key).Nodup) :
    (ofList items : Keyed α key).items.Perm items :=
  foldl_insert_perm distinct

end Keyed

end FilmFinder
