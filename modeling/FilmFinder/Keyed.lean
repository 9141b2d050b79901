/-!
# Keyed lists

A keyed list holds at most one item for each key, in ascending order of the keys by code
point. Putting an item in replaces the one with its key. The order makes the list a
function of its contents: two keyed lists with the same items are equal.
-/
namespace FilmFinder

/-- Put an item into a list in ascending order of keys, in place of the item with its key. -/
def place {α : Type} (key : α → String) (item : α) : List α → List α
  | [] => [item]
  | first :: rest =>
    if key item < key first then item :: first :: rest
    else if key item = key first then item :: rest
    else first :: place key item rest

/-- The items of a list after placing are the placed one and those with other keys. -/
theorem mem_place {α : Type} {key : α → String} {item other : α} {items : List α}
    (member : other ∈ place key item items) : other = item ∨ other ∈ items := by
  induction items with
  | nil => simpa [place] using member
  | cons first rest step =>
    unfold place at member
    split at member
    · simpa using member
    · split at member
      · simp only [List.mem_cons] at member ⊢
        exact member.imp_right .inr
      · simp only [List.mem_cons] at member ⊢
        rcases member with rfl | inside
        · exact .inr (.inl rfl)
        · exact (step inside).imp_right .inr

/-- Placing keeps the keys in strictly ascending order. -/
theorem place_ascending {α : Type} {key : α → String} {item : α} {items : List α}
    (ascending : items.Pairwise fun left right => key left < key right) :
    (place key item items).Pairwise fun left right => key left < key right := by
  induction items with
  | nil => simp [place]
  | cons first rest step =>
    rw [List.pairwise_cons] at ascending
    unfold place
    split
    next before =>
      refine List.pairwise_cons.mpr ⟨fun other inside => ?_, List.pairwise_cons.mpr ascending⟩
      rcases List.mem_cons.mp inside with rfl | inside
      · exact before
      · exact String.lt_trans before (ascending.1 other inside)
    next notBefore =>
      split
      next same =>
        exact List.pairwise_cons.mpr
          ⟨fun other inside => same ▸ ascending.1 other inside, ascending.2⟩
      next different =>
        refine List.pairwise_cons.mpr ⟨fun other inside => ?_, step ascending.2⟩
        rcases mem_place inside with rfl | inside
        · exact Classical.byContradiction fun notAfter =>
            different (String.le_antisymm (String.not_lt.mp notAfter) (String.not_lt.mp notBefore))
        · exact ascending.1 other inside

/-- A list with at most one item for each key, in strictly ascending order of keys. -/
structure Keyed (α : Type) (key : α → String) where
  /-- The items in ascending order of their keys. -/
  items : List α
  /-- The keys ascend strictly. -/
  ascending : items.Pairwise fun left right => key left < key right
  deriving DecidableEq

namespace Keyed

variable {α : Type} {key : α → String}

/-- The keyed list without items. -/
def empty : Keyed α key := ⟨[], .nil⟩

/-- Put an item in, in place of the one with its key. -/
def insert (keyed : Keyed α key) (item : α) : Keyed α key :=
  ⟨place key item keyed.items, place_ascending keyed.ascending⟩

/-- Put the items of a list in, one after another: of items with one key the last stays. -/
def ofList (items : List α) : Keyed α key := items.foldl insert empty

/-- The item with a key. -/
def find? (keyed : Keyed α key) (name : String) : Option α :=
  keyed.items.find? fun item => key item = name

/-- Some item has a key. -/
def contains (keyed : Keyed α key) (name : String) : Bool :=
  keyed.items.any fun item => key item = name

/-- How many items there are. -/
def size (keyed : Keyed α key) : Nat := keyed.items.length

end Keyed

end FilmFinder
