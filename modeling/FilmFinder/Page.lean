import FilmFinder.Error
import FilmFinder.Number.Numeral

/-!
# Pages

A page request names a page by its number and size. A size of zero or less means the default
size, and a page whose first position does not fit 64 bits does not exist. A page carries
its items, its request and the number of all matches, and tells from these how many pages
there are and whether another one follows.
-/
namespace FilmFinder

/-- The size of a page for which nobody gives a size. -/
def defaultPageSize : Nat := 20

/-- A page that may be asked for. -/
structure PageRequest where
  /-- The number of the page, from zero. -/
  index : Nat
  /-- The number of items on a full page. -/
  size : Nat
  /-- A full page has an item. -/
  size_pos : 0 < size
  /-- The first position of the page fits 64 bits. -/
  offset_lt : index * size < wordBound
  deriving DecidableEq

/-- The position of the first item of the page. -/
def PageRequest.offset (request : PageRequest) : Nat := request.index * request.size

/-- The rule for page requests. -/
structure Pager where
  /-- The size of a page for which a request gives none. -/
  defaultSize : Nat
  /-- A full page has an item. -/
  defaultSize_pos : 0 < defaultSize
  deriving DecidableEq

namespace Pager

/-- A pager with a default size; zero means the usual size. -/
def of (size : Nat) : Pager :=
  if positive : 0 < size then ⟨size, positive⟩ else ⟨defaultPageSize, by decide⟩

/-- The size that a request means: its own when positive, else the default. -/
def effectiveSize (pager : Pager) (size : Int64) : Nat :=
  if 0 < size.toInt then size.toInt.toNat else pager.defaultSize

/-- Every size that a request means is positive. -/
theorem effectiveSize_pos (pager : Pager) (size : Int64) : 0 < pager.effectiveSize size := by
  unfold effectiveSize
  split
  · omega
  · exact pager.defaultSize_pos

/-- The page that a number and a size ask for, if it exists. -/
def request? (pager : Pager) (page size : Int64) : Except SearchError PageRequest :=
  if fits : 0 ≤ page.toInt ∧ page.toInt.toNat * pager.effectiveSize size < wordBound then
    .ok ⟨page.toInt.toNat, pager.effectiveSize size, pager.effectiveSize_pos size, fits.2⟩
  else .error (.invalidPage page size)

end Pager

/-- One page of a result. -/
structure Page (α : Type) where
  /-- The items of the page. -/
  items : List α
  /-- The page that was asked for. -/
  request : PageRequest
  /-- How many matches there are on all pages. -/
  total : Nat
  deriving DecidableEq

namespace Page

variable {α β : Type}

/-- A page without items of a result without matches. -/
def empty (request : PageRequest) : Page α := ⟨[], request, 0⟩

/-- How many pages the matches fill. -/
def pageCount (page : Page α) : Nat := (page.total + page.request.size - 1) / page.request.size

/-- Another page follows. -/
def hasNext (page : Page α) : Bool := page.request.index + 1 < page.pageCount

/-- No other page follows. -/
def isLast (page : Page α) : Bool := !page.hasNext

/-- The page with each item changed. -/
def map (change : α → β) (page : Page α) : Page β :=
  ⟨page.items.map change, page.request, page.total⟩

/-- The JSON value of a page. -/
def toJson (item : α → Json) (page : Page α) : Json :=
  .record
    [("items", .array (page.items.map item)),
      ("pageRequest",
        .record [("pageIndex", .ofInt page.request.index), ("pageSize", .ofInt page.request.size)]),
      ("totalMatches", .ofInt page.total)]

end Page

end FilmFinder
