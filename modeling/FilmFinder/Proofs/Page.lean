import FilmFinder.Page

/-!
# Page requests and page counts

A number and a size ask for at most one page, and which one is told by the number and by the
size that is meant. The number of pages is the least one that leaves no match over, so another
page follows exactly when matches lie beyond the end of this one. No number in this leaves its
word: a page that starts past every word does not exist.
-/
namespace FilmFinder

/-- The number after a page number that has room above it. -/
theorem toInt_next {number : Int64} {index : Nat} (numbered : number.toInt = index)
    (room : index + 1 < signedBound) : (number + 1).toInt = (index + 1 : Nat) := by
  rw [Int64.toInt_add, numbered, show (1 : Int64).toInt = 1 from rfl]
  unfold signedBound at room
  rw [Int.bmod_eq_of_le] <;> omega

namespace Pager

variable {pager : Pager} {page size : Int64} {request : PageRequest}

/-- The request that a number and a size make is the one with that number and the size that is
meant. -/
theorem request?_eq_ok_iff :
    pager.request? page size = .ok request ↔
      0 ≤ page.toInt ∧ request.index = page.toInt.toNat ∧
        request.size = pager.effectiveSize size := by
  unfold request?
  constructor
  · intro made
    split at made
    · rename_i fits
      cases Except.ok.inj made
      exact ⟨fits.1, rfl, rfl⟩
    · contradiction
  · rintro ⟨natural, index, meant⟩
    have below := request.offset_lt
    rw [index, meant] at below
    rw [dif_pos ⟨natural, below⟩]
    cases request
    cases index
    cases meant
    rfl

/-- A request for a page that does not exist fails with what was asked for. -/
theorem invalidPage_of_request? {error : SearchError}
    (refused : pager.request? page size = .error error) : error = .invalidPage page size := by
  unfold request? at refused
  split at refused
  · contradiction
  · exact (Except.error.inj refused).symm

/-- A page whose first position fits exists. -/
theorem request?_of_fits {index : Nat}
    (numbered : page.toInt = index) (fits : index * pager.effectiveSize size < wordBound) :
    pager.request? page size =
      .ok ⟨index, pager.effectiveSize size, pager.effectiveSize_pos size, fits⟩ := by
  rw [request?_eq_ok_iff, numbered]
  exact ⟨Int.natCast_nonneg index, (Int.toNat_natCast index).symm, rfl⟩

/-- The size that is meant is the size asked for when that is positive, else the default of the
pager, and the usual size when the pager is given none. -/
theorem effectiveSize_of (default : Nat) (size : Int64) :
    (of default).effectiveSize size =
      if 0 < size.toInt then size.toInt.toNat
      else if default = 0 then defaultPageSize else default := by
  unfold effectiveSize of
  by_cases given : 0 < default
  · have some : default ≠ 0 := Nat.ne_of_gt given
    simp only [given, some, ↓reduceDIte, ↓reduceIte]
  · obtain rfl : default = 0 := Nat.eq_zero_of_not_pos given
    rfl

/-- A word of a default keeps the size that is meant in a word. -/
theorem effectiveSize_lt (default : UInt64) (size : Int64) :
    (of default.toNat).effectiveSize size < wordBound := by
  have asked : size.toInt < signedBound := Int64.toInt_lt size
  have usual : default.toNat < wordBound := UInt64.toNat_lt default
  have bounds : signedBound < wordBound := by decide
  rw [effectiveSize_of]
  split
  · omega
  · split
    · decide
    · exact usual

/-- A page exists exactly when its number is not negative and its first position fits a word. -/
theorem exists_request?_iff :
    (∃ request, pager.request? page size = .ok request) ↔
      0 ≤ page.toInt ∧ page.toInt * pager.effectiveSize size < wordBound := by
  constructor
  · rintro ⟨request, made⟩
    obtain ⟨natural, index, meant⟩ := request?_eq_ok_iff.mp made
    have below := request.offset_lt
    rw [index, meant] at below
    refine ⟨natural, ?_⟩
    rw [← Int.toNat_of_nonneg natural]
    exact_mod_cast below
  · rintro ⟨natural, below⟩
    rw [← Int.toNat_of_nonneg natural] at below
    exact ⟨_, request?_of_fits (Int.toNat_of_nonneg natural).symm (by exact_mod_cast below)⟩

/-- A page that does not exist is refused with what was asked for. -/
theorem request?_of_not_exists
    (missing : ¬ ∃ request, pager.request? page size = .ok request) :
    pager.request? page size = .error (.invalidPage page size) := by
  cases made : pager.request? page size with
  | ok request => exact absurd ⟨request, made⟩ missing
  | error error => rw [invalidPage_of_request? made]

/-- The number of a page that exists is the number asked for. -/
theorem index_of_request? (made : pager.request? page size = .ok request) :
    page.toInt = request.index := by
  obtain ⟨natural, index, -⟩ := request?_eq_ok_iff.mp made
  rw [index, Int.toNat_of_nonneg natural]

/-- Behind a page, the page that starts within a word exists, and it starts where the first one
ends. -/
theorem exists_next_request (made : pager.request? page size = .ok request)
    (more : page < Int64.maxValue) (fits : (request.index + 1) * request.size < wordBound) :
    ∃ next, pager.request? (page + 1) size = .ok next ∧ next.index = request.index + 1 ∧
      next.offset = request.offset + request.size := by
  have numbered := index_of_request? made
  have meant : request.size = pager.effectiveSize size := (request?_eq_ok_iff.mp made).2.2
  have below : page.toInt < Int64.maxValue.toInt := Int64.lt_iff_toInt_lt.mp more
  have room : request.index + 1 < signedBound := by
    rw [numbered, show Int64.maxValue.toInt = (signedBound : Int) - 1 from rfl] at below
    omega
  rw [meant] at fits
  refine ⟨_, request?_of_fits (toInt_next numbered room) fits, rfl, ?_⟩
  rw [PageRequest.offset, PageRequest.offset, meant]
  exact Nat.succ_mul _ _

end Pager

namespace Page

variable {α : Type} {page : Page α}

/-- A page number is below the page count when its page starts in front of the last match. -/
theorem lt_pageCount_iff (page : Page α) (index : Nat) :
    index < page.pageCount ↔ index * page.request.size < page.total := by
  have positive := page.request.size_pos
  have next : (index + 1) * page.request.size = index * page.request.size + page.request.size :=
    Nat.succ_mul index page.request.size
  unfold pageCount
  rw [Nat.lt_iff_add_one_le, Nat.le_div_iff_mul_le positive, next]
  omega

/-- Another page follows exactly when matches lie beyond the end of this one. -/
theorem hasNext_iff : page.hasNext = true ↔
    (page.request.index + 1) * page.request.size < page.total := by
  unfold hasNext
  rw [decide_eq_true_iff, page.lt_pageCount_iff]

/-- A number of pages holds all matches exactly when it reaches the page count. -/
theorem pageCount_le_iff (page : Page α) (count : Nat) :
    page.pageCount ≤ count ↔ page.total ≤ count * page.request.size := by
  rw [← Nat.not_lt, page.lt_pageCount_iff, Nat.not_lt]

/-- There are no more pages than matches. -/
theorem pageCount_le_total (page : Page α) : page.pageCount ≤ page.total :=
  (page.pageCount_le_iff page.total).mpr (Nat.le_mul_of_pos_right _ page.request.size_pos)

end Page

/-- Page arithmetic is exact. Whatever word a pager has for its default size, a number and a size
ask for a page exactly when the number is not negative and its product with the size that is meant
fits a word; all else is refused with what was asked for. The page has a size, it starts at that
product, and the number after its own fits a word. Whatever word counts the matches, the page count
is the least number of pages that holds them all, another page follows exactly when matches lie
beyond the end of this one, and then the pager gives the next page, which starts where this one
ends. -/
theorem Pager.request?_exact (default : UInt64) (page size : Int64) :
    let pager := Pager.of default.toNat
    let meant :=
      if 0 < size.toInt then size.toInt.toNat
      else if default.toNat = 0 then defaultPageSize else default.toNat
    ((∃ request, pager.request? page size = .ok request) ↔
        0 ≤ page.toInt ∧ page.toInt * meant < wordBound) ∧
      ((¬ ∃ request, pager.request? page size = .ok request) →
        pager.request? page size = .error (.invalidPage page size)) ∧
      ∀ request, pager.request? page size = .ok request →
        0 < request.size ∧ request.size < wordBound ∧ request.index + 1 < wordBound ∧
          (request.offset : Int) = page.toInt * meant ∧
          ∀ (α : Type) (items : List α) (total : UInt64),
            let found : Page α := ⟨items, request, total.toNat⟩
            found.pageCount < wordBound ∧
              (∀ count, found.pageCount ≤ count ↔ total.toNat ≤ count * request.size) ∧
              (found.hasNext = true ↔
                (request.index + 1) * request.size < total.toNat) ∧
              (found.hasNext = true → page < Int64.maxValue →
                ∃ next, pager.request? (page + 1) size = .ok next ∧
                  next.index = request.index + 1 ∧
                  next.offset = request.offset + request.size) := by
  intro pager meant
  have effective : pager.effectiveSize size = meant := effectiveSize_of default.toNat size
  refine ⟨effective ▸ exists_request?_iff, request?_of_not_exists, fun request made => ?_⟩
  have numbered : page.toInt = request.index := index_of_request? made
  have sized : request.size = meant := effective ▸ (request?_eq_ok_iff.mp made).2.2
  have indexRoom : request.index + 1 < wordBound := by
    have signed : page.toInt < signedBound := Int64.toInt_lt page
    have bounds : signedBound < wordBound := by decide
    omega
  have sizeRoom : request.size < wordBound := by
    rw [sized, ← effective]
    exact effectiveSize_lt default size
  have offset : (request.offset : Int) = page.toInt * meant := by
    rw [numbered, ← sized]
    exact Int.natCast_mul _ _
  refine ⟨request.size_pos, sizeRoom, indexRoom, offset, fun α items total => ?_⟩
  intro found
  have totalRoom : found.total < wordBound := UInt64.toNat_lt total
  refine ⟨Nat.lt_of_le_of_lt found.pageCount_le_total totalRoom, found.pageCount_le_iff,
    Page.hasNext_iff, fun follows more => ?_⟩
  have inside : (request.index + 1) * request.size < found.total := Page.hasNext_iff.mp follows
  exact exists_next_request made more (Nat.lt_trans inside totalRoom)

/-- A default size of `2 ^ 63`, past every signed word, and as many matches as a word counts: the
first page is followed by another one, which starts at `2 ^ 63`. -/
theorem Pager.request?_exact_half :
    let pager := Pager.of (9223372036854775808 : UInt64).toNat
    let first : PageRequest := ⟨0, 9223372036854775808, by decide, by decide⟩
    let found : Page String := ⟨[], first, (18446744073709551615 : UInt64).toNat⟩
    pager.request? 0 (-1) = .ok first ∧ found.hasNext = true ∧ (0 : Int64) < Int64.maxValue ∧
      ∃ next, pager.request? (0 + 1) (-1) = .ok next ∧ next.index = first.index + 1 ∧
        next.offset = first.offset + first.size := by
  intro pager first found
  have made : pager.request? 0 (-1) = .ok first := by rfl
  have follows : found.hasNext = true := by decide
  obtain ⟨-, -, accepted⟩ := request?_exact 9223372036854775808 0 (-1)
  obtain ⟨-, -, -, -, pages⟩ := accepted first made
  obtain ⟨-, -, -, next⟩ := pages String [] 18446744073709551615
  exact ⟨made, follows, by decide, next follows (by decide)⟩

end FilmFinder
