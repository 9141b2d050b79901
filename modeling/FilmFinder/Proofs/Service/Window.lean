import FilmFinder.Proofs.Service.Search

/-!
# What a page depends on

Over an engine in memory without queued failures a page is all or nothing: it is given when every
hit on it is a record, and otherwise the first hit on it that is none is named. Hits in front of the
page and behind it are never read, so two engines that hold as many hits and agree on those of the
page give the same.
-/
namespace FilmFinder

variable {α : Type}

/-- A page covers the positions of its items. -/
def PageRequest.Covers (request : PageRequest) (position : Nat) : Prop :=
  request.offset ≤ position ∧ position < request.offset + request.size

/-- A page covers as many positions from its first one on as it has items when full. -/
theorem PageRequest.covers_add (request : PageRequest) {index : Nat} :
    request.Covers (request.offset + index) ↔ index < request.size := by
  unfold Covers
  omega

/-- Every hit on a page is a record. -/
def PageRequest.Sound (request : PageRequest) (decode : String → Option α) (hits : List Hit) :
    Prop :=
  ∀ position hit, request.Covers position → hits[position]? = some hit →
    (decode hit.payload).isSome = true

/-- A hit is the first on a page that is no record. -/
structure PageRequest.Spoils (request : PageRequest) (decode : String → Option α)
    (hits : List Hit) (position : Nat) (hit : Hit) : Prop where
  /-- The hit is on the page. -/
  covered : request.Covers position
  /-- The hit has the position. -/
  held : hits[position]? = some hit
  /-- The hit is no record. -/
  undecodable : decode hit.payload = none
  /-- The hits of the page in front of it are records. -/
  first : ∀ earlier other, request.Covers earlier → earlier < position →
    hits[earlier]? = some other → (decode other.payload).isSome = true

/-- A page has a record for each hit on it. -/
structure Page.Reads (page : Page α) (decode : String → Option α) (hits : List Hit) : Prop where
  /-- The page has as many items as there are hits on it. -/
  length_items : page.items.length =
    Nat.min page.request.size (hits.length - page.request.offset)
  /-- Each item is what the hit at its position reads as. -/
  decoded : ∀ index record, page.items[index]? = some record →
    ∃ hit, hits[page.request.offset + index]? = some hit ∧ decode hit.payload = some record
  /-- The page counts all hits. -/
  total_eq : page.total = hits.length

namespace MemoryEngine

variable {engine : MemoryEngine} {request : PageRequest} {query : String}
  {decode : String → Option α}

/-- The window of a call holds the hits from its first position on. -/
theorem getElem?_window (engine : MemoryEngine) (call : Call) (index : Nat) :
    (engine.window call)[index]? =
      if index < call.limit then engine.hits[call.offset + index]? else none := by
  unfold window
  rw [List.getElem?_take, List.getElem?_drop]

/-- The window of a page holds the hits at the positions that the page covers. -/
theorem getElem?_page (engine : MemoryEngine) (query : String) {index : Nat}
    (covered : request.Covers (request.offset + index)) :
    (engine.window (Service.callOf query request))[index]? =
      engine.hits[request.offset + index]? := by
  rw [getElem?_window]
  exact if_pos (request.covers_add.mp covered)

/-- A hit in the window of a page is at a position that the page covers. -/
theorem covers_of_window {index : Nat} {hit : Hit}
    (held : (engine.window (Service.callOf query request))[index]? = some hit) :
    request.Covers (request.offset + index) ∧ engine.hits[request.offset + index]? = some hit := by
  rw [getElem?_window, Option.ite_none_right_eq_some] at held
  exact ⟨request.covers_add.mpr held.1, held.2⟩

/-- The window of a page has as many hits as there are on it. -/
theorem length_window (engine : MemoryEngine) (call : Call) :
    (engine.window call).length = Nat.min call.limit (engine.hits.length - call.offset) := by
  unfold window
  rw [List.length_take, List.length_drop]

/-- Engines whose hits agree on a page have the same window for it. -/
theorem window_congr {other : MemoryEngine}
    (agree : ∀ position, request.Covers position →
      other.hits[position]? = engine.hits[position]?) (query : String) :
    other.window (Service.callOf query request) = engine.window (Service.callOf query request) := by
  refine List.ext_getElem? fun index => ?_
  rw [getElem?_window, getElem?_window]
  split
  · rename_i inside
    exact agree _ (request.covers_add.mpr inside)
  · rfl

/-- What is read from a window whose hits all are records is a page of them, and every hit on that
page is a record. -/
theorem reads_of_decoded {records : List α}
    (decoded : (engine.window (Service.callOf query request)).map (fun hit => decode hit.payload) =
      records.map some) :
    Page.Reads ⟨records, request, engine.hits.length⟩ decode engine.hits ∧
      request.Sound decode engine.hits := by
  have read (index : Nat) :
      (engine.window (Service.callOf query request))[index]?.map (fun hit => decode hit.payload) =
        records[index]?.map some := by
    rw [← List.getElem?_map, ← List.getElem?_map, decoded]
  refine ⟨⟨?_, ?_, rfl⟩, ?_⟩
  · have same := congrArg List.length decoded
    rw [List.length_map, List.length_map, length_window] at same
    exact same.symm
  · intro index record shown
    have present := read index
    rw [shown, Option.map_some, Option.map_eq_some_iff] at present
    obtain ⟨hit, held, value⟩ := present
    exact ⟨hit, (covers_of_window held).2, value⟩
  · intro position hit covered held
    obtain ⟨index, rfl⟩ := Nat.exists_eq_add_of_le covered.1
    have present := read index
    rw [getElem?_page engine query covered, held, Option.map_some, eq_comm,
      Option.map_eq_some_iff] at present
    obtain ⟨record, -, value⟩ := present
    rw [← value]
    rfl

/-- A hit of a window with only records in front of it is the first on the page that is none. -/
theorem spoils_of_undecodable {earlier later : List Hit} {hit : Hit}
    (split : engine.window (Service.callOf query request) = earlier ++ hit :: later)
    (decoded : ∀ other ∈ earlier, (decode other.payload).isSome = true)
    (undecodable : decode hit.payload = none) :
    request.Spoils decode engine.hits (request.offset + earlier.length) hit := by
  have here : (engine.window (Service.callOf query request))[earlier.length]? = some hit := by
    rw [split]
    simp
  obtain ⟨covered, held⟩ := covers_of_window here
  refine ⟨covered, held, undecodable, ?_⟩
  intro position other inside before present
  obtain ⟨index, rfl⟩ := Nat.exists_eq_add_of_le inside.1
  have front : index < earlier.length := Nat.lt_of_add_lt_add_left before
  have shown := getElem?_page engine query inside
  rw [present, split, List.getElem?_append_left front] at shown
  exact decoded other (List.mem_of_getElem? shown)

end MemoryEngine

/-- A page with a hit that is no record is not sound. -/
theorem PageRequest.Spoils.not_sound {request : PageRequest} {decode : String → Option α}
    {hits : List Hit} {position : Nat} {hit : Hit}
    (spoils : request.Spoils decode hits position hit) : ¬ request.Sound decode hits := by
  intro sound
  have record := sound position hit spoils.covered spoils.held
  rw [spoils.undecodable] at record
  contradiction

namespace Service

variable {service : Service} {criteria : Criteria} {query : String} {number size : Int64}
  {request : PageRequest}

/-- A search without queued failures reads the window of its page. -/
theorem search_of_quiet (compiled : criteria.query? service.table = .ok query)
    (made : service.pager.request? number size = .ok request) (decode : String → Option α)
    {engine : MemoryEngine} (quiet : engine.failures = []) :
    (service.search MemoryEngine.engine decode criteria number size engine).outcome =
      (readPage decode request (engine.answer (callOf query request))).1 := by
  rw [← (service.runQuery_of_quiet decode query request quiet).1]
  simp only [search, made, searchPage, compiled]

/-- Over an engine in memory without queued failures a search gives a page exactly when every hit on
it is a record, the page has a record for each hit on it, and otherwise the search fails with the
first hit on the page that is none. An engine with as many hits and the same ones on the page leads
to the same outcome. -/
theorem search_sees_page_only (service : Service) (decode : String → Option α)
    {criteria : Criteria} {query : String} (compiled : criteria.query? service.table = .ok query)
    {number size : Int64} {request : PageRequest}
    (made : service.pager.request? number size = .ok request) (engine : MemoryEngine)
    (quiet : engine.failures = []) :
    let outcome := (service.search MemoryEngine.engine decode criteria number size engine).outcome
    ((∃ page, outcome = .page page) ↔ request.Sound decode engine.hits) ∧
      (∀ page, outcome = .page page → page.request = request ∧ page.Reads decode engine.hits) ∧
      (¬ request.Sound decode engine.hits → ∃ position hit,
        request.Spoils decode engine.hits position hit ∧
          outcome = .failed (.undecodable hit.key)) ∧
      ∀ other : MemoryEngine, other.failures = [] → other.hits.length = engine.hits.length →
        (∀ position, request.Covers position →
          other.hits[position]? = engine.hits[position]?) →
        (service.search MemoryEngine.engine decode criteria number size other).outcome =
          outcome := by
  intro outcome
  have read : outcome = _ := search_of_quiet compiled made decode quiet
  have ending := materialized_iff.mpr read.symm
  rw [MemoryEngine.total_answer] at ending
  -- Both searches read their pages from one window and one count of hits.
  have alike (other : MemoryEngine) (silent : other.failures = [])
      (length : other.hits.length = engine.hits.length)
      (agree : ∀ position, request.Covers position →
        other.hits[position]? = engine.hits[position]?) :
      (service.search MemoryEngine.engine decode criteria number size other).outcome = outcome := by
    rw [search_of_quiet compiled made decode silent, read, MemoryEngine.answer,
      MemoryEngine.window_congr agree, length]
    rfl
  -- The cases of the reading need the window and the outcome as variables.
  generalize window : (engine.answer (callOf query request)).hits = hits at ending
  generalize outcome = ended at ending alike
  cases ending with
  | @page hits records decoded =>
    subst window
    obtain ⟨reads, sound⟩ := MemoryEngine.reads_of_decoded decoded
    refine ⟨⟨fun _ => sound, fun _ => ⟨_, rfl⟩⟩, ?_, fun spoiled => absurd sound spoiled, alike⟩
    rintro page ⟨⟩
    exact ⟨rfl, reads⟩
  | failed decoded undecodable =>
    have spoils := MemoryEngine.spoils_of_undecodable window decoded undecodable
    refine ⟨⟨nofun, fun sound => absurd sound spoils.not_sound⟩, nofun, fun _ => ?_, alike⟩
    exact ⟨_, _, spoils, rfl⟩

/-- With a third hit that is no record, the page of the second hit is given, also when the first hit
is none either, and the page of the third names it. -/
theorem search_sees_page_only_spoiled :
    let decode := fun text : String => if text = "-" then none else some text
    let service : Service := ⟨FieldTable.films, .of 2, .search 0⟩
    let engine := MemoryEngine.of [⟨"film:1", "one"⟩, ⟨"film:2", "two"⟩, ⟨"film:3", "-"⟩]
    let other := MemoryEngine.of [⟨"film:4", "-"⟩, ⟨"film:2", "two"⟩, ⟨"film:3", "three"⟩]
    let second : PageRequest := ⟨1, 1, by decide, by decide⟩
    let third : PageRequest := ⟨2, 1, by decide, by decide⟩
    let ask (number : Int64) (engine : MemoryEngine) :=
      (service.search MemoryEngine.engine decode Criteria.empty number 1 engine).outcome
    Criteria.empty.query? FieldTable.films = .ok "" ∧
      service.pager.request? 1 1 = .ok second ∧ service.pager.request? 2 1 = .ok third ∧
      engine.failures = [] ∧ second.Sound decode engine.hits ∧ ¬ third.Sound decode engine.hits ∧
      (∃ page, ask 1 engine = .page page ∧ page.Reads decode engine.hits) ∧
      ask 1 other = ask 1 engine ∧ ask 2 engine = .failed (.undecodable "film:3") := by
  intro decode service engine other second third ask
  have compiled : Criteria.empty.query? FieldTable.films = .ok "" := rfl
  have madeSecond : service.pager.request? 1 1 = .ok second := rfl
  have madeThird : service.pager.request? 2 1 = .ok third := rfl
  have sound : second.Sound decode engine.hits := by
    intro position hit covered held
    obtain rfl : position = 1 := Nat.le_antisymm (Nat.le_of_lt_succ covered.2) covered.1
    cases held
    decide
  have unsound : ¬ third.Sound decode engine.hits := by
    intro sound
    exact absurd (sound 2 ⟨"film:3", "-"⟩ ⟨by decide, by decide⟩ rfl) (by decide)
  have agree : ∀ position, second.Covers position →
      other.hits[position]? = engine.hits[position]? := by
    intro position covered
    obtain rfl : position = 1 := Nat.le_antisymm (Nat.le_of_lt_succ covered.2) covered.1
    rfl
  obtain ⟨given, reads, -, alike⟩ :=
    search_sees_page_only service decode compiled madeSecond engine rfl
  obtain ⟨-, -, failed, -⟩ :=
    search_sees_page_only service decode compiled madeThird engine rfl
  obtain ⟨page, shown⟩ := given.mpr sound
  obtain ⟨position, hit, spoils, named⟩ := failed unsound
  obtain rfl : position = 2 :=
    Nat.le_antisymm (Nat.le_of_lt_succ spoils.covered.2) spoils.covered.1
  cases spoils.held
  exact ⟨compiled, madeSecond, madeThird, rfl, sound, unsound, ⟨page, shown, (reads page shown).2⟩,
    alike other rfl rfl agree, named⟩

end Service

end FilmFinder
