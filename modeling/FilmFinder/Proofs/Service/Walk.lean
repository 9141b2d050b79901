import FilmFinder.Proofs.Service.Search

/-!
# Walking the pages

A walk asks for the first page and goes on while a page says that another one follows. Over an
engine in memory whose hits all are records it ends after as many pages as the hits fill, one
at least, and the pages together hold each record once and in order.
-/
namespace FilmFinder

variable {σ α : Type}

/-- A walk from a page on: the pages that were given, and the state of the engine after the
last one. -/
inductive Service.Walk (service : Service) (engine : Engine σ) (decode : String → Option α)
    (criteria : Criteria) (size : Int64) : Int64 → σ → List (Page α) → σ → Prop
  /-- No other page follows. -/
  | last {number : Int64} {state : σ} {page : Page α}
    (given : (service.search engine decode criteria number size state).outcome = .page page)
    (ends : page.hasNext = false) :
    Walk service engine decode criteria size number state [page]
      (service.search engine decode criteria number size state).state
  /-- Another page follows, and the walk goes on with it. -/
  | next {number : Int64} {state final : σ} {page : Page α} {pages : List (Page α)}
    (given : (service.search engine decode criteria number size state).outcome = .page page)
    (follows : page.hasNext = true)
    (rest : Walk service engine decode criteria size (number + 1)
      (service.search engine decode criteria number size state).state pages final) :
    Walk service engine decode criteria size number state (page :: pages) final

namespace Service.Walk

variable {service : Service} {engine : Engine σ} {decode : String → Option α}
  {criteria : Criteria} {size number : Int64} {state final otherFinal : σ}
  {pages otherPages : List (Page α)}

/-- A walk gives a page. -/
theorem pages_ne_nil (walk : service.Walk engine decode criteria size number state pages final) :
    pages ≠ [] := by
  cases walk <;> exact List.cons_ne_nil _ _

/-- There is one walk from a page on. -/
theorem unique (walk : service.Walk engine decode criteria size number state pages final)
    (other : service.Walk engine decode criteria size number state otherPages otherFinal) :
    otherPages = pages ∧ otherFinal = final := by
  induction walk generalizing otherPages otherFinal with
  | last given ends =>
    cases other with
    | last again _ =>
      cases given.symm.trans again
      exact ⟨rfl, rfl⟩
    | next again follows _ =>
      cases given.symm.trans again
      rw [ends] at follows
      contradiction
  | next given follows rest step =>
    cases other with
    | last again ends =>
      cases given.symm.trans again
      rw [ends] at follows
      contradiction
    | next again _ otherRest =>
      cases given.symm.trans again
      obtain ⟨rfl, rfl⟩ := step otherRest
      exact ⟨rfl, rfl⟩

end Service.Walk

/-- Pages tile records: all pages but the last are full, each page counts all matches, and the
pages in order hold the records. -/
structure Page.Tile (size total : Nat) (pages : List (Page α)) (records : List α) : Prop where
  /-- Every page but the last is full. -/
  full : ∀ page ∈ pages.dropLast, page.items.length = size
  /-- Every page counts all matches. -/
  counted : ∀ page ∈ pages, page.total = total
  /-- The pages in order hold the records. -/
  joined : pages.flatMap Page.items = records

namespace Page.Tile

variable {size total : Nat} {page : Page α} {pages : List (Page α)} {records : List α}

/-- One page tiles its items. -/
theorem last (counted : page.total = total) : Tile size total [page] page.items where
  full := by simp
  counted := by simpa using counted
  joined := by simp

/-- A full page in front of other pages. -/
theorem next (full : page.items.length = size) (counted : page.total = total)
    (more : pages ≠ []) (rest : Tile size total pages records) :
    Tile size total (page :: pages) (page.items ++ records) where
  full := by
    rw [List.dropLast_cons_of_ne_nil more]
    exact List.forall_mem_cons.mpr ⟨full, rest.full⟩
  counted := List.forall_mem_cons.mpr ⟨counted, rest.counted⟩
  joined := by rw [List.flatMap_cons, rest.joined]

end Page.Tile

/-- A page shows the part of records that is on the page of this number, when the pages have one
size. -/
structure Page.Shows (page : Page α) (records : List α) (size index : Nat) : Prop where
  /-- The items are the records on the page. -/
  items_eq : page.items = (records.drop (index * size)).take size
  /-- The page counts all records. -/
  total_eq : page.total = records.length
  /-- The page has the number. -/
  index_eq : page.request.index = index
  /-- The page has the size. -/
  size_eq : page.request.size = size

namespace Page.Shows

variable {page : Page α} {records : List α} {size index : Nat}

/-- The page knows how many pages the records fill. -/
theorem pageCount_eq (shows : page.Shows records size index) :
    page.pageCount = (records.length + size - 1) / size := by
  rw [pageCount, shows.total_eq, shows.size_eq]

/-- Another page follows when records lie beyond the page. -/
theorem hasNext_iff_beyond (shows : page.Shows records size index) :
    page.hasNext = true ↔ (index + 1) * size < records.length := by
  rw [hasNext_iff, shows.index_eq, shows.size_eq, shows.total_eq]

/-- Another page follows when its number is below the count of pages. -/
theorem hasNext_iff_below (shows : page.Shows records size index) :
    page.hasNext = true ↔ index + 1 < (records.length + size - 1) / size := by
  rw [hasNext, decide_eq_true_iff, shows.index_eq, shows.pageCount_eq]

/-- The records from the page on are its items and the records from the next page on. -/
theorem drop_eq_append (shows : page.Shows records size index) :
    records.drop (index * size) = page.items ++ records.drop ((index + 1) * size) := by
  rw [shows.items_eq, Nat.succ_mul, ← List.drop_drop, List.take_append_drop]

/-- A page that another one follows is full. -/
theorem length_items (shows : page.Shows records size index) (more : page.hasNext = true) :
    page.items.length = size := by
  have beyond := shows.hasNext_iff_beyond.mp more
  rw [Nat.succ_mul] at beyond
  rw [shows.items_eq, List.length_take, List.length_drop]
  exact Nat.min_eq_left (by omega)

/-- A page behind all records is empty. -/
theorem items_eq_nil (shows : page.Shows records size index)
    (beyond : (records.length + size - 1) / size ≤ index) : page.items = [] := by
  have outside : records.length ≤ index * size := by
    rw [← shows.total_eq, ← shows.size_eq]
    refine Nat.le_of_not_lt fun inside => ?_
    have below := (page.lt_pageCount_iff index).mpr inside
    rw [shows.pageCount_eq] at below
    omega
  rw [shows.items_eq, List.drop_eq_nil_of_le outside, List.take_nil]

end Page.Shows

/-- No failure is queued and the payloads of the hits are these records. -/
structure MemoryEngine.Holds (engine : MemoryEngine) (decode : String → Option α)
    (records : List α) : Prop where
  /-- No failure is queued. -/
  quiet : engine.failures = []
  /-- The payloads of the hits are the records. -/
  decoded : engine.hits.map (fun hit => decode hit.payload) = records.map some

namespace MemoryEngine.Holds

variable {engine : MemoryEngine} {decode : String → Option α} {records : List α}

/-- There are as many hits as records. -/
theorem length_hits (holds : engine.Holds decode records) :
    engine.hits.length = records.length := by
  have same := congrArg List.length holds.decoded
  rwa [List.length_map, List.length_map] at same

/-- The payloads in the window of a call are the records in that window. -/
theorem decoded_window (holds : engine.Holds decode records) (call : Call) :
    (engine.window call).map (fun hit => decode hit.payload) =
      ((records.drop call.offset).take call.limit).map some := by
  unfold window
  rw [List.map_take, List.map_drop, holds.decoded, List.map_take, List.map_drop]

/-- Calls leave the records where they are. -/
theorem afterCalls (holds : engine.Holds decode records) (call : Call) (count : Nat) :
    (engine.afterCalls call count).Holds decode records where
  quiet := by
    change engine.failures.drop count = []
    rw [holds.quiet, List.drop_nil]
  decoded := holds.decoded

end MemoryEngine.Holds

namespace Service

variable {service : Service} {decode : String → Option α} {criteria : Criteria} {query : String}
  {engine : MemoryEngine} {records : List α}

/-- A search for an existing page shows that page of the records and leaves them in the engine. -/
theorem search_shows (compiled : criteria.query? service.table = .ok query)
    (holds : engine.Holds decode records) {number size : Int64} {request : PageRequest}
    (made : service.pager.request? number size = .ok request) :
    let run := service.search MemoryEngine.engine decode criteria number size engine
    ∃ page : Page α, run.outcome = .page page ∧
      page.Shows records request.size request.index ∧
      run.state.Holds decode records ∧ run.state.hits = engine.hits := by
  have asked : service.search MemoryEngine.engine decode criteria number size engine =
      service.runQuery MemoryEngine.engine decode query request engine := by
    simp only [search, made, searchPage, compiled]
  have done := service.runQuery_of_quiet decode query request holds.quiet
  have items : decodeHits decode (engine.answer (callOf query request)).hits =
      .ok ((records.drop request.offset).take request.size) :=
    decodeHits_of_decoded (holds.decoded_window (callOf query request))
  have counted : (engine.answer (callOf query request)).total = records.length := by
    rw [MemoryEngine.total_answer, holds.length_hits]
  intro run
  refine ⟨⟨(records.drop request.offset).take request.size, request, records.length⟩, ?_,
    ⟨rfl, rfl, rfl, rfl⟩, ?_, ?_⟩
  · rw [show run = _ from asked, done.1]
    simp only [readPage, items, counted]
  · rw [show run = _ from asked, done.2]
    exact holds.afterCalls _ _
  · rw [show run = _ from asked, done.2, MemoryEngine.hits_afterCalls]

/-- The walk from a page on tiles the records from that page on. -/
def TilesFrom (service : Service) (decode : String → Option α) (criteria : Criteria)
    (size number : Int64) (engine : MemoryEngine) (records : List α) (pageSize index : Nat) :
    Prop :=
  ∃ pages final, service.Walk MemoryEngine.engine decode criteria size number engine pages final ∧
    index + pages.length = Nat.max (index + 1) ((records.length + pageSize - 1) / pageSize) ∧
    Page.Tile pageSize records.length pages (records.drop (index * pageSize)) ∧
    final.Holds decode records ∧ final.hits = engine.hits

/-- A walk is over with a page that no other one follows. -/
theorem tilesFrom_of_last {number size : Int64} {pageSize index : Nat} {page : Page α}
    (shows : page.Shows records pageSize index) (ends : page.hasNext = false)
    (given : (service.search MemoryEngine.engine decode criteria number size engine).outcome =
      .page page)
    (after : (service.search MemoryEngine.engine decode criteria number size engine).state.Holds
      decode records)
    (sameHits : (service.search MemoryEngine.engine decode criteria number size
      engine).state.hits = engine.hits) :
    service.TilesFrom decode criteria size number engine records pageSize index := by
  have notMore : ¬ page.hasNext = true := by
    rw [ends]
    exact Bool.false_ne_true
  have few : (records.length + pageSize - 1) / pageSize ≤ index + 1 :=
    Nat.le_of_not_lt (mt shows.hasNext_iff_below.mpr notMore)
  have past : records.length ≤ (index + 1) * pageSize :=
    Nat.le_of_not_lt (mt shows.hasNext_iff_beyond.mpr notMore)
  refine ⟨[page], _, .last given ends, (Nat.max_eq_left few).symm, ?_, after, sameHits⟩
  rw [shows.drop_eq_append, List.drop_eq_nil_of_le past, List.append_nil]
  exact .last shows.total_eq

/-- A walk goes on after a page that another one follows. -/
theorem tilesFrom_of_next {number size : Int64} {pageSize index : Nat} {page : Page α}
    (shows : page.Shows records pageSize index) (follows : page.hasNext = true)
    (given : (service.search MemoryEngine.engine decode criteria number size engine).outcome =
      .page page)
    (sameHits : (service.search MemoryEngine.engine decode criteria number size
      engine).state.hits = engine.hits)
    (rest : service.TilesFrom decode criteria size (number + 1)
      (service.search MemoryEngine.engine decode criteria number size engine).state records pageSize
      (index + 1)) :
    service.TilesFrom decode criteria size number engine records pageSize index := by
  obtain ⟨pages, final, walk, length, tile, stillHolds, stillHits⟩ := rest
  have another : index + 1 < (records.length + pageSize - 1) / pageSize :=
    shows.hasNext_iff_below.mp follows
  refine ⟨page :: pages, final, .next given follows walk, ?_, ?_, stillHolds,
    stillHits.trans sameHits⟩
  · calc index + (pages.length + 1) = index + 1 + pages.length := Nat.add_right_comm _ _ 1
      _ = Nat.max (index + 2) ((records.length + pageSize - 1) / pageSize) := length
      _ = (records.length + pageSize - 1) / pageSize := Nat.max_eq_right another
      _ = Nat.max (index + 1) ((records.length + pageSize - 1) / pageSize) :=
        (Nat.max_eq_right (Nat.le_of_lt another)).symm
  · rw [shows.drop_eq_append]
    exact .next (shows.length_items follows) shows.total_eq walk.pages_ne_nil tile

/-- The walk from the first page, or from a page that holds a record, tiles the records from that
page on. -/
theorem tilesFrom_of_inside {size : Int64} {pageSize : Nat}
    (compiled : criteria.query? service.table = .ok query)
    (meant : service.pager.effectiveSize size = pageSize) (bounded : records.length < signedBound)
    (left : Nat) {index : Nat} {number : Int64} (numbered : number.toInt = index)
    (inside : index = 0 ∨ index * pageSize < records.length)
    (reach : records.length < index + left) (holds : engine.Holds decode records) :
    service.TilesFrom decode criteria size number engine records pageSize index := by
  subst meant
  have positive := service.pager.effectiveSize_pos size
  -- A page after the first holds a record, so its number is below the count of records and there
  -- is room for the next number.
  induction left generalizing index number engine with
  | zero =>
    have reached := Nat.le_mul_of_pos_right index positive
    omega
  | succ left step =>
    have fits : index * service.pager.effectiveSize size < wordBound := by
      rcases inside with rfl | inside
      · rw [Nat.zero_mul]
        decide
      · exact Nat.lt_trans inside (Nat.lt_trans bounded (by decide))
    obtain ⟨page, given, shows, after, sameHits⟩ :=
      search_shows compiled holds (Pager.request?_of_fits numbered fits)
    cases more : page.hasNext with
    | false => exact tilesFrom_of_last shows more given after sameHits
    | true =>
      have beyond : (index + 1) * service.pager.effectiveSize size < records.length :=
        shows.hasNext_iff_beyond.mp more
      have reached := Nat.le_mul_of_pos_right (index + 1) positive
      have numberedNext := toInt_next numbered (by omega)
      exact tilesFrom_of_next shows more given sameHits
        (step numberedNext (by omega) after (.inr beyond))

/-- A page after the last one that holds a record is empty, and no other page follows it. -/
theorem search_beyond {number size : Int64}
    (compiled : criteria.query? service.table = .ok query) (holds : engine.Holds decode records)
    {request : PageRequest} (made : service.pager.request? number size = .ok request)
    (beyond : (records.length + service.pager.effectiveSize size - 1) /
      service.pager.effectiveSize size ≤ number.toInt.toNat) :
    ∃ page : Page α,
      (service.search MemoryEngine.engine decode criteria number size engine).outcome =
        .page page ∧ page.items = [] ∧ page.isLast = true ∧ page.total = records.length := by
  obtain ⟨-, atIndex, sized⟩ := Pager.request?_eq_ok_iff.mp made
  obtain ⟨page, given, shows, -⟩ := search_shows compiled holds made
  rw [← sized, ← atIndex] at beyond
  have final : ¬ page.hasNext = true := by
    rw [shows.hasNext_iff_below]
    omega
  refine ⟨page, given, shows.items_eq_nil beyond, ?_, shows.total_eq⟩
  rw [Page.isLast, Bool.eq_false_iff.mpr final, Bool.not_false]

end Service

/-- Walking the pages neither loses nor repeats a record and always ends: whatever the default
size, the size and the rule for attempts, the walk from the first page over an engine that
holds records takes as many pages as the records fill and one at least, tiles the records, and is
the only walk. Every later page that exists is empty and the last. -/
theorem Service.walk_tiles_records (table : FieldTable) (defaultSize : Nat) (backoff : Backoff)
    (decode : String → Option α) (criteria : Criteria) (query : String)
    (compiled : criteria.query? table = .ok query) (size : Int64) (engine : MemoryEngine)
    (records : List α) (holds : engine.Holds decode records)
    (bounded : engine.hits.length < signedBound) :
    let service : Service := ⟨table, .of defaultSize, backoff⟩
    let pageSize :=
      if 0 < size.toInt then size.toInt.toNat
      else if defaultSize = 0 then defaultPageSize else defaultSize
    let total := engine.hits.length
    ∃ pages final, service.Walk MemoryEngine.engine decode criteria size 0 engine pages final ∧
      (∀ otherPages otherFinal,
        service.Walk MemoryEngine.engine decode criteria size 0 engine otherPages otherFinal →
          otherPages = pages ∧ otherFinal = final) ∧
      pages.length = Nat.max 1 ((total + pageSize - 1) / pageSize) ∧
      Page.Tile pageSize total pages records ∧
      final.Holds decode records ∧ final.hits = engine.hits ∧
      ∀ state : MemoryEngine, state.Holds decode records → ∀ (later : Int64) (request : PageRequest),
        pages.length ≤ later.toInt.toNat → service.pager.request? later size = .ok request →
          ∃ page : Page α,
            (service.search MemoryEngine.engine decode criteria later size state).outcome =
              .page page ∧ page.items = [] ∧ page.isLast = true ∧ page.total = total := by
  intro service pageSize total
  have count : total = records.length := holds.length_hits
  have meant : service.pager.effectiveSize size = pageSize := Pager.effectiveSize_of defaultSize size
  obtain ⟨pages, final, walk, length, tile, stillHolds, sameHits⟩ :
      service.TilesFrom decode criteria size 0 engine records pageSize 0 :=
    tilesFrom_of_inside compiled meant (count ▸ bounded) (records.length + 1) rfl (.inl rfl)
      (by omega) holds
  rw [Nat.zero_add, ← count] at length
  rw [Nat.zero_mul, List.drop_zero, ← count] at tile
  refine ⟨pages, final, walk, fun _ _ => walk.unique, length, tile, stillHolds, sameHits, ?_⟩
  intro state held later request past made
  rw [count]
  refine search_beyond compiled held made ?_
  rw [length, count] at past
  rw [meant]
  exact Nat.le_trans (Nat.le_max_right _ _) past

/-- Three hits are walked in two pages of two. -/
theorem Service.walk_tiles_records_three :
    let engine := MemoryEngine.of [⟨"film:1", "one"⟩, ⟨"film:2", "two"⟩, ⟨"film:3", "three"⟩]
    let service : Service := ⟨FieldTable.films, .of 2, .search 0⟩
    Criteria.empty.query? FieldTable.films = .ok "" ∧
      engine.Holds some ["one", "two", "three"] ∧ engine.hits.length < signedBound ∧
      ∃ pages final,
        service.Walk MemoryEngine.engine some Criteria.empty 0 0 engine pages final ∧
          pages.length = 2 ∧ Page.Tile 2 3 pages ["one", "two", "three"] := by
  intro engine service
  have compiled : Criteria.empty.query? FieldTable.films = .ok "" := rfl
  have holds : engine.Holds some ["one", "two", "three"] := ⟨rfl, rfl⟩
  have bounded : engine.hits.length < signedBound := by decide
  obtain ⟨pages, final, walk, -, length, tile, -⟩ := walk_tiles_records FieldTable.films 2
    (.search 0) some Criteria.empty "" compiled 0 engine _ holds bounded
  have meant : (if 0 < (0 : Int64).toInt then (0 : Int64).toInt.toNat
      else if 2 = 0 then defaultPageSize else 2) = 2 := by decide
  rw [meant] at length tile
  have two : Nat.max 1 ((engine.hits.length + 2 - 1) / 2) = 2 := by decide
  exact ⟨compiled, holds, bounded, pages, final, walk, length.trans two, tile⟩

end FilmFinder
