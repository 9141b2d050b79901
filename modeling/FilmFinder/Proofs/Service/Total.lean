import FilmFinder.Engine.Link
import FilmFinder.Proofs.Chain
import FilmFinder.Proofs.Service.Account

/-!
# Pages and the number of matches they report

A page reports as many matches as the engine does, or as many as it shows when the engine reports
fewer. What the page passes over is not counted with them, so a page lies within the matches that it
reports when it is the first page or the engine counted at least up to its end.
-/
namespace FilmFinder

variable {σ α : Type}

namespace Service

variable {service : Service} {engine : Engine σ} {decode : String → Option α} {state : σ}
  {request : Request α} {page : Page α}

/-- What is read from an answer is a page of the request with an item for each hit and the number
of matches of the answer. -/
theorem shape_of_readPage {asked : PageRequest} {answer : Answer}
    (given : (readPage decode asked answer).1 = .page page) :
    page.request = asked ∧ page.items.length = answer.hits.length ∧ page.total = answer.total := by
  generalize whole : answer.hits = hits
  have read := materialized_iff.mpr given
  rw [whole] at read
  cases read with
  | page decoded =>
    have same := congrArg List.length decoded
    rw [List.length_map, List.length_map] at same
    exact ⟨rfl, same.symm, rfl⟩

/-- A query that ends has the outcome that the last reply of the engine gives. -/
theorem outcome_runQuery {query : String} {asked : PageRequest}
    (ended : (service.runQuery engine decode query asked state).outcome.Ended) :
    (service.runQuery engine decode query asked state).outcome =
      outcomeOf decode asked (Backoff.nthOutcome (engine.ask (callOf query asked))
        (service.runQuery engine decode query asked state).waits.length state) := by
  obtain ⟨after, waits, reply, run, last⟩ := runQuery_of_ended ended
  simp only [run, last]

/-- A search that gets as far as the engine and ends has the outcome that the last reply gives. -/
theorem outcome_observe {reply : Except EngineError Answer}
    (replied : (service.observe engine state request).reply = some reply)
    (ended : (service.observe engine state request).run.outcome.Ended) :
    ∃ asked, service.pager.request? request.page request.size = .ok asked ∧
      (service.observe engine state request).run.outcome =
        outcomeOf request.decode asked reply := by
  unfold observe lastReply? search at *
  cases paged : service.pager.request? request.page request.size with
  | error error => simp [paged] at replied
  | ok asked =>
    simp only [paged, searchPage] at replied ended ⊢
    cases compiled : request.criteria.query? service.table with
    | error error => simp [compiled] at replied
    | ok query =>
      simp only [compiled] at replied ended ⊢
      rw [← Option.some.inj replied]
      exact ⟨asked, rfl, outcome_runQuery ended⟩

/-- A page that is read from hits of which the engine reported some number reports that number, or
the number of the hits if that is greater. So it lies within the matches that it reports exactly
when nothing is passed over or the engine counted up to its end, and its number is below the count
of pages exactly when those matches go beyond what is passed over. -/
theorem within_total_iff {hits : List Hit} {reported : Nat}
    (replied : (service.observe engine state request).reply = some (.ok (.of hits reported)))
    (given : (service.observe engine state request).run.outcome = .page page) :
    page.items.length = hits.length ∧ page.total = Nat.max reported hits.length ∧
      (page.request.offset + page.items.length ≤ page.total ↔
        page.request.offset = 0 ∨ page.request.offset + hits.length ≤ reported) ∧
      (page.request.index < page.pageCount ↔
        page.request.offset < Nat.max reported hits.length) := by
  have ended : (service.observe engine state request).run.outcome.Ended := by
    rw [given]
    trivial
  obtain ⟨asked, -, outcome⟩ := outcome_observe replied ended
  obtain ⟨-, items, total⟩ := shape_of_readPage (outcome.symm.trans given)
  change page.items.length = hits.length at items
  change page.total = Nat.max reported hits.length at total
  have within : page.request.offset + hits.length ≤ Nat.max reported hits.length ↔
      page.request.offset = 0 ∨ page.request.offset + hits.length ≤ reported := by
    change _ ≤ max reported hits.length ↔ _
    omega
  have below := page.lt_pageCount_iff page.request.index
  rw [total] at below ⊢
  rw [items]
  exact ⟨rfl, rfl, within, below⟩

/-- With a usable rule for attempts a last reply whose hits are all records gives their page. -/
theorem page_of_reply {attempts : Nat} (usable : service.backoff.Usable attempts)
    {answer : Answer} (replied : (service.observe engine state request).reply = some (.ok answer))
    {asked : PageRequest}
    (made : service.pager.request? request.page request.size = .ok asked) {records : List α}
    (decoded : decodeHits request.decode answer.hits = .ok records) :
    (service.observe engine state request).run.outcome =
      .page ⟨records, asked, answer.total⟩ := by
  obtain ⟨same, madeSame, outcome⟩ := outcome_observe replied (ended_of_usable usable request)
  obtain rfl : asked = same := Except.ok.inj (made.symm.trans madeSame)
  rw [outcome]
  simp only [outcomeOf, readPage, decoded]

/-- Two hits of a reply. -/
def miscountedHits : List Hit :=
  [⟨"movie:21", "\x7b\"title\":\"Alien\"\x7d"⟩, ⟨"movie:22", "\x7b\"title\":\"Split\"\x7d"⟩]

/-- A line to an engine whose next reply counts one match and holds the two hits. -/
def miscounted : Link :=
  let found := miscountedHits.flatMap fun hit =>
    [.bulk hit.key.toUTF8, .array [.bulk "$".toUTF8, .bulk hit.payload.toUTF8]]
  ⟨[.reply (.array (.int 1 :: found))], []⟩

/-- The second page of twenty films. -/
def secondOfFilms : Request Film := ⟨Criteria.empty, 1, 20, Film.ofText?⟩

/-- The page that it is on that line. -/
def miscountedPage : Page Film :=
  ⟨[{ Film.blank with title := "Alien" }, { Film.blank with title := "Split" }],
    ⟨1, 20, by decide, by decide⟩, 2⟩

/-- The search for it has a reply of the two hits with one match reported. -/
theorem reply_of_miscounted :
    ((ofSettings {}).observe (Link.engine {}) miscounted secondOfFilms).reply =
      some (.ok (.of miscountedHits 1)) := by
  decide +kernel

/-- The search for it gives the page. -/
theorem page_of_miscounted :
    ((ofSettings {}).observe (Link.engine {}) miscounted secondOfFilms).run.outcome =
      .page miscountedPage := by
  have usable : (ofSettings {}).backoff.Usable 1 :=
    ⟨by decide +kernel, by decide, by decide +kernel⟩
  have second : (ofSettings {}).pager.request? 1 20 = .ok miscountedPage.request :=
    eq_ok_of_toOption_eq_some (by decide +kernel)
  have decoded : decodeHits Film.ofText? miscountedHits = .ok miscountedPage.items :=
    eq_ok_of_toOption_eq_some (by decide +kernel)
  exact page_of_reply usable reply_of_miscounted second decoded

/-- The second page of twenty with two hits, of which the engine reported one match, reports two
matches, which end before it starts. -/
theorem within_total_iff_miscounted :
    ((ofSettings {}).observe (Link.engine {}) miscounted secondOfFilms).reply =
        some (.ok (.of miscountedHits 1)) ∧
      ((ofSettings {}).observe (Link.engine {}) miscounted secondOfFilms).run.outcome =
        .page miscountedPage ∧
      miscountedPage.total = 2 ∧
      ¬ miscountedPage.request.offset + miscountedPage.items.length ≤ miscountedPage.total ∧
      ¬ miscountedPage.request.index < miscountedPage.pageCount := by
  obtain ⟨-, total, within, below⟩ := within_total_iff reply_of_miscounted page_of_miscounted
  exact ⟨reply_of_miscounted, page_of_miscounted, total, mt within.mp (by decide),
    mt below.mp (by decide)⟩

/-- So not every page with items lies within the matches that it reports. -/
theorem not_all_within_total :
    ¬ ∀ (service : Service) (settings : Settings) (link : Link) (request : Request Film)
      (page : Page Film) (hits : List Hit) (reported : Nat),
      (service.observe (Link.engine settings) link request).reply =
        some (.ok (.of hits reported)) →
      hits.length ≤ page.request.size →
      (service.observe (Link.engine settings) link request).run.outcome = .page page →
      page.items ≠ [] →
      page.request.offset + page.items.length ≤ page.total ∧
        page.request.index < page.pageCount := by
  intro all
  have inside := all (ofSettings {}) {} miscounted secondOfFilms miscountedPage miscountedHits 1
    reply_of_miscounted (by decide) page_of_miscounted (List.cons_ne_nil _ _)
  exact absurd inside.1 (by decide)

end Service

end FilmFinder
