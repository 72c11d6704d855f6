import AssetAtlas.Proofs.Graph.WellFormed
import AssetAtlas.Proofs.Loading.Session

/-!
What a loader publishes while requests overlap. The main statement is `Run.coherent`: in every state
that a session can reach, a stale answer changes nothing, and a snapshot of the latest generation
shows exactly what is asked for now. The graph that is published is always a well-formed one.
-/

namespace AssetAtlas

/-- The loader has published the answer to its latest request, which is among the events. -/
structure Loader.ShowsLatest (l : Loader) (events : List Event) : Prop where
  limit_eq : l.snapshot.limit = l.limit
  dataQuery_eq : l.snapshot.dataQuery =
    (Query.program .data l.inquiry.criteria.list l.limit l.inquiry.showInternet).text
  countQuery_eq : l.snapshot.countQuery =
    (Query.program .count l.inquiry.criteria.list l.limit l.inquiry.showInternet).text
  answer :
    (∃ a at_, .complete l.generation (.ok a) at_ ∈ events ∧
      l.snapshot.graph = (l.inquiry.graph a.rows).1 ∧ l.snapshot.total = a.total.toNat ∧
      (l.snapshot.hasMore = true ↔ l.limit < l.snapshot.total) ∧
      l.snapshot.moreAvailable =
        if l.snapshot.hasMore then min 25 (l.snapshot.total - l.limit) else 0) ∨
    (∃ fault at_, .complete l.generation (.error fault) at_ ∈ events ∧
      l.snapshot.graph = {} ∧ l.snapshot.total = 0 ∧ l.snapshot.hasMore = false ∧
      l.snapshot.moreAvailable = 0)

namespace Session

/-- What holds of a session after some events, however its requests overlap. -/
structure Coherent (events : List Event) (s : Session) : Prop where
  /-- The answer to a ticket that is not the latest one leaves the loader as it is. -/
  stale_ignored : ∀ generation answer at_ s', Step s (.complete generation answer at_) s' →
    generation ≠ s.loader.generation → s'.loader = s.loader
  /-- What is published later is never older. -/
  published_mono : ∀ more s', Run s more s' →
    s.loader.snapshot.generation ≤ s'.loader.snapshot.generation
  published_le : s.loader.snapshot.generation ≤ s.loader.generation
  latest : 1 ≤ s.loader.snapshot.generation →
    s.loader.snapshot.generation = s.loader.generation → s.loader.ShowsLatest events
  limit_eq : s.loader.limit = 25 * (1 + pagesLoadedMore (issued events))

theorem loader_eq_of_stale {s s' : Session} {generation : Nat}
    {answer : Except Fault StoreAnswer} {at_ : Instant}
    (hstep : Step s (.complete generation answer at_) s')
    (hstale : generation ≠ s.loader.generation) : s'.loader = s.loader := by
  cases hstep with
  | complete l before t after => exact l.complete_of_ne hstale answer at_

theorem Invariant.showsLatest {events : List Event} {s : Session} (h : Invariant events s)
    (hpos : 1 ≤ s.loader.snapshot.generation)
    (hlatest : s.loader.snapshot.generation = s.loader.generation) :
    s.loader.ShowsLatest events := by
  obtain ⟨answer, at_, hmem, hsnapshot⟩ := h.published_eq hpos hlatest
  -- whether the store answered or failed, the snapshot carries what the ticket asked for
  obtain ⟨hlimit, hdata, hcount⟩ : s.loader.snapshot.limit = s.loader.ticket.limit ∧
      s.loader.snapshot.dataQuery = s.loader.ticket.dataQuery ∧
      s.loader.snapshot.countQuery = s.loader.ticket.countQuery := by
    rw [hsnapshot]
    cases answer <;> exact ⟨rfl, rfl, rfl⟩
  refine ⟨hlimit, hdata, hcount, ?_⟩
  cases answer with
  | ok a =>
      refine .inl ⟨a, at_, hmem, ?_⟩
      rw [hsnapshot]
      exact ⟨rfl, rfl, paginate_fst_iff .., paginate_snd ..⟩
  | error fault =>
      refine .inr ⟨fault, at_, hmem, ?_⟩
      rw [hsnapshot]
      exact ⟨rfl, rfl, rfl, rfl⟩

/-- However requests and answers overlap, a stale answer changes nothing, what is published never
gets older, and an answer to the latest request shows what is asked for now. -/
theorem Run.coherent {at_ : Instant} {events : List Event} {s : Session}
    (h : Run (new at_) events s) : s.Coherent events := by
  have hinv : Invariant events s := by
    simpa using (Invariant.new at_).run h
  exact
    { stale_ignored := fun _ _ _ _ hstep hstale => loader_eq_of_stale hstep hstale
      published_mono := fun _ _ hrun => hinv.published_mono hrun
      published_le := hinv.published_le
      latest := fun hpos hlatest => hinv.showsLatest hpos hlatest
      limit_eq := h.loader_eq.2.1 }

/-- The answer to the first request comes after the answer to the second one. -/
theorem coherent_overtaken_answer :
    ∃ s, Run (new default)
        [.issue (.applyFilters {}), .issue .loadMore, .complete 2 (.ok ⟨[], 60⟩) default,
          .complete 1 (.error (.other "late")) default] s ∧
      s.loader.snapshot.generation = 2 ∧ s.loader.snapshot.moreAvailable = 10 ∧
      Coherent
        [.issue (.applyFilters {}), .issue .loadMore, .complete 2 (.ok ⟨[], 60⟩) default,
          .complete 1 (.error (.other "late")) default] s := by
  let first := (Loader.new default).request (.applyFilters {})
  let second := first.1.request .loadMore
  have issued : Run (new default) [.issue (.applyFilters {}), .issue .loadMore]
      ⟨second.1, [first.2, second.2]⟩ :=
    (Run.refl.step (.issue _ _ _)).step (.issue _ _ _)
  have answered := (issued.step
    (.complete _ [first.2] second.2 [] (.ok ⟨[], 60⟩) default)).step
    (.complete _ [] first.2 [] (.error (.other "late")) default)
  exact ⟨_, answered, rfl, rfl, answered.coherent⟩

theorem wellFormed_outcome (t : Ticket) (answer : Except Fault StoreAnswer) (at_ : Instant) :
    (t.outcome answer at_).graph.WellFormed := by
  cases answer with
  | ok a => exact t.inquiry.wellFormed_graph a.rows
  | error fault => exact .empty

theorem Step.wellFormed {s s' : Session} {e : Event} (hstep : Step s e s')
    (h : s.loader.snapshot.graph.WellFormed) : s'.loader.snapshot.graph.WellFormed := by
  cases hstep with
  | issue l ts r =>
      change (l.request r).1.snapshot.graph.WellFormed
      rw [l.snapshot_request]
      exact h
  | complete l before t after answer at_ =>
      change (l.complete t answer at_).1.snapshot.graph.WellFormed
      by_cases hlatest : t.generation = l.generation
      · rw [l.complete_of_eq hlatest]
        exact wellFormed_outcome t answer at_
      · rw [l.complete_of_ne hlatest]
        exact h

/-- Whatever the store answers and when, the graph that is published is well formed. -/
theorem Run.wellFormed {at_ : Instant} {events : List Event} {s : Session}
    (h : Run (new at_) events s) : s.loader.snapshot.graph.WellFormed := by
  induction h with
  | refl => exact .empty
  | step _ hstep ih => exact hstep.wellFormed ih

end Session

end AssetAtlas
