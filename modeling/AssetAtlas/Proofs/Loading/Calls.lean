import Mathlib.Logic.Function.Basic
import AssetAtlas.Proofs.Loading.Settlement
import AssetAtlas.Proofs.Query.Writing

/-!
Calls that overlap. A call that loads several pages goes back to the loader for each of them, and
other calls may come in between: while it waits for an answer, and also after an answer, before it
asks for its next page. So the state here is a loader together with the stage of every call, and a
run is any sequence of steps of any of the calls.

Going on to the next page takes what the loader asks for at that moment. `Run.traced` therefore ties
the ticket of a call to all requests up to the latest one of its own, whoever made them, and
`loadPages_shows_own_filters` reads off when a call for pages answers its own filters: when nobody
else applies filters between its first page and its last one. `loadPages_shows_other_filters` is
what happens otherwise.
-/

namespace AssetAtlas

/-- Where a call stands. -/
inductive Stage where
  | idle
  | waiting (w : Waiting)
  /-- It has a page, and it is about to ask for one more. -/
  | paused (page left : Nat)
  | finished (result : Except Fault Snapshot)

/-- The stage of a call that went on as soon as it was answered. -/
def Stage.ofProgress : Progress → Stage
  | .finished result => .finished result
  | .waiting w => .waiting w

/-- What a waiting call makes of its answer. -/
def Waiting.settle (w : Waiting) (answer : Except Fault StoreAnswer) (at_ : Instant) : Stage :=
  match answer, w.left with
  | .ok a, left + 1 =>
    let s := w.ticket.snapshot a at_
    if s.hasMore then .paused w.page left else .finished (.ok s)
  | .ok a, 0 => .finished (.ok (w.ticket.snapshot a at_))
  | .error fault, _ => .finished (.error fault)

namespace Waiting

variable (w : Waiting) (l : Loader) (answer : Except Fault StoreAnswer) (at_ : Instant)

/-- To go on at once is to settle, and to ask for one more page unless that was the end. -/
theorem resume_cases :
    (∃ page left, w.settle answer at_ = .paused page left ∧
      (w.resume l answer at_).1 = (l.complete w.ticket answer at_).1.loadMore.1 ∧
      (w.resume l answer at_).2.1 =
        .waiting ⟨(l.complete w.ticket answer at_).1.loadMore.2, page + 1, left⟩) ∨
    ∃ result, w.settle answer at_ = .finished result ∧
      (w.resume l answer at_).1 = (l.complete w.ticket answer at_).1 ∧
      (w.resume l answer at_).2.1 = .finished result := by
  cases answer with
  | error fault => exact .inr ⟨.error fault, rfl, rfl, rfl⟩
  | ok a =>
      obtain ⟨t, page, _ | left⟩ := w
      · exact .inr ⟨.ok (t.snapshot a at_), rfl, rfl, rfl⟩
      · by_cases hmore : (t.snapshot a at_).hasMore = true
        · refine .inl ⟨page, left, ?_, ?_, ?_⟩
          · simp only [settle, hmore, if_true]
          · simp only [resume, Loader.complete, hmore, if_true]
          · simp only [resume, Loader.complete, hmore, if_true]
        · refine .inr ⟨.ok (t.snapshot a at_), ?_, ?_, ?_⟩
          · simp only [settle, hmore]
            rfl
          · simp only [resume, Loader.complete, hmore]
            rfl
          · simp only [resume, Loader.complete, hmore]
            rfl

theorem eq_of_settle_finished {w : Waiting} {answer : Except Fault StoreAnswer} {at_ : Instant}
    {result : Except Fault Snapshot} (h : w.settle answer at_ = .finished result) :
    result = answer.map (w.ticket.snapshot · at_) := by
  unfold settle at h
  dsimp only at h
  split at h
  · split at h
    · exact nomatch h
    · exact (Stage.finished.inj h).symm
  · exact (Stage.finished.inj h).symm
  · exact (Stage.finished.inj h).symm

end Waiting

def Call.request : Call → PageRequest
  | .applyFilters i | .loadPages i _ => .applyFilters i
  | .loadMore => .loadMore

theorem Call.start_fst (c : Call) (l : Loader) : (c.start l).1 = (l.request c.request).1 := by
  cases c <;> rfl

theorem Call.ticket_start (c : Call) (l : Loader) :
    (c.start l).2.ticket = (l.request c.request).2 := by
  cases c <;> rfl

/-- One thing that happens to the call of a number. -/
inductive CallEvent where
  | start (id : Nat) (c : Call)
  | answer (id : Nat) (answer : Except Fault StoreAnswer) (at_ : Instant)
  /-- The call asks for its next page. -/
  | advance (id : Nat)

namespace CallEvent

def request? : CallEvent → Option PageRequest
  | .start _ c => some c.request
  | .answer .. => none
  | .advance _ => some .loadMore

def inquiry? (e : CallEvent) : Option Inquiry :=
  e.request?.bind PageRequest.inquiry?

def isRequestOf (id : Nat) : CallEvent → Bool
  | .start other _ | .advance other => other == id
  | .answer .. => false

end CallEvent

def requests (events : List CallEvent) : List PageRequest :=
  events.filterMap CallEvent.request?

/-- What happened until a call asked for its latest page. -/
def untilRequestOf (id : Nat) (events : List CallEvent) : List CallEvent :=
  events.rdropWhile fun e => !e.isRequestOf id

theorem untilRequestOf_concat_of_request {id : Nat} {e : CallEvent} (h : e.isRequestOf id = true)
    (events : List CallEvent) : untilRequestOf id (events ++ [e]) = events ++ [e] := by
  simp [untilRequestOf, h]

theorem untilRequestOf_concat_of_other {id : Nat} {e : CallEvent} (h : e.isRequestOf id = false)
    (events : List CallEvent) :
    untilRequestOf id (events ++ [e]) = untilRequestOf id events := by
  simp [untilRequestOf, h]

theorem lastInquiry_requests_of_quiet (before : List CallEvent) {e : CallEvent} {i : Inquiry}
    (he : e.inquiry? = some i) {more : List CallEvent} (hquiet : ∀ e ∈ more, e.inquiry? = none) :
    lastInquiry (requests (before ++ e :: more)) = i := by
  have hfilters : (requests more).filterMap PageRequest.inquiry? = [] := by
    rw [requests, List.filterMap_filterMap, List.filterMap_eq_nil_iff]
    exact hquiet
  have hown : (requests [e]).filterMap PageRequest.inquiry? = [i] := by
    rw [requests, List.filterMap_filterMap]
    exact List.filterMap_cons_some he
  rw [List.append_cons, requests, List.filterMap_append, List.filterMap_append, lastInquiry,
    List.filterMap_append, List.filterMap_append]
  change ((_ ++ (requests [e]).filterMap _ ++ (requests more).filterMap _).getLast?).getD _ = i
  rw [hfilters, hown, List.append_nil, List.getLast?_append]
  rfl

theorem Loader.ticket_request_of_eq {l : Loader} {rs : List PageRequest}
    (h : l.ticket = lastTicket rs) (r : PageRequest) :
    (l.request r).1.ticket = lastTicket (rs ++ [r]) := by
  have hinquiry : l.inquiry = lastInquiry rs := congrArg Ticket.inquiry h
  have hlimit : l.limit = 25 * (1 + pagesLoadedMore rs) := congrArg Ticket.limit h
  have hgeneration : l.generation = rs.length := congrArg Ticket.generation h
  cases r with
  | applyFilters i =>
      simp only [lastTicket, lastInquiry_applyFilters, pagesLoadedMore_applyFilters,
        List.length_append, List.length_singleton, ← hgeneration]
      rfl
  | loadMore =>
      have hgrown : 25 * (1 + (pagesLoadedMore rs + 1)) = l.limit + 25 := by omega
      simp only [lastTicket, lastInquiry_loadMore, pagesLoadedMore_loadMore, List.length_append,
        List.length_singleton, ← hgeneration, hgrown, ← hinquiry]
      rfl

/-- A call waits for what all requests up to its own latest one add up to, and it ends with the
answer to that. -/
def Stage.Follows (id : Nat) (events : List CallEvent) : Stage → Prop
  | .idle | .paused .. => True
  | .waiting w => w.ticket = lastTicket (requests (untilRequestOf id events))
  | .finished result => ∃ answer at_, .answer id answer at_ ∈ events ∧
    result = answer.map
      ((lastTicket (requests (untilRequestOf id events))).snapshot · at_)

theorem Stage.Follows.concat {id : Nat} {events : List CallEvent} {stage : Stage}
    (h : stage.Follows id events) {e : CallEvent} (he : e.isRequestOf id = false) :
    stage.Follows id (events ++ [e]) := by
  cases stage with
  | idle | paused => trivial
  | waiting w =>
      change w.ticket = _
      rw [untilRequestOf_concat_of_other he]
      exact h
  | finished result =>
      obtain ⟨answer, at_, hmem, hresult⟩ := h
      refine ⟨answer, at_, List.mem_append_left _ hmem, ?_⟩
      rw [untilRequestOf_concat_of_other he]
      exact hresult

theorem Loader.ticket_complete (l : Loader) (t : Ticket) (answer : Except Fault StoreAnswer)
    (at_ : Instant) : (l.complete t answer at_).1.ticket = l.ticket := by
  by_cases h : t.generation = l.generation
  · rw [l.complete_of_eq h]
    rfl
  · rw [l.complete_of_ne h]

/-- A loader, and how far each call is. -/
structure Calls where
  loader : Loader
  stage : Nat → Stage

namespace Calls

def new (at_ : Instant) : Calls := ⟨.new at_, fun _ => .idle⟩

/-- The steps of calls. Whichever call can go on may be the next one to do so. -/
inductive Step : Calls → CallEvent → Calls → Prop where
  | start (l : Loader) (stage : Nat → Stage) (id : Nat) (c : Call) (h : stage id = .idle) :
    Step ⟨l, stage⟩ (.start id c)
      ⟨(c.start l).1, Function.update stage id (.waiting (c.start l).2)⟩
  | answer (l : Loader) (stage : Nat → Stage) (id : Nat) (w : Waiting) (h : stage id = .waiting w)
      (answer : Except Fault StoreAnswer) (at_ : Instant) :
    Step ⟨l, stage⟩ (.answer id answer at_)
      ⟨(l.complete w.ticket answer at_).1, Function.update stage id (w.settle answer at_)⟩
  | advance (l : Loader) (stage : Nat → Stage) (id page left : Nat)
      (h : stage id = .paused page left) :
    Step ⟨l, stage⟩ (.advance id)
      ⟨l.loadMore.1, Function.update stage id (.waiting ⟨l.loadMore.2, page + 1, left⟩)⟩

inductive Run (start : Calls) : List CallEvent → Calls → Prop where
  | refl : Run start [] start
  | step {events : List CallEvent} {s s' : Calls} {e : CallEvent} :
    Run start events s → Step s e s' → Run start (events ++ [e]) s'

/-- A call that goes on as soon as it is answered takes one or two of these steps. -/
theorem Run.resume {start : Calls} {events : List CallEvent} {l : Loader} {stage : Nat → Stage}
    (h : Run start events ⟨l, stage⟩) {id : Nat} {w : Waiting} (hw : stage id = .waiting w)
    (answer : Except Fault StoreAnswer) (at_ : Instant) :
    ∃ more, Run start (events ++ .answer id answer at_ :: more)
      ⟨(w.resume l answer at_).1,
        Function.update stage id (.ofProgress (w.resume l answer at_).2.1)⟩ := by
  have hanswered := h.step (.answer l stage id w hw answer at_)
  rcases w.resume_cases l answer at_ with ⟨page, left, hsettle, hloader, hprogress⟩ |
    ⟨result, hsettle, hloader, hprogress⟩
  · rw [hsettle] at hanswered
    have hadvanced := hanswered.step
      (.advance _ _ id page left (Function.update_self id _ stage))
    rw [Function.update_idem, List.append_assoc] at hadvanced
    rw [hloader, hprogress]
    exact ⟨[.advance id], hadvanced⟩
  · rw [hsettle] at hanswered
    rw [hloader, hprogress]
    exact ⟨[], hanswered⟩

/-- The loader and its calls are where the requests so far have brought them. -/
structure Traced (events : List CallEvent) (s : Calls) : Prop where
  ticket_eq : s.loader.ticket = lastTicket (requests events)
  follows : ∀ id, (s.stage id).Follows id events

theorem Traced.new (at_ : Instant) : Traced [] (new at_) where
  ticket_eq := rfl
  follows := fun _ => trivial

theorem Traced.request {events : List CallEvent} {l : Loader} {stage : Nat → Stage}
    (h : Traced events ⟨l, stage⟩) {e : CallEvent} {id : Nat}
    (he : ∀ other, e.isRequestOf other = (id == other)) {r : PageRequest}
    (hr : e.request? = some r) {w : Waiting} (hw : w.ticket = (l.request r).2) :
    Traced (events ++ [e]) ⟨(l.request r).1, Function.update stage id (.waiting w)⟩ := by
  have hticket : (l.request r).1.ticket = lastTicket (requests (events ++ [e])) := by
    have hrequests : requests (events ++ [e]) = requests events ++ [r] := by
      simp [requests, hr]
    rw [hrequests]
    exact Loader.ticket_request_of_eq h.ticket_eq r
  refine ⟨hticket, (Function.forall_update_iff stage _).mpr ⟨?_, ?_⟩⟩
  · change w.ticket = _
    rw [untilRequestOf_concat_of_request (by rw [he, beq_self_eq_true]), ← hticket, hw,
      l.ticket_request]
  · intro other hne
    exact (h.follows other).concat (by rw [he, beq_false_of_ne hne.symm])

theorem Traced.answer {events : List CallEvent} {l : Loader} {stage : Nat → Stage}
    (h : Traced events ⟨l, stage⟩) {id : Nat} {w : Waiting} (hw : stage id = .waiting w)
    (answer : Except Fault StoreAnswer) (at_ : Instant) :
    Traced (events ++ [.answer id answer at_])
      ⟨(l.complete w.ticket answer at_).1, Function.update stage id (w.settle answer at_)⟩ := by
  refine ⟨?_, (Function.forall_update_iff stage _).mpr ⟨?_, ?_⟩⟩
  · have hrequests : requests (events ++ [.answer id answer at_]) = requests events := by
      simp [requests, CallEvent.request?]
    rw [hrequests, ← h.ticket_eq]
    exact l.ticket_complete w.ticket answer at_
  · have hticket : w.ticket = lastTicket (requests (untilRequestOf id events)) := by
      have hfollows : (stage id).Follows id events := h.follows id
      rw [hw] at hfollows
      exact hfollows
    rcases w.resume_cases l answer at_ with ⟨page, left, hsettle, -⟩ | ⟨result, hsettle, -⟩
    · rw [hsettle]
      trivial
    · rw [hsettle]
      refine ⟨answer, at_, by simp, ?_⟩
      rw [untilRequestOf_concat_of_other rfl, ← hticket]
      exact Waiting.eq_of_settle_finished hsettle
  · intro other _
    exact (h.follows other).concat rfl

theorem Traced.step {events : List CallEvent} {s s' : Calls} {e : CallEvent}
    (h : Traced events s) (hstep : Step s e s') : Traced (events ++ [e]) s' := by
  cases hstep with
  | start l stage id c hidle =>
      rw [c.start_fst]
      exact h.request (fun _ => rfl) rfl (c.ticket_start l)
  | answer l stage id w hw answer at_ => exact h.answer hw answer at_
  | advance l stage id page left hpaused =>
      exact h.request (r := .loadMore) (fun _ => rfl) rfl rfl

theorem Run.traced {at_ : Instant} {events : List CallEvent} {s : Calls}
    (h : Run (new at_) events s) : Traced events s := by
  induction h with
  | refl => exact .new at_
  | step _ hstep ih => exact ih.step hstep

/-- What a call for pages gives back answers the filters that were applied last when it asked for
its last page. These are its own filters if nobody has applied others since it was made. -/
theorem loadPages_shows_own_filters {at_ : Instant} {events before between : List CallEvent}
    {s : Calls} {id extra : Nat} {i : Inquiry} {snapshot : Snapshot}
    (hrun : Run (new at_) events s)
    (hcall : untilRequestOf id events = before ++ .start id (.loadPages i extra) :: between)
    (hreturn : s.stage id = .finished (.ok snapshot)) :
    (snapshot.dataQuery =
        (lastInquiry (requests (untilRequestOf id events))).dataQuery snapshot.limit ∧
      snapshot.countQuery = (lastInquiry (requests (untilRequestOf id events))).countQuery) ∧
    ((∀ e ∈ between, e.inquiry? = none) →
      snapshot.dataQuery = i.dataQuery snapshot.limit ∧ snapshot.countQuery = i.countQuery) := by
  have hfollows := hrun.traced.follows id
  rw [hreturn] at hfollows
  obtain ⟨answer, time, -, hresult⟩ := hfollows
  cases answer with
  | error fault => exact nomatch hresult
  | ok a =>
      obtain rfl := Except.ok.inj hresult
      refine ⟨⟨rfl, rfl⟩, ?_⟩
      intro hquiet
      have hown : lastInquiry (requests (untilRequestOf id events)) = i := by
        rw [hcall]
        exact lastInquiry_requests_of_quiet before rfl hquiet
      rw [← hown]
      exact ⟨rfl, rfl⟩

def nodesOf (label : String) : Inquiry where
  criteria := .single (.nodes label)

/-- Another call loads one page more before this call asks for its second one, and a third call
applies its filters before that is answered. -/
theorem loadPages_shows_own_filters_overlapped :
    let more : Except Fault StoreAnswer := .ok ⟨[], 60⟩
    let between : List CallEvent := [.start 1 .loadMore, .answer 0 more default, .advance 0]
    let events : List CallEvent := .start 0 (.loadPages (nodesOf "Server") 1) :: between ++
      [.start 2 (.applyFilters (nodesOf "Database")), .answer 0 more default]
    ∃ s snapshot, Run (new default) events s ∧ s.stage 0 = .finished (.ok snapshot) ∧
      untilRequestOf 0 events =
        [] ++ .start 0 (.loadPages (nodesOf "Server") 1) :: between ∧
      (∀ e ∈ between, e.inquiry? = none) ∧ snapshot.limit = 75 ∧
      snapshot.dataQuery = (nodesOf "Server").dataQuery 75 ∧
      snapshot.countQuery = (nodesOf "Server").countQuery := by
  intro more between events
  have hfirst : Run (new default) (.start 0 (.loadPages (nodesOf "Server") 1) :: between) _ :=
    (((Run.refl.step (.start _ _ 0 (.loadPages (nodesOf "Server") 1) rfl)).step
      (.start _ _ 1 .loadMore rfl)).step (.answer _ _ 0 _ rfl more default)).step
      (.advance _ _ 0 0 0 rfl)
  have hrun : Run (new default) events _ :=
    (hfirst.step (.start _ _ 2 (.applyFilters (nodesOf "Database")) rfl)).step
      (.answer _ _ 0 _ rfl more default)
  have hcall : untilRequestOf 0 events =
      [] ++ .start 0 (.loadPages (nodesOf "Server") 1) :: between := rfl
  have hquiet : ∀ e ∈ between, e.inquiry? = none := by
    simp [between, CallEvent.inquiry?, CallEvent.request?, Call.request, PageRequest.inquiry?]
  obtain ⟨-, hown⟩ := loadPages_shows_own_filters hrun hcall rfl
  exact ⟨_, _, hrun, rfl, hcall, hquiet, rfl, hown hquiet⟩

theorem take_dataQuery_nodesOf (limit : Nat) :
    ((nodesOf "Server").dataQuery limit).toList.take 10 = "MATCH (n:S".toList := by
  rw [Inquiry.dataQuery, Query.Program.text_eq, Query.Token.join, String.toList_ofList]
  rfl

/-- Another call applies its filters between two pages of a call, which then gives back their answer
and none of its own. -/
theorem loadPages_shows_other_filters :
    let more : Except Fault StoreAnswer := .ok ⟨[], 60⟩
    let events : List CallEvent :=
      [.start 0 (.loadPages (nodesOf "Server") 1),
        .start 1 (.applyFilters (nodesOf "Database")), .answer 0 more default, .advance 0,
        .answer 0 more default]
    ∃ s snapshot, Run (new default) events s ∧ s.stage 0 = .finished (.ok snapshot) ∧
      snapshot.dataQuery = (nodesOf "Database").dataQuery 50 ∧
      snapshot.countQuery = (nodesOf "Database").countQuery ∧
      (∀ limit, snapshot.dataQuery ≠ (nodesOf "Server").dataQuery limit) ∧
      snapshot.countQuery ≠ (nodesOf "Server").countQuery := by
  intro more events
  have hrun : Run (new default) events _ :=
    ((((Run.refl.step (.start _ _ 0 (.loadPages (nodesOf "Server") 1) rfl)).step
      (.start _ _ 1 (.applyFilters (nodesOf "Database")) rfl)).step
      (.answer _ _ 0 _ rfl more default)).step (.advance _ _ 0 0 0 rfl)).step
      (.answer _ _ 0 _ rfl more default)
  refine ⟨_, _, hrun, rfl, rfl, rfl, ?_, ?_⟩
  · intro limit heq
    have htake := congrArg (·.toList.take 10) heq
    dsimp only at htake
    rw [take_dataQuery_nodesOf] at htake
    revert htake
    decide +kernel
  · decide +kernel

end Calls

end AssetAtlas
