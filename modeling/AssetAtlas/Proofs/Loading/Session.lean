import Mathlib.Data.List.DropRight
import AssetAtlas.Loading.Loader

/-!
Overlapping requests. A session is a loader together with the tickets that it has issued and that
are not answered yet. Whatever is in flight may be answered next, by rows or by a failure, and
requests go on being issued meanwhile; a run is any sequence of such events.

Answers never touch what is asked for. So what a loader asks for after a run can be read off the
requests alone: `Run.loader_eq` does this. What is published is the business of `Invariant`, which
ties each ticket in flight to the loader as it is now. A ticket of an older generation may say
anything, because it is never published; the ticket of the latest generation is the one that the
loader would issue for its present inquiry and limit, because both change only together with the
generation.
-/

namespace AssetAtlas

inductive PageRequest where
  | applyFilters (i : Inquiry)
  | loadMore

namespace PageRequest

def inquiry? : PageRequest → Option Inquiry
  | .applyFilters i => some i
  | .loadMore => none

def isLoadMore : PageRequest → Bool
  | .applyFilters _ => false
  | .loadMore => true

end PageRequest

/-- The inquiry of the filters that were applied last; the default one before that. -/
def lastInquiry (requests : List PageRequest) : Inquiry :=
  (requests.filterMap PageRequest.inquiry?).getLast?.getD {}

/-- How often one page more was asked for since filters were applied last. -/
def pagesLoadedMore (requests : List PageRequest) : Nat :=
  (requests.rtakeWhile PageRequest.isLoadMore).length

theorem lastInquiry_applyFilters (requests : List PageRequest) (i : Inquiry) :
    lastInquiry (requests ++ [.applyFilters i]) = i := by
  simp [lastInquiry, PageRequest.inquiry?]

theorem lastInquiry_loadMore (requests : List PageRequest) :
    lastInquiry (requests ++ [.loadMore]) = lastInquiry requests := by
  simp [lastInquiry, PageRequest.inquiry?]

theorem pagesLoadedMore_applyFilters (requests : List PageRequest) (i : Inquiry) :
    pagesLoadedMore (requests ++ [.applyFilters i]) = 0 := by
  simp [pagesLoadedMore, PageRequest.isLoadMore]

theorem pagesLoadedMore_loadMore (requests : List PageRequest) :
    pagesLoadedMore (requests ++ [.loadMore]) = pagesLoadedMore requests + 1 := by
  simp [pagesLoadedMore, List.rtakeWhile_concat, PageRequest.isLoadMore]

/-- The snapshot that an answer to a ticket amounts to, published or not. -/
def Ticket.outcome (t : Ticket) (answer : Except Fault StoreAnswer) (at_ : Instant) : Snapshot :=
  match answer with
  | .ok a => t.snapshot a at_
  | .error _ => t.failed at_

theorem Ticket.generation_outcome (t : Ticket) (answer : Except Fault StoreAnswer)
    (at_ : Instant) : (t.outcome answer at_).generation = t.generation := by
  cases answer <;> rfl

namespace Loader

def request (l : Loader) : PageRequest → Loader × Ticket
  | .applyFilters i => l.applyFilters i
  | .loadMore => l.loadMore

def ticket (l : Loader) : Ticket where
  inquiry := l.inquiry
  limit := l.limit
  generation := l.generation
  dataQuery := l.inquiry.dataQuery l.limit
  countQuery := l.inquiry.countQuery

theorem ticket_request (l : Loader) (r : PageRequest) :
    (l.request r).2 = (l.request r).1.ticket := by
  cases r <;> rfl

theorem generation_request (l : Loader) (r : PageRequest) :
    (l.request r).1.generation = l.generation + 1 := by
  cases r <;> rfl

theorem snapshot_request (l : Loader) (r : PageRequest) :
    (l.request r).1.snapshot = l.snapshot := by
  cases r <;> rfl

theorem complete_eq_publish (l : Loader) (t : Ticket) (answer : Except Fault StoreAnswer)
    (at_ : Instant) : (l.complete t answer at_).1 = (l.publish (t.outcome answer at_)).1 := by
  cases answer <;> rfl

theorem complete_of_ne {l : Loader} {t : Ticket} (h : t.generation ≠ l.generation)
    (answer : Except Fault StoreAnswer) (at_ : Instant) : (l.complete t answer at_).1 = l := by
  rw [complete_eq_publish, publish, t.generation_outcome, if_neg h]

theorem complete_of_eq {l : Loader} {t : Ticket} (h : t.generation = l.generation)
    (answer : Except Fault StoreAnswer) (at_ : Instant) :
    (l.complete t answer at_).1 = { l with snapshot := t.outcome answer at_ } := by
  rw [complete_eq_publish, publish, t.generation_outcome, if_pos h]

end Loader

/-- A loader and the tickets that it waits for. -/
structure Session where
  loader : Loader
  inFlight : List Ticket

/-- One thing that happens in a session. -/
inductive Event where
  | issue (r : PageRequest)
  /-- The ticket of a generation is answered. -/
  | complete (generation : Nat) (answer : Except Fault StoreAnswer) (at_ : Instant)

def Event.request? : Event → Option PageRequest
  | .issue r => some r
  | .complete .. => none

def issued (events : List Event) : List PageRequest :=
  events.filterMap Event.request?

theorem issued_issue (events : List Event) (r : PageRequest) :
    issued (events ++ [.issue r]) = issued events ++ [r] := by
  simp [issued, Event.request?]

theorem issued_complete (events : List Event) (generation : Nat)
    (answer : Except Fault StoreAnswer) (at_ : Instant) :
    issued (events ++ [.complete generation answer at_]) = issued events := by
  simp [issued, Event.request?]

namespace Session

def new (at_ : Instant) : Session := ⟨.new at_, []⟩

/-- The steps of a session. Any ticket in flight may be the one that is answered. -/
inductive Step : Session → Event → Session → Prop where
  | issue (l : Loader) (ts : List Ticket) (r : PageRequest) :
    Step ⟨l, ts⟩ (.issue r) ⟨(l.request r).1, ts ++ [(l.request r).2]⟩
  | complete (l : Loader) (before : List Ticket) (t : Ticket) (after : List Ticket)
      (answer : Except Fault StoreAnswer) (at_ : Instant) :
    Step ⟨l, before ++ t :: after⟩ (.complete t.generation answer at_)
      ⟨(l.complete t answer at_).1, before ++ after⟩

/-- Steps from one session to another, with the events that happen on the way. -/
inductive Run (start : Session) : List Event → Session → Prop where
  | refl : Run start [] start
  | step {events : List Event} {s s' : Session} {e : Event} :
    Run start events s → Step s e s' → Run start (events ++ [e]) s'

/-- What a loader asks for, read off the requests that were issued. -/
theorem Run.loader_eq {at_ : Instant} {events : List Event} {s : Session}
    (h : Run (new at_) events s) :
    s.loader.inquiry = lastInquiry (issued events) ∧
      s.loader.limit = 25 * (1 + pagesLoadedMore (issued events)) ∧
      s.loader.generation = (issued events).length := by
  induction h with
  | refl => exact ⟨rfl, rfl, rfl⟩
  | @step events s s' e _ hstep ih =>
      obtain ⟨hinquiry, hlimit, hgeneration⟩ := ih
      cases hstep with
      | issue l ts r =>
          have hcount : (l.request r).1.generation = (issued events ++ [r]).length := by
            rw [l.generation_request, hgeneration, List.length_append, List.length_singleton]
          rw [issued_issue]
          cases r with
          | applyFilters i =>
              rw [lastInquiry_applyFilters, pagesLoadedMore_applyFilters]
              exact ⟨rfl, rfl, hcount⟩
          | loadMore =>
              rw [lastInquiry_loadMore, pagesLoadedMore_loadMore]
              refine ⟨hinquiry, ?_, hcount⟩
              change l.limit + 25 = _
              rw [hlimit]
              omega
      | complete l before t after answer at_ =>
          rw [issued_complete]
          by_cases h : t.generation = l.generation
          · rw [l.complete_of_eq h]
            exact ⟨hinquiry, hlimit, hgeneration⟩
          · rw [l.complete_of_ne h]
            exact ⟨hinquiry, hlimit, hgeneration⟩

structure Invariant (events : List Event) (s : Session) : Prop where
  published_le : s.loader.snapshot.generation ≤ s.loader.generation
  inFlight_le : ∀ t ∈ s.inFlight, t.generation ≤ s.loader.generation
  ticket_eq : ∀ t ∈ s.inFlight, t.generation = s.loader.generation → t = s.loader.ticket
  published_eq : 0 < s.loader.snapshot.generation →
    s.loader.snapshot.generation = s.loader.generation →
    ∃ answer at_, .complete s.loader.generation answer at_ ∈ events ∧
      s.loader.snapshot = s.loader.ticket.outcome answer at_
  /-- The latest request is answered unless its ticket is in flight. -/
  answered : 0 < s.loader.generation → s.loader.snapshot.generation = s.loader.generation ∨
    ∃ t ∈ s.inFlight, t.generation = s.loader.generation

theorem Invariant.new (at_ : Instant) : Invariant [] (new at_) where
  published_le := Nat.le_refl 0
  inFlight_le := fun _ ht => absurd ht List.not_mem_nil
  ticket_eq := fun _ ht => absurd ht List.not_mem_nil
  published_eq := fun h => absurd h (Nat.lt_irrefl 0)
  answered := fun h => absurd h (Nat.lt_irrefl 0)

theorem Invariant.issue {events : List Event} {l : Loader} {ts : List Ticket}
    (h : Invariant events ⟨l, ts⟩) (r : PageRequest) :
    Invariant (events ++ [.issue r]) ⟨(l.request r).1, ts ++ [(l.request r).2]⟩ := by
  have hgeneration := l.generation_request r
  have hsnapshot : (l.request r).1.snapshot.generation ≤ l.generation := by
    rw [l.snapshot_request]
    exact h.published_le
  have holder : ∀ t ∈ ts, t.generation ≤ l.generation := h.inFlight_le
  have hissued : (l.request r).2.generation = (l.request r).1.generation := by
    rw [l.ticket_request]
    rfl
  refine ⟨?_, ?_, ?_, ?_, ?_⟩
  · change (l.request r).1.snapshot.generation ≤ (l.request r).1.generation
    omega
  · intro t ht
    rcases List.mem_append.mp ht with ht | ht
    · have := holder t ht
      change t.generation ≤ (l.request r).1.generation
      omega
    · rw [List.mem_singleton.mp ht]
      exact hissued.le
  · intro t ht hlatest
    rcases List.mem_append.mp ht with ht | ht
    · -- what was in flight before is older than the new generation
      have := holder t ht
      change t.generation = (l.request r).1.generation at hlatest
      omega
    · rw [List.mem_singleton.mp ht]
      exact l.ticket_request r
  · intro _ hlatest
    change (l.request r).1.snapshot.generation = (l.request r).1.generation at hlatest
    omega
  · intro _
    exact .inr ⟨(l.request r).2, by simp, hissued⟩

theorem Invariant.complete {events : List Event} {l : Loader} {before after : List Ticket}
    {t : Ticket} (h : Invariant events ⟨l, before ++ t :: after⟩)
    (answer : Except Fault StoreAnswer) (at_ : Instant) :
    Invariant (events ++ [.complete t.generation answer at_])
      ⟨(l.complete t answer at_).1, before ++ after⟩ := by
  have hleft : ∀ u ∈ before ++ after, u ∈ before ++ t :: after := by
    intro u hu
    rcases List.mem_append.mp hu with hu | hu
    · exact List.mem_append_left _ hu
    · exact List.mem_append_right _ (List.mem_cons_of_mem _ hu)
  have ht : t ∈ before ++ t :: after := by simp
  by_cases hlatest : t.generation = l.generation
  · rw [l.complete_of_eq hlatest]
    have hticket : t = l.ticket := h.ticket_eq t ht hlatest
    have hpublished : (t.outcome answer at_).generation = l.generation :=
      (t.generation_outcome answer at_).trans hlatest
    refine ⟨hpublished.le, fun u hu => h.inFlight_le u (hleft u hu),
      fun u hu => h.ticket_eq u (hleft u hu), ?_, fun _ => .inl hpublished⟩
    intro _ _
    refine ⟨answer, at_, ?_, congrArg (Ticket.outcome · answer at_) hticket⟩
    rw [hlatest]
    simp
  · rw [l.complete_of_ne hlatest]
    refine ⟨h.published_le, fun u hu => h.inFlight_le u (hleft u hu),
      fun u hu => h.ticket_eq u (hleft u hu), ?_, ?_⟩
    · intro hpos heq
      obtain ⟨answer', at_', hmem, hsnapshot⟩ := h.published_eq hpos heq
      exact ⟨answer', at_', List.mem_append_left _ hmem, hsnapshot⟩
    · intro hpos
      rcases h.answered hpos with heq | ⟨u, hu, hgeneration⟩
      · exact .inl heq
      · -- the latest ticket is another one and stays in flight
        refine .inr ⟨u, ?_, hgeneration⟩
        have hne : u ≠ t := fun hut => hlatest (hut ▸ hgeneration)
        rcases List.mem_append.mp hu with hu | hu
        · exact List.mem_append_left _ hu
        · exact List.mem_append_right _ ((List.mem_cons.mp hu).resolve_left hne)

theorem Invariant.step {events : List Event} {s s' : Session} {e : Event}
    (h : Invariant events s) (hstep : Step s e s') : Invariant (events ++ [e]) s' := by
  cases hstep with
  | issue l ts r => exact h.issue r
  | complete l before t after answer at_ => exact h.complete answer at_

theorem Invariant.run {events more : List Event} {s s' : Session}
    (h : Invariant events s) (hrun : Run s more s') : Invariant (events ++ more) s' := by
  induction hrun with
  | refl => simpa using h
  | step _ hstep ih => simpa using ih.step hstep

theorem Invariant.published_mono_step {events : List Event} {s s' : Session} {e : Event}
    (h : Invariant events s) (hstep : Step s e s') :
    s.loader.snapshot.generation ≤ s'.loader.snapshot.generation := by
  cases hstep with
  | issue l ts r =>
      change l.snapshot.generation ≤ (l.request r).1.snapshot.generation
      rw [l.snapshot_request]
  | complete l before t after answer at_ =>
      change l.snapshot.generation ≤ (l.complete t answer at_).1.snapshot.generation
      by_cases hlatest : t.generation = l.generation
      · rw [l.complete_of_eq hlatest]
        change l.snapshot.generation ≤ (t.outcome answer at_).generation
        rw [t.generation_outcome, hlatest]
        exact h.published_le
      · rw [l.complete_of_ne hlatest]

theorem Invariant.published_mono {events more : List Event} {s s' : Session}
    (h : Invariant events s) (hrun : Run s more s') :
    s.loader.snapshot.generation ≤ s'.loader.snapshot.generation := by
  induction hrun with
  | refl => exact Nat.le_refl _
  | step hrun hstep ih => exact ih.trans ((h.run hrun).published_mono_step hstep)

end Session

end AssetAtlas
