import AssetAtlas.Exposure.Internet
import AssetAtlas.Graph.Normalization
import AssetAtlas.Loading.Snapshot

/-!
Loading page by page. Filters are applied from the first page on; loading more asks for one page more,
always from the start. Each of these takes a new number, the generation, and sends a pair of
programs. Answers may come in any order, and an answer is published only while its generation is
still the latest one, so a slow answer never hides a newer request.

The loader is a machine of small steps: a call starts with a step that takes a generation, and each
answer of the store is another step. Nothing else touches its state, and so every way in which calls
can overlap is a sequence of these steps.
-/

namespace AssetAtlas

inductive Notice where
  | report (text : String)
  | warning (text : String)
  | error (text : String)
  | completion (text : String)
  | progress (current total : Nat) (text : Option String)
deriving DecidableEq, Repr

def pageSize : Nat := 25

/-- The state of a loader: what was asked for last, how much of it, and what is published. -/
structure Loader where
  inquiry : Inquiry
  limit : Nat
  generation : Nat
  snapshot : Snapshot

/-- One fetch that was sent and not yet answered. -/
structure Ticket where
  inquiry : Inquiry
  limit : Nat
  generation : Nat
  dataQuery : String
  countQuery : String

/-- The rows of a result and how many there are in all. -/
structure StoreAnswer where
  rows : List Row
  total : UInt64

/-- The outcome of a pair of programs. If both failed, the failure of the data program counts. -/
def StoreAnswer.join (rows : Except Fault (List Row)) (total : Except Fault UInt64) :
    Except Fault StoreAnswer := do
  return { rows := ← rows, total := ← total }

namespace Inquiry

/-- The graph of some rows, and what could not be used of them. -/
def graph (i : Inquiry) (rows : List Row) : Graph × List Issue :=
  let (g, issues) := normalize rows
  (if i.showInternet then g.withInternet else g, issues)

def dataQuery (i : Inquiry) (limit : Nat) : String :=
  (Query.dataProgram i.criteria.list limit i.showInternet).text

def countQuery (i : Inquiry) : String :=
  (Query.countProgram i.criteria.list).text

end Inquiry

namespace Ticket

def notice (t : Ticket) : Notice :=
  .report s!"🔎 Querying graph store (limit {t.limit})..."

def snapshot (t : Ticket) (a : StoreAnswer) (at_ : Instant) : Snapshot :=
  let (graph, issues) := t.inquiry.graph a.rows
  let (hasMore, moreAvailable) := paginate a.total.toNat t.limit pageSize
  { graph
    total := a.total.toNat
    limit := t.limit
    hasMore
    moreAvailable
    fetchedAt := at_
    generation := t.generation
    dataQuery := t.dataQuery
    countQuery := t.countQuery
    warnings := issues.map (·.fault.message) }

/-- What is published when the store fails: nothing, under the programs that were sent. -/
def failed (t : Ticket) (at_ : Instant) : Snapshot :=
  { Snapshot.empty t.limit t.generation at_ with
    dataQuery := t.dataQuery
    countQuery := t.countQuery }

end Ticket

def Snapshot.notices (s : Snapshot) : List Notice :=
  s.warnings.map .warning ++
    [.completion
      s!"✅ {s.graph.nodes.length} node(s), {s.graph.edges.length} edge(s) of {s.total} total"]

namespace Loader

def new (at_ : Instant) : Loader where
  inquiry := {}
  limit := pageSize
  generation := 0
  snapshot := .empty pageSize 0 at_

/-- Takes a new generation for what is asked for now. -/
def issue (l : Loader) : Loader × Ticket :=
  let generation := l.generation + 1
  ({ l with generation },
    { inquiry := l.inquiry
      limit := l.limit
      generation
      dataQuery := l.inquiry.dataQuery l.limit
      countQuery := l.inquiry.countQuery })

/-- Asks for the first page of an inquiry. -/
def applyFilters (l : Loader) (i : Inquiry) : Loader × Ticket :=
  issue { l with inquiry := i, limit := pageSize }

def loadMore (l : Loader) : Loader × Ticket :=
  issue { l with limit := l.limit + pageSize }

/-- Publishes a snapshot, unless a newer request was made. -/
def publish (l : Loader) (s : Snapshot) : Loader × List Notice :=
  if s.generation = l.generation then ({ l with snapshot := s }, [])
  else
    (l, [.warning
      s!"Discarding response of superseded request #{s.generation} (latest is #{l.generation})"])

/-- Takes the answer to a ticket. The caller gets its own snapshot or failure, published or not. -/
def complete (l : Loader) (t : Ticket) (answer : Except Fault StoreAnswer) (at_ : Instant) :
    Loader × Except Fault Snapshot × List Notice :=
  match answer with
  | .ok a =>
    let s := t.snapshot a at_
    let (l, discarded) := l.publish s
    (l, .ok s, s.notices ++ discarded)
  | .error fault =>
    let (l, discarded) := l.publish (t.failed at_)
    (l, .error fault, .error s!"❌ Graph query failed: {fault.message}" :: discarded)

end Loader

/-! ## Calls -/

inductive Call where
  | applyFilters (i : Inquiry)
  | loadMore
  /-- The first page of an inquiry, then up to `extra` more as long as there are any. -/
  | loadPages (i : Inquiry) (extra : Nat)

structure Waiting where
  ticket : Ticket
  /-- How many pages it loaded after the first one, the one it waits for included. -/
  page : Nat
  /-- How many pages it may load after that. -/
  left : Nat

inductive Progress where
  | finished (result : Except Fault Snapshot)
  | waiting (w : Waiting)

namespace Call

def start (l : Loader) : Call → Loader × Waiting
  | .applyFilters i =>
    let (l, ticket) := l.applyFilters i
    (l, { ticket, page := 0, left := 0 })
  | .loadMore =>
    let (l, ticket) := l.loadMore
    (l, { ticket, page := 0, left := 0 })
  | .loadPages i extra =>
    let (l, ticket) := l.applyFilters i
    (l, { ticket, page := 0, left := extra })

end Call

namespace Waiting

/-- Takes the answer that a call waits for. It goes on to its next page if it has one to load and
the store reports more rows. -/
def resume (w : Waiting) (l : Loader) (answer : Except Fault StoreAnswer) (at_ : Instant) :
    Loader × Progress × List Notice :=
  let (l, result, notices) := l.complete w.ticket answer at_
  match result, w.left with
  | .ok s, left + 1 =>
    if s.hasMore then
      let page := w.page + 1
      let (l, ticket) := l.loadMore
      (l, .waiting { ticket, page, left },
        notices ++ [.progress page (page + left) (some s!"{s.moreAvailable} more available"),
          ticket.notice])
    else (l, .finished result, notices)
  | _, _ => (l, .finished result, notices)

theorem left_lt_of_resume {w next : Waiting} {l l' : Loader} {answer : Except Fault StoreAnswer}
    {at_ : Instant} {notices : List Notice}
    (h : w.resume l answer at_ = (l', .waiting next, notices)) : next.left < w.left := by
  simp only [resume] at h
  split at h
  · next heq =>
    split at h
    · simp only [Prod.mk.injEq, Progress.waiting.injEq] at h
      obtain ⟨-, rfl, -⟩ := h
      simp_all
    · simp at h
  · simp at h

/-- Takes one answer after the other until the call is finished; the answers are numbered by the
pages of the call. -/
def run (answers : Nat → Except Fault StoreAnswer) (at_ : Instant) (w : Waiting) (l : Loader) :
    Loader × Except Fault Snapshot × List Notice :=
  match h : w.resume l (answers w.page) at_ with
  | (l, .finished result, notices) => (l, result, notices)
  | (l, .waiting next, notices) =>
    have : next.left < w.left := left_lt_of_resume h
    let (l, result, more) := run answers at_ next l
    (l, result, notices ++ more)
termination_by w.left

end Waiting

end AssetAtlas
