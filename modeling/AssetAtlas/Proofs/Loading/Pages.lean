import Mathlib.Data.Nat.Find
import Mathlib.Order.Bounds.Basic
import AssetAtlas.Proofs.Loading.Calls
import AssetAtlas.Proofs.Query.Limits

/-!
A call for pages that no other call comes between. It asks for one page after the other, each time
with 25 rows more, until the store fails or has no more rows than were asked for, or until there are
no pages left to load. The main statement is `loadPages_until_exhausted`.

The state of such a call is known before each answer: the ticket it waits for is the one that the
loader would issue now, and both are what the number of the page says. `Loader.pageTicket` is that
ticket, `ticket_loadMore` takes the invariant to the next page, and `PagesFrom.of_run` follows the
call from any of its pages to its last one.
-/

namespace AssetAtlas

namespace Waiting

/-- The tickets that a call waits for, one after the other. -/
def tickets (answers : Nat → Except Fault StoreAnswer) (at_ : Instant) (w : Waiting) (l : Loader) :
    List Ticket :=
  match h : w.resume l (answers w.page) at_ with
  | (_, .finished _, _) => [w.ticket]
  | (l, .waiting next, _) =>
    have : next.left < w.left := left_lt_of_resume h
    w.ticket :: tickets answers at_ next l
termination_by w.left

variable {answers : Nat → Except Fault StoreAnswer} {at_ : Instant} {w next : Waiting}
  {l l' : Loader} {result : Except Fault Snapshot} {notices : List Notice}

theorem run_of_resume_finished
    (h : w.resume l (answers w.page) at_ = (l', .finished result, notices)) :
    w.tickets answers at_ l = [w.ticket] ∧ w.run answers at_ l = (l', result, notices) := by
  rw [tickets, run]
  constructor
  · split
    · rfl
    · next hnext => exact nomatch h.symm.trans hnext
  · split
    · next hend =>
        cases h.symm.trans hend
        rfl
    · next hnext => exact nomatch h.symm.trans hnext

theorem run_of_resume_waiting
    (h : w.resume l (answers w.page) at_ = (l', .waiting next, notices)) :
    w.tickets answers at_ l = w.ticket :: next.tickets answers at_ l' ∧
      w.run answers at_ l = ((next.run answers at_ l').1, (next.run answers at_ l').2.1,
        notices ++ (next.run answers at_ l').2.2) := by
  rw [tickets, run]
  constructor
  · split
    · next hend => exact nomatch h.symm.trans hend
    · next hnext =>
        cases h.symm.trans hnext
        rfl
  · split
    · next hend => exact nomatch h.symm.trans hend
    · next hnext =>
        cases h.symm.trans hnext
        rfl

theorem run_of_finished (h : w.settle (answers w.page) at_ = .finished result) :
    w.tickets answers at_ l = [w.ticket] ∧
      (w.run answers at_ l).1 = (l.complete w.ticket (answers w.page) at_).1 ∧
      (w.run answers at_ l).2.1 = result := by
  rcases w.resume_cases l (answers w.page) at_ with ⟨page, left, hsettle, -⟩ |
    ⟨result', hsettle, hloader, hprogress⟩
  · exact nomatch hsettle.symm.trans h
  · cases hsettle.symm.trans h
    obtain ⟨htickets, hrun⟩ := run_of_resume_finished (Prod.ext hloader (Prod.ext hprogress rfl))
    exact ⟨htickets, congrArg (·.1) hrun, congrArg (·.2.1) hrun⟩

theorem run_of_paused {page left : Nat} (h : w.settle (answers w.page) at_ = .paused page left)
    (hl : (l.complete w.ticket (answers w.page) at_).1 = l') :
    let next : Waiting := ⟨l'.loadMore.2, page + 1, left⟩
    w.tickets answers at_ l = w.ticket :: next.tickets answers at_ l'.loadMore.1 ∧
      (w.run answers at_ l).1 = (next.run answers at_ l'.loadMore.1).1 ∧
      (w.run answers at_ l).2.1 = (next.run answers at_ l'.loadMore.1).2.1 := by
  subst hl
  rcases w.resume_cases l (answers w.page) at_ with ⟨page', left', hsettle, hloader, hprogress⟩ |
    ⟨result', hsettle, -⟩
  · cases hsettle.symm.trans h
    obtain ⟨htickets, hrun⟩ := run_of_resume_waiting (Prod.ext hloader (Prod.ext hprogress rfl))
    exact ⟨htickets, congrArg (·.1) hrun, congrArg (·.2.1) hrun⟩
  · exact nomatch hsettle.symm.trans h

end Waiting

/-- The ticket for a page of an inquiry, numbered from 0 on, if the loader is asked for nothing else
meanwhile. -/
def Loader.pageTicket (l : Loader) (i : Inquiry) (n : Nat) : Ticket where
  inquiry := i
  limit := 25 * (n + 1)
  generation := l.generation + (n + 1)
  dataQuery := i.dataQuery (25 * (n + 1))
  countQuery := i.countQuery

/-- The answer to a page ends a call: it is a failure, or there are no more rows than were asked
for. -/
def EndsAt (answers : Nat → Except Fault StoreAnswer) (n : Nat) : Prop :=
  ∀ a, answers n = .ok a → a.total.toNat ≤ 25 * (n + 1)

section Undisturbed

variable (l : Loader) (i : Inquiry) (answers : Nat → Except Fault StoreAnswer) (at_ : Instant)
  {l' : Loader} {n : Nat}

variable {l i} in
theorem ticket_loadMore (h : l'.ticket = l.pageTicket i n) :
    l'.loadMore.1.ticket = l.pageTicket i (n + 1) := by
  have hinquiry : l'.inquiry = i := congrArg Ticket.inquiry h
  have hlimit : l'.limit + 25 = 25 * (n + 1 + 1) := by
    have : l'.limit = 25 * (n + 1) := congrArg Ticket.limit h
    omega
  have hgeneration : l'.generation + 1 = l.generation + (n + 1 + 1) := by
    have : l'.generation = l.generation + (n + 1) := congrArg Ticket.generation h
    omega
  rw [Loader.pageTicket, ← hinquiry, ← hlimit, ← hgeneration]
  rfl

/-- The loader after it has published the answer to a page. -/
def afterPage (n : Nat) (l' : Loader) : Loader :=
  { l' with snapshot := (l.pageTicket i n).outcome (answers n) at_ }

variable {l i} in
theorem complete_of_ticket_eq (h : l'.ticket = l.pageTicket i n) :
    (l'.complete (l.pageTicket i n) (answers n) at_).1 = afterPage l i answers at_ n l' :=
  Loader.complete_of_eq (congrArg Ticket.generation h.symm) (answers n) at_

theorem settle_of_endsAt {left : Nat} (h : left = 0 ∨ EndsAt answers n) :
    (Waiting.mk (l.pageTicket i n) n left).settle (answers n) at_ =
      .finished ((answers n).map ((l.pageTicket i n).snapshot · at_)) := by
  unfold Waiting.settle
  cases hanswer : answers n with
  | error fault => rfl
  | ok a =>
      cases left with
      | zero => rfl
      | succ left =>
          have hends := h.resolve_left (Nat.succ_ne_zero left) a hanswer
          have hmore : ¬ ((l.pageTicket i n).snapshot a at_).hasMore = true :=
            fun hmore => absurd ((paginate_fst_iff ..).mp hmore) (Nat.not_lt.mpr hends)
          exact if_neg hmore

theorem settle_of_not_endsAt (left : Nat) (h : ¬ EndsAt answers n) :
    (Waiting.mk (l.pageTicket i n) n (left + 1)).settle (answers n) at_ = .paused n left := by
  obtain ⟨a, hanswer, hless⟩ : ∃ a, answers n = .ok a ∧ 25 * (n + 1) < a.total.toNat := by
    simpa [EndsAt] using h
  have hmore : ((l.pageTicket i n).snapshot a at_).hasMore = true :=
    (paginate_fst_iff ..).mpr hless
  rw [hanswer]
  exact if_pos hmore

/-- What a call does from one of its pages on: it goes through all pages up to its last one, and
ends with the answer to that. -/
structure PagesFrom (n last : Nat) (w : Waiting) (l' : Loader) : Prop where
  tickets_eq : w.tickets answers at_ l' = (List.range' n (last + 1 - n)).map (l.pageTicket i)
  ticket_eq : (w.run answers at_ l').1.ticket = l.pageTicket i last
  snapshot_eq : (w.run answers at_ l').1.snapshot =
    (l.pageTicket i last).outcome (answers last) at_
  result_eq : (w.run answers at_ l').2.1 =
    (answers last).map ((l.pageTicket i last).snapshot · at_)

namespace PagesFrom

variable {l i answers at_} {last left : Nat}

theorem of_end (hl' : l'.ticket = l.pageTicket i n) (hend : left = 0 ∨ EndsAt answers n) :
    PagesFrom l i answers at_ n n ⟨l.pageTicket i n, n, left⟩ l' := by
  obtain ⟨htickets, hloader, hresult⟩ := Waiting.run_of_finished (l := l')
    (settle_of_endsAt l i answers at_ hend)
  rw [complete_of_ticket_eq answers at_ hl'] at hloader
  refine ⟨?_, ?_, ?_, hresult⟩
  · rw [htickets, Nat.add_sub_cancel_left]
    rfl
  · rw [hloader]
    exact hl'
  · rw [hloader]
    rfl

theorem of_next (hl' : l'.ticket = l.pageTicket i n) (hlt : n < last) (hon : ¬ EndsAt answers n)
    (hrest : PagesFrom l i answers at_ (n + 1) last ⟨l.pageTicket i (n + 1), n + 1, left⟩
      (afterPage l i answers at_ n l').loadMore.1) :
    PagesFrom l i answers at_ n last ⟨l.pageTicket i n, n, left + 1⟩ l' := by
  obtain ⟨htickets, hloader, hresult⟩ := Waiting.run_of_paused
    (settle_of_not_endsAt l i answers at_ left hon) (complete_of_ticket_eq answers at_ hl')
  have hafter : (afterPage l i answers at_ n l').ticket = l.pageTicket i n := hl'
  have hticket : (afterPage l i answers at_ n l').loadMore.2 = l.pageTicket i (n + 1) :=
    ticket_loadMore hafter
  rw [hticket] at htickets hloader hresult
  refine ⟨?_, hloader ▸ hrest.ticket_eq, hloader ▸ hrest.snapshot_eq, hresult ▸ hrest.result_eq⟩
  obtain ⟨more, rfl⟩ := Nat.exists_eq_add_of_lt hlt
  have hcount : n + more + 1 + 1 - n = more + 1 + 1 := by omega
  have hcountRest : n + more + 1 + 1 - (n + 1) = more + 1 := by omega
  have hrange : List.range' n (more + 1 + 1) = n :: List.range' (n + 1) (more + 1) :=
    List.range'_succ
  rw [htickets, hrest.tickets_eq, hcount, hcountRest, hrange, List.map_cons]

theorem of_run (hl' : l'.ticket = l.pageTicket i n) (hle : n ≤ last) (hleft : last ≤ n + left)
    (hon : ∀ m, n ≤ m → m < last → ¬ EndsAt answers m)
    (hend : last = n + left ∨ EndsAt answers last) :
    PagesFrom l i answers at_ n last ⟨l.pageTicket i n, n, left⟩ l' := by
  induction left generalizing n l' with
  | zero =>
      obtain rfl : last = n := by omega
      exact .of_end hl' (.inl rfl)
  | succ left ih =>
      rcases Nat.eq_or_lt_of_le hle with rfl | hlt
      · exact .of_end hl' (.inr (hend.resolve_left (by omega)))
      · have hafter : (afterPage l i answers at_ n l').ticket = l.pageTicket i n := hl'
        exact .of_next hl' hlt (hon n (Nat.le_refl n) hlt)
          (ih (ticket_loadMore hafter) hlt (by omega) (fun m hm => hon m (by omega))
            (hend.imp_left (by omega)))

end PagesFrom

end Undisturbed

/-- A total is a word, and so it does not exceed the limit for ever. -/
theorem exists_isLeast_endsAt (answers : Nat → Except Fault StoreAnswer) :
    ∃ k, IsLeast {n | EndsAt answers n} k := by
  classical
  have hsome : ∃ n, EndsAt answers n := by
    refine ⟨2 ^ 64, fun a _ => ?_⟩
    have := a.total.toNat_lt
    omega
  exact ⟨Nat.find hsome, Nat.find_spec hsome, fun n hn => Nat.find_min' hsome hn⟩

theorem pagesFrom_start (l : Loader) (i : Inquiry) (extra : Nat)
    (answers : Nat → Except Fault StoreAnswer) (at_ : Instant) {k : Nat}
    (hk : IsLeast {n | EndsAt answers n} k) :
    PagesFrom l i answers at_ 0 (min extra k) ((Call.loadPages i extra).start l).2
      ((Call.loadPages i extra).start l).1 := by
  have hleft : min extra k ≤ 0 + extra := by omega
  refine .of_run rfl (Nat.zero_le _) hleft ?_ ?_
  · intro m _ hm hends
    have := hk.2 hends
    omega
  · rcases Nat.le_total extra k with hle | hle
    · exact .inl (by omega)
    · rw [Nat.min_eq_right hle]
      exact .inr hk.1

/-- Where a total that does not change is exceeded first, in pages and in rows. -/
theorem limit_of_constant {total k m : Nat} (extra : Nat)
    (hk : IsLeast {n | total ≤ 25 * (n + 1)} k) (hm : IsLeast {m | 25 ∣ m ∧ total ≤ m} m) :
    25 * (min extra k + 1) = min (25 * (extra + 1)) (max 25 m) ∧
      (25 * (min extra k + 1) < total ↔ 25 * (extra + 1) < total) := by
  obtain ⟨⟨c, rfl⟩, hle⟩ := hm.1
  have hkle : total ≤ 25 * (k + 1) := hk.1
  have hkleast : ∀ n, total ≤ 25 * (n + 1) → k ≤ n := fun n hn => hk.2 hn
  have hcleast : ∀ n, total ≤ 25 * n → 25 * c ≤ 25 * n := fun n hn => hm.2 ⟨⟨n, rfl⟩, hn⟩
  have := hkleast (c - 1) (by omega)
  have := hcleast (k + 1) hkle
  have := hcleast 0
  constructor <;> omega

theorem exists_isLeast_multiple (total : Nat) : ∃ m, IsLeast {m | 25 ∣ m ∧ total ≤ m} m := by
  refine ⟨25 * ((total + 24) / 25), ⟨Nat.dvd_mul_right _ _, by omega⟩, ?_⟩
  rintro m ⟨⟨c, rfl⟩, hle⟩
  omega

/-- If no answer fails and the total does not change, the last page shows everything or is the last
one that may be loaded, whichever comes first. -/
theorem snapshot_of_constant (l : Loader) (i : Inquiry) {extra k total : Nat}
    {answers : Nat → Except Fault StoreAnswer} (at_ : Instant)
    (hk : IsLeast {n | EndsAt answers n} k)
    (htotal : ∀ n, ∃ a, answers n = .ok a ∧ a.total.toNat = total) :
    ∃ snapshot m,
      (answers (min extra k)).map ((l.pageTicket i (min extra k)).snapshot · at_) = .ok snapshot ∧
      IsLeast {m | 25 ∣ m ∧ total ≤ m} m ∧
      snapshot.limit = min (25 * (extra + 1)) (max 25 m) ∧
      (snapshot.hasMore = true ↔ 25 * (extra + 1) < total) := by
  obtain ⟨m, hm⟩ := exists_isLeast_multiple total
  have hends : {n | EndsAt answers n} = {n | total ≤ 25 * (n + 1)} := by
    ext n
    obtain ⟨a, ha, rfl⟩ := htotal n
    simp [EndsAt, ha]
  rw [hends] at hk
  obtain ⟨hlimit, hmore⟩ := limit_of_constant extra hk hm
  obtain ⟨a, ha, rfl⟩ := htotal (min extra k)
  refine ⟨(l.pageTicket i (min extra k)).snapshot a at_, m, ?_, hm, hlimit, ?_⟩
  · rw [ha]
    rfl
  · exact (paginate_fst_iff ..).trans hmore

/-- What a call for pages has done in the end, if nothing comes between and the answer to page `k`,
from 0 on, is the first one that ends it. -/
structure PagesLoaded (i : Inquiry) (extra : Nat) (answers : Nat → Except Fault StoreAnswer)
    (at_ : Instant) (k : Nat) (tickets : List Ticket) (l : Loader)
    (result : Except Fault Snapshot) : Prop where
  length_eq : tickets.length = 1 + min extra k
  limit_eq : ∀ n t, tickets[n]? = some t → t.limit = 25 * (n + 1)
  /-- Each data program is for the filters of the call and carries the limit of its page. -/
  dataQuery_eq : ∀ t ∈ tickets,
    t.dataQuery = (Query.dataProgram i.criteria.list t.limit i.showInternet).text ∧
      (Query.dataProgram i.criteria.list t.limit i.showInternet).LimitedOnce t.limit
  countQuery_eq : ∀ t ∈ tickets, t.countQuery = i.countQuery
  /-- The loader is left with the last ticket. -/
  last_eq : tickets.getLast? = some l.ticket
  returned : ∀ a, answers (min extra k) = .ok a →
    result = .ok (l.ticket.snapshot a at_) ∧ l.snapshot = l.ticket.snapshot a at_
  failed : ∀ fault, answers (min extra k) = .error fault →
    result = .error fault ∧ l.snapshot.graph = {}
  constant : ∀ total, (∀ n, ∃ a, answers n = .ok a ∧ a.total.toNat = total) →
    ∃ snapshot m, result = .ok snapshot ∧ IsLeast {m | 25 ∣ m ∧ total ≤ m} m ∧
      snapshot.limit = min (25 * (extra + 1)) (max 25 m) ∧
      (snapshot.hasMore = true ↔ 25 * (extra + 1) < total)

/-- A call for pages that no other call comes between loads one page after the other up to the first
failure or the first page that shows everything, but no more pages than it may. What it gives back
and what is published is the outcome of its last page. -/
theorem loadPages_until_exhausted (l : Loader) (i : Inquiry) (extra : Nat)
    (answers : Nat → Except Fault StoreAnswer) (at_ : Instant) :
    let call := (Call.loadPages i extra).start l
    ∃ k, IsLeast {n | EndsAt answers n} k ∧
      PagesLoaded i extra answers at_ k (call.2.tickets answers at_ call.1)
        (call.2.run answers at_ call.1).1 (call.2.run answers at_ call.1).2.1 := by
  intro call
  obtain ⟨k, hk⟩ := exists_isLeast_endsAt answers
  obtain ⟨htickets, hticket, hsnapshot, hresult⟩ := pagesFrom_start l i extra answers at_ hk
  rw [Nat.sub_zero, ← List.range_eq_range'] at htickets
  have hmem : ∀ t ∈ call.2.tickets answers at_ call.1, ∃ n, t = l.pageTicket i n := by
    intro t ht
    rw [htickets] at ht
    obtain ⟨n, -, rfl⟩ := List.mem_map.mp ht
    exact ⟨n, rfl⟩
  refine ⟨k, hk, ?_⟩
  constructor
  case length_eq => rw [htickets, List.length_map, List.length_range, Nat.add_comm]
  case limit_eq =>
    intro n t hn
    rw [htickets] at hn
    obtain ⟨hlt, rfl⟩ := List.getElem?_eq_some_iff.mp hn
    rw [List.getElem_map, List.getElem_range]
    rfl
  case dataQuery_eq =>
    intro t ht
    obtain ⟨n, rfl⟩ := hmem t ht
    have hbuilt := Query.wellBuilt_program .data i.criteria.list (25 * (n + 1)) i.showInternet
    exact ⟨rfl, Query.Program.limitedOnce rfl hbuilt.branches_ne_nil⟩
  case countQuery_eq =>
    intro t ht
    obtain ⟨n, rfl⟩ := hmem t ht
    rfl
  case last_eq =>
    rw [hticket, htickets, List.range_succ, List.map_append, List.map_singleton,
      List.getLast?_concat]
  case returned =>
    intro a ha
    rw [hticket, hsnapshot, hresult, ha]
    exact ⟨rfl, rfl⟩
  case failed =>
    intro fault hfault
    rw [hresult, hsnapshot, hfault]
    exact ⟨rfl, rfl⟩
  case constant =>
    intro total htotal
    rw [hresult]
    exact snapshot_of_constant l i at_ hk htotal

/-- The second page fails, and the two pages that could be loaded after it are not asked for. -/
theorem loadPages_until_exhausted_failing :
    let answers : Nat → Except Fault StoreAnswer := fun n =>
      if n = 1 then .error (.other "late") else .ok ⟨[], 60⟩
    let call := (Call.loadPages {} 3).start (.new default)
    (call.2.tickets answers default call.1).map (·.limit) = [25, 50] ∧
      (call.2.run answers default call.1).2.1 = .error (.other "late") ∧
      (call.2.run answers default call.1).1.snapshot.graph = {} := by
  intro answers call
  obtain ⟨k, hk, hloaded⟩ := loadPages_until_exhausted (.new default) {} 3 answers default
  have hfirst : ¬ EndsAt answers 0 := fun hends => absurd (hends ⟨[], 60⟩ rfl) (by decide)
  have hsecond : EndsAt answers 1 := nofun
  obtain rfl : k = 1 := by
    have hle : k ≤ 1 := hk.2 hsecond
    have hne : k ≠ 0 := fun hzero => hfirst (hzero ▸ hk.1)
    omega
  have hlength := hloaded.length_eq
  have hlimit := hloaded.limit_eq
  refine ⟨?_, hloaded.failed (.other "late") rfl⟩
  match htickets : call.2.tickets answers default call.1, hlength with
  | [t, u], _ =>
      rw [htickets] at hlimit
      rw [List.map_cons, List.map_cons, hlimit 0 t rfl, hlimit 1 u rfl]
      rfl

end AssetAtlas
