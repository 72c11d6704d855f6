import AssetAtlas.Store.Response

/-!
Failures that a store reports. A response is taken for an answer if its status is one of success and
its body is a reply that does not say that the query was unsuccessful. A reply that only explains
something and says nothing about success is a failure as well, but at a status of success it is
taken for an answer without rows. Every other response is a failure with its status, in the words of
the body if it has any.
-/

namespace AssetAtlas

theorem isSuccess_iff (status : Nat) : isSuccess status = true ↔ 200 ≤ status ∧ status < 300 := by
  simp [isSuccess]

namespace Reply

/-- A reply that only explains something, without rows and without a word on success. -/
def IsBareExplanation (r : Reply) : Prop :=
  r.success = none ∧ r.records = [] ∧ r.explanation?.isSome = true

/-- A reply that reports a failure in one of the two ways of a store. -/
def ReportsFailure (r : Reply) : Prop :=
  r.success = some false ∨ r.IsBareExplanation

theorem success_ne_false_iff (r : Reply) :
    r.success ≠ some false ↔ ¬ r.ReportsFailure ∨ r.IsBareExplanation := by
  constructor
  · intro hsuccess
    by_cases hbare : r.IsBareExplanation
    · exact .inr hbare
    · exact .inl fun hfailure => hfailure.elim hsuccess hbare
  · rintro (hfailure | ⟨hsilent, -⟩) hsuccess
    · exact hfailure (.inl hsuccess)
    · exact nomatch hsilent.symm.trans hsuccess

end Reply

variable {status : Nat} {body : String}

theorem judge_eq_ok_iff {r : Reply} : judge status body = .ok r ↔
    isSuccess status = true ∧ Reply.ofText body = .ok r ∧ r.success ≠ some false := by
  unfold judge
  cases isSuccess status with
  | false => cases Reply.ofText body <;> simp
  | true =>
      cases Reply.ofText body with
      | error fault => simp
      | ok reply =>
          by_cases hfailed : reply.success = some false
          · simp only [hfailed, if_true, reduceCtorEq, true_and, false_iff]
            rintro ⟨heq, hsuccess⟩
            cases heq
            exact hsuccess hfailed
          · simp only [hfailed, if_false, true_and]
            constructor
            · rintro ⟨⟩
              exact ⟨rfl, hfailed⟩
            · rintro ⟨⟨⟩, -⟩
              rfl

theorem judge_eq_error {fault : Fault} (h : judge status body = .error fault) :
    ∃ message, fault = .queryFailed (some status) message ∧
      ∀ r text, Reply.ofText body = .ok r → r.explanation? = some text → message = text := by
  unfold judge at h
  dsimp only at h
  split at h
  · next reply _ hbody =>
      refine ⟨_, (Except.error.inj h).symm, fun r text hr htext => ?_⟩
      cases hbody.symm.trans hr
      rw [htext, Option.getD_some]
  · next hbody =>
      refine ⟨_, (Except.error.inj h).symm, fun r text hr htext => ?_⟩
      exact nomatch hbody.symm.trans hr
  · next hbody =>
      refine ⟨_, (Except.error.inj h).symm, fun r text hr htext => ?_⟩
      exact nomatch hbody.symm.trans hr
  · next reply _ hbody =>
      split at h
      · refine ⟨_, (Except.error.inj h).symm, fun r text hr htext => ?_⟩
        cases hbody.symm.trans hr
        rw [htext, Option.getD_some]
      · exact nomatch h

/-- A response is an answer if and only if its status is one of success and its body is a reply that
reports no failure, or a bare explanation. Every other response is a failure with its status, and
the explanation of the body, if there is one, is what it says. -/
theorem judge_recognises_failures (status : Nat) (body : String) :
    (∀ r, judge status body = .ok r ↔ (200 ≤ status ∧ status < 300) ∧
      Reply.ofText body = .ok r ∧ (¬ r.ReportsFailure ∨ r.IsBareExplanation)) ∧
    ((∀ r, judge status body ≠ .ok r) →
      ∃ message, judge status body = .error (.queryFailed (some status) message) ∧
        ∀ r text, Reply.ofText body = .ok r → r.error.or r.message = some text →
          message = text) := by
  constructor
  · intro r
    rw [judge_eq_ok_iff, isSuccess_iff, r.success_ne_false_iff]
  · intro hfailed
    cases hjudge : judge status body with
    | ok r => exact absurd hjudge (hfailed r)
    | error fault =>
        obtain ⟨message, rfl, hmessage⟩ := judge_eq_error hjudge
        refine ⟨message, rfl, fun r text hr htext => hmessage r text hr ?_⟩
        rw [← htext]
        cases hcause : r.error <;> simp [Reply.explanation?, hcause]

/-- A store that explains why it has no rows seems to have answered that there are none. -/
theorem bare_explanation_taken_for_answer :
    ∃ r, judge 200 "\x7b\"message\": \"timeout\"\x7d" = .ok r ∧ r.ReportsFailure ∧
      r.explanation? = some "timeout" ∧ r.rows = [] ∧ r.total = 0 :=
  ⟨{ message := some "timeout" }, rfl, .inr ⟨rfl, rfl, rfl⟩, rfl, rfl, rfl⟩

end AssetAtlas
