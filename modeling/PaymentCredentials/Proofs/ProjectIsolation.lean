import PaymentCredentials.Proofs.RequestDecision

/-!
Projects beside each other. One store holds the nonces of all projects and one purge goes over all of
them, yet a project could as well be alone: without the requests of the others a run gives the same answers
to its requests and remembers the same of its nonces. The two runs are compared call by call. A request of
another project leaves everything that is remembered of this one, and a call that both runs have gives the
same answer wherever the same is remembered.
-/
namespace PaymentCredentials

namespace RequestVerifier

/-- Two verifiers have the same window and remember the same nonces of a project, with the same expiries. -/
structure AgreeOn (project : String) (v w : RequestVerifier NonceStore) : Prop where
  window : v.maxAge = w.maxAge
  tracks : ∀ nonce expiry, v.nonces.Tracks project nonce expiry ↔ w.nonces.Tracks project nonce expiry

namespace AgreeOn

variable {project : String} {u v w : RequestVerifier NonceStore}

theorem refl (project : String) (v : RequestVerifier NonceStore) : AgreeOn project v v :=
  ⟨rfl, fun _ _ => Iff.rfl⟩

theorem trans (h : AgreeOn project u v) (h' : AgreeOn project v w) : AgreeOn project u w :=
  ⟨h.window.trans h'.window, fun nonce expiry => (h.tracks nonce expiry).trans (h'.tracks nonce expiry)⟩

theorem contains_eq (h : AgreeOn project v w) (nonce : String) :
    v.nonces.contains project nonce = w.nonces.contains project nonce := by
  rw [Bool.eq_iff_iff, NonceStore.contains_iff, NonceStore.contains_iff]
  exact exists_congr (h.tracks nonce)

theorem purge (h : AgreeOn project v w) (limit : Int64) :
    AgreeOn project { v with nonces := v.nonces.purge limit } { w with nonces := w.nonces.purge limit } := by
  refine ⟨h.window, fun nonce expiry => ?_⟩
  rw [NonceStore.tracks_purge, NonceStore.tracks_purge, h.tracks nonce expiry]

section

variable {α : Type} [ProjectRequest α] {request : α}

theorem marking (h : AgreeOn project v w) (request : α) :
    AgreeOn project (v.marking request) (w.marking request) := by
  refine ⟨h.window, fun nonce expiry => ?_⟩
  have hwindow := h.window
  simp only [RequestVerifier.marking, NonceStore.tracks_insertInto, hwindow]
  exact or_congr_left (h.tracks nonce expiry)

/-- Verifiers that agree on the project of a request answer it alike, and go on agreeing. -/
theorem verifyAt (h : AgreeOn project v w) (hproject : ProjectRequest.projectKey request = project)
    (key : ProjectKey) (now : Instant) :
    (v.verifyAt key request now).1 = (w.verifyAt key request now).1 ∧
      AgreeOn project (v.verifyAt key request now).2 (w.verifyAt key request now).2 := by
  cases hcheck : checkSignature key request with
  | error fault =>
      rw [verifyAt_of_error hcheck, verifyAt_of_error hcheck]
      exact ⟨rfl, h⟩
  | ok _ =>
      rw [verifyAt_of_ok hcheck, verifyAt_of_ok hcheck, h.window, hproject, h.contains_eq]
      split
      · exact ⟨rfl, h.marking request⟩
      · exact ⟨rfl, h⟩

/-- Whatever becomes of a request of another project, nothing changes for this one. -/
theorem verifyAt_of_other (hother : ProjectRequest.projectKey request ≠ project)
    (v : RequestVerifier NonceStore) (key : ProjectKey) (now : Instant) :
    AgreeOn project (v.verifyAt key request now).2 v := by
  rcases v.verifyAt_cases key request now with ⟨fault, hcall⟩ | ⟨-, -, -, hcall⟩
  · rw [hcall]
    exact refl project v
  · rw [hcall]
    refine ⟨rfl, fun nonce expiry => NonceStore.tracks_insertInto.trans ?_⟩
    exact or_iff_left fun hnew => hother hnew.1.symm

end

end AgreeOn

end RequestVerifier

namespace VerifierCall

open RequestVerifier

/-- Whether a call is a request of a project, or a purge. -/
def concerns (project : String) : VerifierCall → Bool
  | @verify _ _ _ request _ => ProjectRequest.projectKey request = project
  | .purge _ => true

/-- What a call answers, if it is a request of a project. -/
def answer? (project : String) (v : RequestVerifier NonceStore) : VerifierCall → Option (Except RequestFault Unit)
  | @verify _ _ key request now =>
      if ProjectRequest.projectKey request = project then some (v.verifyAt key request now).1 else none
  | .purge _ => none

/-- What a run answers to the requests of a project, one after the other. -/
def answers (project : String) (v : RequestVerifier NonceStore) :
    List VerifierCall → List (Except RequestFault Unit)
  | [] => []
  | c :: calls => (c.answer? project v).toList ++ answers project (next v c) calls

variable {project : String} {v w : RequestVerifier NonceStore} {c : VerifierCall}

/-- A call of another project answers this one nothing and changes nothing for it. -/
theorem next_of_not_concerns (h : c.concerns project = false) (v : RequestVerifier NonceStore) :
    c.answer? project v = none ∧ AgreeOn project (next v c) v := by
  cases c with
  | verify key request now =>
      have hother := of_decide_eq_false h
      exact ⟨if_neg hother, AgreeOn.verifyAt_of_other hother v key now⟩
  | purge now => cases h

/-- A call of the project answers alike wherever the same is remembered of it. -/
theorem next_of_concerns (hagree : AgreeOn project v w) (h : c.concerns project = true) :
    c.answer? project v = c.answer? project w ∧ AgreeOn project (next v c) (next w c) := by
  cases c with
  | verify key request now =>
      have hproject := of_decide_eq_true h
      obtain ⟨hanswer, hnext⟩ := hagree.verifyAt hproject key now
      refine ⟨?_, hnext⟩
      simp only [answer?, if_pos hproject, hanswer]
  | purge now => exact ⟨rfl, hagree.purge now.timestamp⟩

theorem agreeOn_run_filter (hagree : AgreeOn project v w) (calls : List VerifierCall) :
    answers project v calls = answers project w (calls.filter (concerns project)) ∧
      AgreeOn project (run v calls) (run w (calls.filter (concerns project))) := by
  induction calls generalizing v w with
  | nil => exact ⟨rfl, hagree⟩
  | cons c calls ih =>
      cases hconcerns : c.concerns project with
      | true =>
          obtain ⟨hanswer, hnext⟩ := next_of_concerns hagree hconcerns
          obtain ⟨hanswers, hrun⟩ := ih hnext
          rw [List.filter_cons_of_pos hconcerns, answers, answers, hanswer, hanswers]
          exact ⟨rfl, hrun⟩
      | false =>
          obtain ⟨hanswer, hnext⟩ := next_of_not_concerns hconcerns v
          obtain ⟨hanswers, hrun⟩ := ih (hnext.trans hagree)
          rw [List.filter_cons_of_neg (Bool.eq_false_iff.mp hconcerns), answers, hanswer, hanswers]
          exact ⟨rfl, hrun⟩

end VerifierCall

namespace RequestVerifier

open VerifierCall

/-- **Projects do not affect each other.** Whatever a verifier remembers, a run without the requests of all
other projects gives the same answers to the requests of a project, and after any count of steps it remembers
the same nonces of the project, with the same expiries. -/
theorem isolated (v : RequestVerifier NonceStore) (project : String) (calls : List VerifierCall) :
    answers project v (calls.filter (concerns project)) = answers project v calls ∧
      ∀ (steps : Nat) (nonce : String) (expiry : Int64),
        (run v ((calls.take steps).filter (concerns project))).nonces.Tracks project nonce expiry ↔
          (run v (calls.take steps)).nonces.Tracks project nonce expiry := by
  refine ⟨(agreeOn_run_filter (AgreeOn.refl project v) calls).1.symm, fun steps nonce expiry => ?_⟩
  exact ((agreeOn_run_filter (AgreeOn.refl project v) (calls.take steps)).2.tracks nonce expiry).symm

end RequestVerifier

end PaymentCredentials
