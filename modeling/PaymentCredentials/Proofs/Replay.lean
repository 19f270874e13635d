import PaymentCredentials.Message.StatusRequest
import PaymentCredentials.Proofs.VerifierRun

/-!
Replays over whole runs of a verifier. As long as the clock does not go back, a message is accepted once:
its nonce is remembered while its timestamp is fresh, and when the nonce has been purged the timestamp is
no longer fresh and never will be again.
-/
namespace PaymentCredentials

namespace VerifierCall

/-- A nonce is accepted a second time only behind a purge at which the window of its first timestamp
had passed. -/
theorem purged_between {v : RequestVerifier NonceStore} (hwindow : 0 ≤ v.maxAge.toInt)
    {first second : VerifierCall} {between : List VerifierCall} {a b : Admission}
    (hfirst : first.admits v = some a) (hsecond : second.admits (run (next v first) between) = some b)
    (hscope : a.scope = b.scope) (hnonce : a.nonce = b.nonce) :
    ∃ now, .purge now ∈ between ∧ a.timestamp.toInt + v.maxAge.toInt < now.seconds := by
  obtain ⟨-, -, htracked⟩ := admits_cases hfirst
  obtain ⟨-, hunused, -⟩ := admits_cases hsecond
  rcases tracks_run htracked between with hkept | ⟨now, hmem, hexpired⟩
  · have hused := NonceStore.contains_iff.mpr ⟨_, hkept⟩
    rw [hscope, hnonce, hunused] at hused
    cases hused
  · exact ⟨now, hmem, RequestVerifier.window_passed hwindow hexpired⟩

/-- A timestamp whose window has passed at some call of a run is refused by every later call. -/
theorem timestamp_ne_of_passed {v : RequestVerifier NonceStore} (hwindow : v.maxAge.toInt < 0x7FFFFFFFFFFFFFFF)
    {second : VerifierCall} {now : Instant} {timestamp : Int64} {b : Admission}
    (hsecond : second.admits v = some b) (hlater : second.time.before now = false)
    (hpassed : timestamp.toInt + v.maxAge.toInt < now.seconds) : timestamp ≠ b.timestamp := by
  obtain ⟨hfresh, -, -⟩ := admits_cases hsecond
  rw [RequestVerifier.isFresh_iff hwindow] at hfresh
  have hle := Instant.seconds_le_of_not_before hlater
  rintro rfl
  omega

end VerifierCall

namespace RequestVerifier

open VerifierCall

/-- **No replays.** In a run from an empty store, with a window below the widest one and times that never
go back, no two accepted requests have the same project key, nonce and timestamp. Where they have the
same project key and nonce, a purge stands between them at which the window of the first one's
timestamp had passed. -/
theorem no_replay (window : UInt64) (hwindow : window.toNat < 0x7FFFFFFFFFFFFFFF)
    (before between after : List VerifierCall) (first second : VerifierCall)
    (horder : InOrder (before ++ first :: between ++ second :: after)) (a b : Admission)
    (hfirst : first.admits (run (new .empty window) before) = some a)
    (hsecond : second.admits (run (new .empty window) (before ++ first :: between)) = some b) :
    a ≠ b ∧ (a.scope = b.scope → a.nonce = b.nonce →
      ∃ now, .purge now ∈ between ∧ a.timestamp.toInt + window.toNat < now.seconds) := by
  have hage : ∀ calls, (run (new .empty window) calls).maxAge.toInt = window.toNat := by
    intro calls
    rw [maxAge_run, toInt_maxAge_new _ (by omega)]
  have hpurged : a.scope = b.scope → a.nonce = b.nonce →
      ∃ now, .purge now ∈ between ∧ a.timestamp.toInt + window.toNat < now.seconds := by
    intro hscope hnonce
    rw [run_append, run_cons] at hsecond
    have hpurge := purged_between (by rw [hage]; omega) hfirst hsecond hscope hnonce
    rwa [hage] at hpurge
  refine ⟨?_, hpurged⟩
  rintro rfl
  obtain ⟨now, hmem, hpassed⟩ := hpurged rfl rfl
  have hlater : second.time.before now = false := by
    have hpairs := List.pairwise_append.mp horder
    exact hpairs.2.2 (.purge now) (by simp [hmem]) second List.mem_cons_self
  rw [← hage (before ++ first :: between)] at hpassed
  exact timestamp_ne_of_passed (by rw [hage]; omega) hsecond hlater hpassed rfl

/-- A request for the status of a payment, verified at the second it was signed in. -/
def statusCall (timestamp : Int64) (signature : String) (now : Instant) : VerifierCall :=
  .verify (ProjectKey.new "shop" "0b")
    { StatusRequest.new "shop" (some "1234") none with stamp := ⟨timestamp, "n1", signature⟩ } now

def firstCall : VerifierCall :=
  statusCall 1000 "460b1258dd1296469e2cec9e82f86261b7502519157e02e6c9c642682e84646e"
    ((Instant.ofUnix? 1000 0).getD .earliest)

/-- The nonce of the first call comes again one second behind its window. -/
def secondCall : VerifierCall :=
  statusCall 1061 "2c62648dfa419439dcc5f779bda80fdb07a943596e3ccf42484b8dd3a81d8ab6"
    ((Instant.ofUnix? 1061 0).getD .earliest)

theorem no_replay_behind_purge :
    firstCall.admits (run (new .empty 60) []) = some ⟨"shop", "n1", 1000⟩ ∧
      secondCall.admits (run (new .empty 60) ([] ++ firstCall :: [.purge secondCall.time])) =
        some ⟨"shop", "n1", 1061⟩ ∧
      ∃ now, .purge now ∈ [VerifierCall.purge secondCall.time] ∧ (1000 : Int64).toInt + 60 < now.seconds := by
  have hfirst : firstCall.admits (run (new .empty 60) []) = some ⟨"shop", "n1", 1000⟩ := by
    decide +kernel
  have hsecond : secondCall.admits (run (new .empty 60) ([] ++ firstCall :: [.purge secondCall.time])) =
      some ⟨"shop", "n1", 1061⟩ := by
    decide +kernel
  have horder : InOrder ([] ++ firstCall :: [.purge secondCall.time] ++ secondCall :: []) := by
    simp only [InOrder, List.nil_append, List.cons_append, List.pairwise_cons, List.mem_cons,
      List.not_mem_nil, or_false, forall_eq_or_imp, forall_eq, List.Pairwise.nil, false_imp_iff,
      implies_true]
    decide
  exact ⟨hfirst, hsecond,
    (no_replay 60 (by decide) [] [.purge secondCall.time] [] firstCall secondCall horder _ _ hfirst
      hsecond).2 rfl rfl⟩

end RequestVerifier

end PaymentCredentials
