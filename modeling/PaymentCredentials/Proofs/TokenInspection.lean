import PaymentCredentials.Console.Run
import PaymentCredentials.Proofs.LoadedSettings
import PaymentCredentials.Proofs.PrintedText
import PaymentCredentials.Proofs.StreamReading
import PaymentCredentials.Proofs.TokenAcceptance

/-!
Inspection of tokens against authentication. The console goes through the steps one by one and looks at the expiry
last, a server looks at it second and has one refusal for everything; they find the same tokens valid, under any
two keychains with the same keys.
-/
namespace PaymentCredentials

namespace SessionAuthority

variable {settings : SessionSettings} {c c' : Keychain} {token : String} {now : Instant} {claims : Claims}

theorem authenticateAt_congr_keys (settings : SessionSettings) (token : String) (now : Instant)
    (h : c.entries.map (·.key) = c'.entries.map (·.key)) :
    authenticateAt ⟨c, settings⟩ token now = authenticateAt ⟨c', settings⟩ token now := by
  have hverify : verifyAt ⟨c, settings⟩ token now = verifyAt ⟨c', settings⟩ token now := by
    simp only [verifyAt, blank, Keychain.matchKey_congr_keys _ h]
  rw [authenticateAt, authenticateAt, hverify]

end SessionAuthority

namespace Console

variable {s : SessionAuthority} {token : String} {now : Instant} {claims : Claims}

/-- Inspection in its steps: they are those of verification, with the expiry noted and not judged. -/
theorem inspectToken_eq_ok_iff {i : Inspection} : inspectToken s.settings s.keychain token now = .ok i ↔
    ∃ a key opened, s.blank.readWire token = .ok a ∧ s.keychain.matchKey a = .ok key ∧
      a.decode key.bytes = .ok opened ∧ i = ⟨a.expiry, a.isExpiredAt now, opened.claims⟩ := by
  have htrim : ∀ a : Authorization, a.readWire (Text.trim token) = a.readWire token := fun a =>
    a.readWire_congr (Text.trim_trim token)
  rw [inspectToken, htrim]
  constructor
  · intro h
    obtain ⟨a, hread, h⟩ := ok_of_bind h
    obtain ⟨key, hkey, h⟩ := ok_of_bind h
    obtain ⟨opened, hopened, h⟩ := ok_of_bind h
    exact ⟨a, key, opened, ok_of_mapError hread, ok_of_mapError hkey, ok_of_mapError hopened,
      (Except.ok.inj h).symm⟩
  · rintro ⟨a, key, opened, hread, hkey, hopened, rfl⟩
    rw [SessionAuthority.blank] at hread
    rw [hread, mapError_ok, bind_of_ok rfl, hkey, mapError_ok, bind_of_ok rfl, hopened, mapError_ok, bind_of_ok rfl]
    rfl

/-- A token is accepted just in case the verdict on it is that it is valid. -/
theorem authenticateAt_eq_ok_iff_inspectToken :
    s.authenticateAt token now = .ok claims ↔
      ∃ i, inspectToken s.settings s.keychain token now = .ok i ∧ i.verdict = .valid ∧ i.claims = claims := by
  rw [SessionAuthority.authenticateAt_eq_ok_iff, SessionAuthority.verifyAt_eq_ok_iff_steps]
  constructor
  · rintro ⟨⟨a, key, opened, hread, hexpired, hkey, hopened, rfl⟩, huser⟩
    refine ⟨_, inspectToken_eq_ok_iff.mpr ⟨a, key, opened, hread, hkey, hopened, rfl⟩, ?_, rfl⟩
    rw [Inspection.verdict, hexpired, if_neg Bool.false_ne_true, huser, if_neg Bool.false_ne_true]
  · rintro ⟨i, hi, hvalid, rfl⟩
    obtain ⟨a, key, opened, hread, hkey, hopened, rfl⟩ := inspectToken_eq_ok_iff.mp hi
    unfold Inspection.verdict at hvalid
    split at hvalid
    · cases hvalid
    rename_i hexpired
    split at hvalid
    · cases hvalid
    rename_i huser
    exact ⟨⟨a, key, opened, hread, Bool.eq_false_iff.mpr hexpired, hkey, hopened, rfl⟩,
      Bool.eq_false_iff.mpr huser⟩

/-! ### What is reported -/

/-- A report of success that tells in its last line that the token is valid. -/
def Report.TellsValid (r : Report) : Prop :=
  r.code = 0 ∧ ∃ earlier, r.errors = lines (earlier ++ [success "token is valid"])

/-- The last line of some lines is at their end. -/
theorem suffix_lines (ls : List String) (line : String) :
    (line ++ "\n").toList <:+ (lines (ls ++ [line])).toList := by
  refine ⟨(lines ls).toList, ?_⟩
  simp only [lines, List.map_append, List.map_singleton, String.join_append, String.join_cons, String.join_nil,
    String.append_empty, String.toList_append]

/-- The line of one verdict does not end in the line of another. -/
theorem not_suffix_verdictLine {v v' : Verdict} (h : v ≠ v') :
    ¬ (verdictLine v ++ "\n").toList <:+ (verdictLine v' ++ "\n").toList := by
  revert h
  cases v <;> cases v' <;> decide +kernel

/-- The last line tells the verdict, whatever is printed in front of it. -/
theorem verdict_eq_of_lines {ls ls' : List String} {v v' : Verdict}
    (h : lines (ls ++ [verdictLine v]) = lines (ls' ++ [verdictLine v'])) : v = v' := by
  by_contra hne
  have hv := suffix_lines ls (verdictLine v)
  rw [h] at hv
  rcases List.suffix_or_suffix_of_suffix hv (suffix_lines ls' (verdictLine v')) with hends | hends
  · exact not_suffix_verdictLine hne hends
  · exact not_suffix_verdictLine (Ne.symm hne) hends

/-- What is told of a token that could be deciphered, up to the verdict. -/
def Inspection.told (i : Inspection) : List String :=
  inspectionHeader i.expiry ++ [entry "User" (i.claims.user?.getD "<none>")]

theorem errors_inspectionReport (i : Inspection) :
    (inspectionReport (.ok i)).errors = lines (i.told ++ [verdictLine i.verdict]) := by
  rw [Inspection.told, List.append_assoc]
  rfl

theorem tellsValid_inspectionReport_iff {result : Except InspectionFault Inspection} :
    (inspectionReport result).TellsValid ↔ ∃ i, result = .ok i ∧ i.verdict = .valid := by
  cases result with
  | ok i =>
      constructor
      · rintro ⟨-, earlier, herrors⟩
        have hlast : lines (i.told ++ [verdictLine i.verdict]) = lines (earlier ++ [verdictLine .valid]) :=
          (errors_inspectionReport i).symm.trans herrors
        exact ⟨i, rfl, verdict_eq_of_lines hlast⟩
      · rintro ⟨_, ⟨⟩, hvalid⟩
        refine ⟨rfl, i.told, ?_⟩
        rw [errors_inspectionReport, hvalid]
        rfl
  | error fault =>
      constructor
      · rintro ⟨hcode, -⟩
        cases fault <;> cases hcode
      · rintro ⟨i, hi, -⟩
        cases hi

/-- Inspecting a token by the keys of a file is inspecting it under the keychain that they make. -/
theorem run_tokenInspect {w : World} {path : String} {s : Settings}
    (hload : Settings.ofFile path (w.file path) = .ok s) (hvalid : s.Valid) (hkeys : s.authKeys ≠ [])
    (token : String) :
    Command.run w (.tokenInspect path token) =
      inspectionReport (inspectToken s.session (Settings.seeded s.retention w.now s.authKeys) token w.now) := by
  have hloaded : load w path = .ok s := by rw [load, hload, mapError_ok]
  have hbuilt := Settings.buildKeychain_of_keys hvalid.keys hkeys w.now w.entropy
  rw [Command.run, tokenInspect, bind_of_ok hloaded, hbuilt, mapError_ok, bind_of_ok rfl]
  rfl

/-- **The console agrees with the server.** Of settings that were loaded and name a key, a server is made at any
time. The console, with the same settings, tells that a token is valid just in case the server accepts it at that
instant, and then prints the claims that the server answers with. The server's clock may go on while its keys are
added, or be set back; only the window of the policy, if it has one, must not pass on it meanwhile. -/
theorem inspection_agrees {w : World} {path : String} {s : Settings}
    (hload : Settings.ofFile path (w.file path) = .ok s) (hkeys : s.authKeys ≠ []) {clock : Clock}
    (hclock : s.retention.Outlasts clock) (e : Entropy) (token : String) :
    ∃ keychain, s.buildKeychain clock e = .ok (keychain, none, e) ∧
      ((Command.run w (.tokenInspect path token)).TellsValid ↔
        ∃ claims, SessionAuthority.authenticateAt ⟨keychain, s.session⟩ token w.now = .ok claims) ∧
      ∀ claims, SessionAuthority.authenticateAt ⟨keychain, s.session⟩ token w.now = .ok claims →
        utf8 (Command.run w (.tokenInspect path token)).output = claims.toJson.pretty 0 ++ utf8 "\n" := by
  have hvalid := Settings.valid_of_ofFile hload
  have hsame := Settings.map_key_seeded_congr hvalid.keys hclock (Settings.outlasts_still hvalid w.now)
  have haccepts : ∀ claims,
      SessionAuthority.authenticateAt ⟨Settings.seeded s.retention clock s.authKeys, s.session⟩ token w.now =
          .ok claims ↔
        ∃ i, inspectToken s.session (Settings.seeded s.retention w.now s.authKeys) token w.now = .ok i ∧
          i.verdict = .valid ∧ i.claims = claims := by
    intro claims
    rw [SessionAuthority.authenticateAt_congr_keys _ _ _ hsame]
    exact authenticateAt_eq_ok_iff_inspectToken
  refine ⟨_, Settings.buildKeychain_of_keys hvalid.keys hkeys clock e, ?_, ?_⟩
  · rw [run_tokenInspect hload hvalid hkeys, tellsValid_inspectionReport_iff]
    constructor
    · rintro ⟨i, hi, hverdict⟩
      exact ⟨i.claims, (haccepts _).mpr ⟨i, hi, hverdict, rfl⟩⟩
    · rintro ⟨claims, hclaims⟩
      obtain ⟨i, hi, hverdict, -⟩ := (haccepts claims).mp hclaims
      exact ⟨i, hi, hverdict⟩
  · intro claims hclaims
    obtain ⟨i, hi, -, rfl⟩ := (haccepts claims).mp hclaims
    rw [run_tokenInspect hload hvalid hkeys, hi, ← Json.utf8_prettyText, ← utf8_append]
    rfl

/-- Settings with two keys, of which the older one is kept for a second. -/
def rotating : Settings := { Settings.standard with authKeys := ["0a", " 0B\n"], retention := .overlapWindow 1 }

/-- A console that finds these settings in any file. -/
def desk : World := ⟨fun _ => .ok (rotating.toJson.pretty 0), [], SessionAuthority.issuing, ⟨[]⟩⟩

/-- A server that was made of these settings four years earlier. -/
def rotatingServer : SessionAuthority :=
  ⟨Settings.seeded rotating.retention (Clock.still (.atSecond 1573000000)) rotating.authKeys, rotating.session⟩

/-- The token that the server issues to an administrator is told to be valid at once, and the claims of the
administrator are printed. -/
theorem inspection_agrees_administrator : Settings.ofFile "paymentd.json" (desk.file "paymentd.json") = .ok rotating ∧
    rotating.authKeys ≠ [] ∧ rotating.retention.Outlasts (Clock.still (.atSecond 1573000000)) ∧
    ∃ session supply, rotatingServer.issueAt SessionAuthority.administrator SessionAuthority.issuing
        SessionAuthority.drawn = .ok (session, supply) ∧
      (Command.run desk (.tokenInspect "paymentd.json" session.token)).TellsValid ∧
      utf8 (Command.run desk (.tokenInspect "paymentd.json" session.token)).output =
        SessionAuthority.administrator.toJson.pretty 0 ++ utf8 "\n" := by
  have hvalid : rotating.Valid := rotating.validate_eq_ok_iff.mp (by decide +kernel)
  have hload : Settings.ofFile "paymentd.json" (desk.file "paymentd.json") = .ok rotating :=
    (Settings.ofBytes_written hvalid).2
  have hkeys : rotating.authKeys ≠ [] := List.cons_ne_nil _ _
  have hclock := Settings.outlasts_still hvalid (.atSecond 1573000000)
  have hstarts := Settings.startsWith_seeded hvalid hkeys (Clock.still (.atSecond 1573000000)) ⟨[]⟩
  obtain ⟨_, -, hkey⟩ := hstarts.newest _ rfl
  obtain ⟨session, supply, hissue, hexpires⟩ : ∃ session supply,
      rotatingServer.issueAt SessionAuthority.administrator SessionAuthority.issuing SessionAuthority.drawn =
        .ok (session, supply) ∧ session.expiresAt = SessionAuthority.expiring.whole :=
    SessionAuthority.exists_issueAt_of_moderate SessionAuthority.add?_issuing hkey (by decide) (by decide +kernel)
      (by decide +kernel) (by decide)
  have haccepts : rotatingServer.authenticateAt session.token SessionAuthority.issuing =
      .ok SessionAuthority.administrator := by
    refine SessionAuthority.authenticateAt_of_legible (by decide +kernel) ?_ hissue ?_ ?_
    · rw [Claims.Integral]
      decide +kernel
    · rw [hexpires]
      rfl
    · exact ⟨by decide +kernel, by decide +kernel, SessionAuthority.utf8ByteSize_token_le hissue (by decide)⟩
  refine ⟨hload, hkeys, hclock, session, supply, hissue, ?_⟩
  obtain ⟨keychain, hbuilt, htells, hprints⟩ := inspection_agrees hload hkeys hclock ⟨[]⟩ session.token
  rw [Settings.buildKeychain_of_keys hvalid.keys hkeys] at hbuilt
  obtain ⟨rfl, -⟩ := Prod.mk.inj (Except.ok.inj hbuilt)
  exact ⟨htells.mpr ⟨_, haccepts⟩, hprints _ haccepts⟩

end Console

end PaymentCredentials
