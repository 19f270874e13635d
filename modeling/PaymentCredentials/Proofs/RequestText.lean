import PaymentCredentials.Message.InitRequest
import PaymentCredentials.Message.StatusRequest
import PaymentCredentials.Proofs.FormText
import PaymentCredentials.Proofs.RecordText

/-!
Requests read back from what they travel as: a request to initiate a payment from its JSON text, the rest of
a request for a status from its query. Both come back as they were, whatever texts and integers they hold.
-/
namespace PaymentCredentials

open Json Message

namespace InitRequest

/-- The members of a request are entered over whatever there is; what is unset in it stays as it is. -/
theorem enters_members (r : InitRequest) : ∃ names members, r.toJson = .object members ∧
    Record.Enters record.fields names members fun s =>
      ⟨r.projectKey, r.ident, r.amount.or s.amount, r.subunits.or s.subunits, r.currency, r.country,
        r.paymentMethodId.or s.paymentMethodId, r.locale.or s.locale, r.callbackURL.or s.callbackURL,
        r.returnURL.or s.returnURL, r.metadata.or s.metadata, r.stamp⟩ := by
  have hproject : Record.Enters record.fields ["ProjectKey"] (textMember "ProjectKey" r.projectKey) _ :=
    Record.enters_member rfl (Draft.toText_written r.projectKey)
  have hident : Record.Enters record.fields ["Ident"] (textMember "Ident" r.ident) _ :=
    Record.enters_member rfl (Draft.toText_written r.ident)
  have hamount : ∀ n : Option Int64, Record.Enters record.fields ["Amount"]
      (optionalMember intMember "Amount" (n.map (·.toInt))) fun s => { s with amount := n.or s.amount } :=
    enters_optionalInt readInt64_written rfl fun _ => ⟨rfl, fun _ => rfl⟩
  have hsubunits : ∀ n : Option Int8, Record.Enters record.fields ["Subunits"]
      (optionalMember intMember "Subunits" (n.map (·.toInt))) fun s =>
        { s with subunits := n.or s.subunits } :=
    enters_optionalInt readInt8_written rfl fun _ => ⟨rfl, fun _ => rfl⟩
  have hcurrency : Record.Enters record.fields ["Currency"] (textMember "Currency" r.currency) _ :=
    Record.enters_member rfl (Draft.toText_written r.currency)
  have hcountry : Record.Enters record.fields ["Country"] (textMember "Country" r.country) _ :=
    Record.enters_member rfl (Draft.toText_written r.country)
  have hmethod : ∀ n : Option Int64, Record.Enters record.fields ["PaymentMethodId"]
      (optionalMember intMember "PaymentMethodId" (n.map (·.toInt))) fun s =>
        { s with paymentMethodId := n.or s.paymentMethodId } :=
    enters_optionalInt readInt64_written rfl fun _ => ⟨rfl, fun _ => rfl⟩
  have hlocale : ∀ t : Option String, Record.Enters record.fields ["Locale"]
      (optionalMember textMember "Locale" t) fun s => { s with locale := t.or s.locale } :=
    enters_optionalText rfl fun _ => ⟨rfl, fun _ => rfl⟩
  have hcallback : ∀ t : Option String, Record.Enters record.fields ["CallbackURL"]
      (optionalMember textMember "CallbackURL" t) fun s => { s with callbackURL := t.or s.callbackURL } :=
    enters_optionalText rfl fun _ => ⟨rfl, fun _ => rfl⟩
  have hreturn : ∀ t : Option String, Record.Enters record.fields ["ReturnURL"]
      (optionalMember textMember "ReturnURL" t) fun s => { s with returnURL := t.or s.returnURL } :=
    enters_optionalText rfl fun _ => ⟨rfl, fun _ => rfl⟩
  have hmetadata : ∀ m : Option TextMap, Record.Enters record.fields ["Metadata"]
      (optionalMember mapMember "Metadata" m) fun s => { s with metadata := m.or s.metadata } :=
    enters_optionalMap rfl fun _ => ⟨rfl, fun _ => rfl⟩
  have hmembers := ((((((((((hproject.append hident (by decide)).append (hamount r.amount) (by decide)).append
    (hsubunits r.subunits) (by decide)).append hcurrency (by decide)).append hcountry (by decide)).append
    (hmethod r.paymentMethodId) (by decide)).append (hlocale r.locale) (by decide)).append
    (hcallback r.callbackURL) (by decide)).append (hreturn r.returnURL) (by decide)).append
    (hmetadata r.metadata) (by decide)).append (Stamp.enters_members (by decide) r.stamp) (by decide)
  exact ⟨_, _, rfl, hmembers⟩

theorem read_written (r : InitRequest) : read (written r.toJson) = .ok r := by
  obtain ⟨names, members, hjson, henters⟩ := enters_members r
  rw [hjson, read, Record.read_written henters (by decide)]
  simp only [blank, Option.or_none]

theorem integral_toJson (r : InitRequest) : r.toJson.integral = true := by
  simp only [toJson, integral, integralMembers_append, integral_optionalInt, integral_optionalText,
    integral_optionalMap]
  rfl

/-- **Requests to initiate a payment read back.** The JSON text of a request is read as the request. -/
theorem ofBytes_compact (r : InitRequest) : ofBytes r.toJson.compact = .ok r := by
  rw [ofBytes, decode_compact read (integral_toJson r), read_written, mapError_ok]

end InitRequest

namespace StatusRequest

/-- A request names the payment by its id if there is one that is not empty, and else by its ident. -/
theorem target?_eq (r : StatusRequest) :
    r.target? = (r.paymentId.filter fun s => s ≠ "").or (r.ident.filter fun s => s ≠ "") := by
  have hfind : ∀ t : String, ([t].find? fun s => s ≠ "") = (some t).filter fun s => s ≠ "" := by
    intro t
    rw [List.find?_cons, Option.filter]
    cases decide (t ≠ "") <;> rfl
  rcases r with ⟨projectKey, _ | paymentId, _ | ident, stamp⟩
  · rfl
  · exact (hfind ident).trans (Option.none_or ..).symm
  · exact (hfind paymentId).trans (Option.or_none ..).symm
  · have htarget : target? ⟨projectKey, some paymentId, some ident, stamp⟩ =
        ([paymentId] ++ [ident]).find? fun s => s ≠ "" := rfl
    rw [htarget, List.find?_append, hfind, hfind]

theorem exists_target {r : StatusRequest} {t : String} (hfilled : t ≠ "")
    (h : r.paymentId = some t ∨ r.ident = some t) : ∃ target, r.target? = some target := by
  have hfilter : (some t).filter (fun s => s ≠ "") = some t := if_pos (decide_eq_true hfilled)
  rw [target?_eq]
  rcases h with hid | hident
  · rw [hid, hfilter]
    exact ⟨t, Option.some_or ..⟩
  · rw [hident, hfilter]
    cases r.paymentId.filter fun s => s ≠ "" with
    | none => exact ⟨t, Option.none_or ..⟩
    | some s => exact ⟨s, Option.some_or ..⟩

/-- What is empty names no payment, be it there or not. -/
theorem target?_filter (r : StatusRequest) (projectKey : String) (stamp : Stamp) :
    target? ⟨projectKey, r.paymentId.filter fun s => s ≠ "", r.ident.filter fun s => s ≠ "", stamp⟩ =
      r.target? := by
  simp only [target?_eq, Option.filter_filter, Bool.and_self]

/-- **Requests for a status read back.** The query of a request with a project key, a nonce and a signature is
read as the rest of the request. -/
theorem ofQuery_toQuery {r : StatusRequest} (hproject : r.projectKey ≠ "") (hnonce : r.stamp.nonce ≠ "")
    (hsignature : r.stamp.signature ≠ "") (paymentId ident : Option String) :
    ofQuery paymentId ident r.toQuery =
      .ok ⟨r.projectKey, paymentId.filter fun s => s ≠ "", ident.filter fun s => s ≠ "", r.stamp⟩ := by
  have hread : (Decimal.readInt64 (Decimal.ofInt r.stamp.timestamp.toInt)).mapError Invalidity.badTimestamp =
      .ok r.stamp.timestamp := by
    rw [Decimal.readInt64_ofInt, mapError_ok]
  rw [ofQuery, toQuery, Web.Form.ofQuery_toQuery]
  change (if r.projectKey = "" then throw Invalidity.noProjectKey else _) = _
  rw [if_neg hproject]
  refine (bind_of_ok hread _).trans ?_
  change (if r.stamp.nonce = "" then throw Invalidity.noNonce else
    if r.stamp.signature = "" then throw Invalidity.noSignature else _) = _
  rw [if_neg hnonce, if_neg hsignature]
  rfl

end StatusRequest

end PaymentCredentials
