import PaymentCredentials.Proofs.IndentedText
import PaymentCredentials.Proofs.MapOrder
import PaymentCredentials.Proofs.RequestText

/-!
Messages read back from their JSON text, without blanks or indented. Requests, responses and notifications
come back as they were: what is left out of the text is what a reader takes for granted. So they have the
same signed bytes as before, and are authentic under the same secrets.
-/
namespace PaymentCredentials

open Json Message

/-! ### Texts that may be left out -/

namespace Message

/-- A text, or what there was before if it is empty. -/
def filledOr (t before : String) : String := if t = "" then before else t

theorem filledOr_empty (before : String) : filledOr "" before = before := if_pos rfl

theorem filledOr_of_ne {t : String} (h : t ≠ "") (before : String) : filledOr t before = t := if_neg h

theorem filledOr_blank (t : String) : filledOr t "" = t := by
  by_cases h : t = ""
  · rw [h, filledOr_empty]
  · exact filledOr_of_ne h ""

/-- A text that is left out if it is empty is entered if it is there. -/
theorem enters_filledText {σ : Type} {fields : List (RecordField σ)} {name : String}
    {set keep : String → σ → σ}
    (hfield : fields.find? (fun f => f.name = name) = some (.optional name Draft.toText set))
    (hkeep : ∀ s, keep "" s = s ∧ ∀ t ≠ "", keep t s = set t s) (value : String) :
    Record.Enters fields [name] (filledMember name value) (keep value) := by
  by_cases hempty : value = ""
  · -- Nothing is written, so nothing is read, and the record stays as it is.
    intro rest seen s _
    refine ⟨seen, fun _ => Or.inr, ?_⟩
    rw [hempty, (hkeep s).1, filledMember, if_pos rfl, writtenMembers, List.nil_append]
  · have hset : keep value = set value := funext fun s => (hkeep s).2 value hempty
    rw [hset, filledMember, if_neg hempty]
    exact Record.enters_member hfield (Draft.toText_written value)

theorem integral_filledMember (name value : String) : integralMembers (filledMember name value) = true := by
  unfold filledMember
  split
  · rfl
  · rfl

end Message

/-! ### Responses -/

namespace Confirmation

/-- The members of a confirmation are entered over whatever there is; what is unset in it stays as it is. -/
theorem enters_members (c : Confirmation) : ∃ names members, c.toJson = .object members ∧
    Record.Enters record.fields names members fun s =>
      ⟨c.ident, c.amount, c.subunits, c.currency, c.country, c.paymentMethodId.or s.paymentMethodId,
        c.locale.or s.locale, c.callbackURL.or s.callbackURL, c.returnURL.or s.returnURL,
        c.metadata.or s.metadata⟩ := by
  have hident : Record.Enters record.fields ["Ident"] (textMember "Ident" c.ident) _ :=
    Record.enters_member rfl (Draft.toText_written c.ident)
  have hamount : Record.Enters record.fields ["Amount"] (intMember "Amount" c.amount.toInt) _ :=
    Record.enters_member rfl (readInt64_written c.amount)
  have hsubunits : Record.Enters record.fields ["Subunits"] (intMember "Subunits" c.subunits.toInt) _ :=
    Record.enters_member rfl (readInt8_written c.subunits)
  have hcurrency : Record.Enters record.fields ["Currency"] (textMember "Currency" c.currency) _ :=
    Record.enters_member rfl (Draft.toText_written c.currency)
  have hcountry : Record.Enters record.fields ["Country"] (textMember "Country" c.country) _ :=
    Record.enters_member rfl (Draft.toText_written c.country)
  have hmethod : ∀ n : Option Int64, Record.Enters record.fields ["PaymentMethodId"]
      (optionalMember intMember "PaymentMethodId" (n.map (·.toInt))) fun s =>
        { s with paymentMethodId := n.or s.paymentMethodId } :=
    enters_optionalInt readInt64_written rfl fun _ => ⟨rfl, fun _ => rfl⟩
  have hlocale : ∀ t : Option String, Record.Enters record.fields ["Locale"]
      (optionalMember textMember "Locale" t) fun s => { s with locale := t.or s.locale } :=
    enters_optionalText rfl fun _ => ⟨rfl, fun _ => rfl⟩
  have hcallback : ∀ t : Option String, Record.Enters record.fields ["CallbackURL"]
      (optionalMember textMember "CallbackURL" t) fun s => { s with callbackURL := t.or s.callbackURL } :=
    enters_optionalText rfl fun _ => ⟨rfl, fun _ => rfl⟩
  have hreturn : ∀ t : Option String, Record.Enters record.fields ["ReturnURL"]
      (optionalMember textMember "ReturnURL" t) fun s => { s with returnURL := t.or s.returnURL } :=
    enters_optionalText rfl fun _ => ⟨rfl, fun _ => rfl⟩
  have hmetadata : ∀ m : Option TextMap, Record.Enters record.fields ["Metadata"]
      (optionalMember mapMember "Metadata" m) fun s => { s with metadata := m.or s.metadata } :=
    enters_optionalMap rfl fun _ => ⟨rfl, fun _ => rfl⟩
  have hmembers := ((((((((hident.append hamount (by decide)).append hsubunits (by decide)).append
    hcurrency (by decide)).append hcountry (by decide)).append (hmethod c.paymentMethodId) (by decide)).append
    (hlocale c.locale) (by decide)).append (hcallback c.callbackURL) (by decide)).append
    (hreturn c.returnURL) (by decide)).append (hmetadata c.metadata) (by decide)
  exact ⟨_, _, rfl, hmembers⟩

theorem read_written (c : Confirmation) : record.read .blank (written c.toJson) = .ok c := by
  obtain ⟨names, members, hjson, henters⟩ := enters_members c
  rw [hjson, Record.read_written henters (by decide)]
  simp only [blank, Option.or_none]

theorem integral_toJson (c : Confirmation) : c.toJson.integral = true := by
  simp only [toJson, integral, integralMembers_append, integral_optionalInt, integral_optionalText,
    integral_optionalMap]
  rfl

end Confirmation

namespace PaymentInfo

theorem enters_members (p : PaymentInfo) : ∃ names members, p.toJson = .object members ∧
    Record.Enters record.fields names members fun s =>
      ⟨p.paymentId, p.created, p.token, p.redirectURL.or s.redirectURL⟩ := by
  have hpayment : Record.Enters record.fields ["PaymentId"] (textMember "PaymentId" p.paymentId) _ :=
    Record.enters_member rfl (Draft.toText_written p.paymentId)
  have hcreated : Record.Enters record.fields ["Created"] (textMember "Created" p.created) _ :=
    Record.enters_member rfl (Draft.toText_written p.created)
  have htoken : Record.Enters record.fields ["Token"] (textMember "Token" p.token) _ :=
    Record.enters_member rfl (Draft.toText_written p.token)
  have hredirect : ∀ t : Option String, Record.Enters record.fields ["RedirectURL"]
      (optionalMember textMember "RedirectURL" t) fun s => { s with redirectURL := t.or s.redirectURL } :=
    enters_optionalText rfl fun _ => ⟨rfl, fun _ => rfl⟩
  have hmembers := ((hpayment.append hcreated (by decide)).append htoken (by decide)).append
    (hredirect p.redirectURL) (by decide)
  exact ⟨_, _, rfl, hmembers⟩

theorem read_written (p : PaymentInfo) : record.read .blank (written p.toJson) = .ok p := by
  obtain ⟨names, members, hjson, henters⟩ := enters_members p
  rw [hjson, Record.read_written henters (by decide)]
  simp only [blank, Option.or_none]

theorem integral_toJson (p : PaymentInfo) : p.toJson.integral = true := by
  simp only [toJson, integral, integralMembers_append, integral_optionalText]
  rfl

end PaymentInfo

namespace InitResponse

theorem read_written (r : InitResponse) : read (written r.toJson) = .ok r := by
  have hconfirmation : Record.Enters record.fields ["Confirmation"] [("Confirmation", r.confirmation.toJson)] _ :=
    Record.enters_member rfl r.confirmation.read_written
  have hpayment : Record.Enters record.fields ["Payment"] [("Payment", r.payment.toJson)] _ :=
    Record.enters_member rfl r.payment.read_written
  have hmembers := (hconfirmation.append hpayment (by decide)).append
    (Stamp.enters_members (by decide) r.stamp) (by decide)
  exact Record.read_written hmembers (by decide) blank

theorem integral_toJson (r : InitResponse) : r.toJson.integral = true := by
  rw [toJson, integral, integralMembers, integralMembers, r.confirmation.integral_toJson,
    r.payment.integral_toJson]
  rfl

end InitResponse

/-! ### Notifications -/

namespace Notification

/-- The members of a notification are entered over whatever there is; what is unset in it, or empty where
nothing is written for that, stays as it is. -/
theorem enters_members (n : Notification) : ∃ names members, n.toJson = .object members ∧
    Record.Enters record.fields names members fun s =>
      ⟨n.version, n.paymentId, n.ident, n.amount, n.subunits, n.decimalAmount, n.currency,
        filledOr n.country s.country, n.paymentMethodId.or s.paymentMethodId, n.locale.or s.locale,
        n.balance.or s.balance, n.status.or s.status, n.transactionTimestamp.or s.transactionTimestamp,
        n.metadata.or s.metadata,
        ⟨n.stamp.timestamp, filledOr n.stamp.nonce s.stamp.nonce,
          filledOr n.stamp.signature s.stamp.signature⟩⟩ := by
  have hversion : Record.Enters record.fields ["Version"] (textMember "Version" n.version) _ :=
    Record.enters_member rfl (Draft.toText_written n.version)
  have hpayment : Record.Enters record.fields ["PaymentId"] (textMember "PaymentId" n.paymentId) _ :=
    Record.enters_member rfl (Draft.toText_written n.paymentId)
  have hident : Record.Enters record.fields ["Ident"] (textMember "Ident" n.ident) _ :=
    Record.enters_member rfl (Draft.toText_written n.ident)
  have hamount : Record.Enters record.fields ["Amount"] (intMember "Amount" n.amount.toInt) _ :=
    Record.enters_member rfl (readInt64_written n.amount)
  have hsubunits : Record.Enters record.fields ["Subunits"] (intMember "Subunits" n.subunits.toInt) _ :=
    Record.enters_member rfl (readInt8_written n.subunits)
  have hdecimal : Record.Enters record.fields ["DecimalAmount"] (textMember "DecimalAmount" n.decimalAmount) _ :=
    Record.enters_member rfl (Draft.toText_written n.decimalAmount)
  have hcurrency : Record.Enters record.fields ["Currency"] (textMember "Currency" n.currency) _ :=
    Record.enters_member rfl (Draft.toText_written n.currency)
  have hcountry : ∀ t : String, Record.Enters record.fields ["Country"] (filledMember "Country" t) fun s =>
      { s with country := filledOr t s.country } :=
    enters_filledText rfl fun s => ⟨by rw [filledOr_empty], fun t ht => by rw [filledOr_of_ne ht]⟩
  have hmethod : ∀ i : Option Int64, Record.Enters record.fields ["PaymentMethodId"]
      (optionalMember intMember "PaymentMethodId" (i.map (·.toInt))) fun s =>
        { s with paymentMethodId := i.or s.paymentMethodId } :=
    enters_optionalInt readInt64_written rfl fun _ => ⟨rfl, fun _ => rfl⟩
  have hlocale : ∀ t : Option String, Record.Enters record.fields ["Locale"]
      (optionalMember textMember "Locale" t) fun s => { s with locale := t.or s.locale } :=
    enters_optionalText rfl fun _ => ⟨rfl, fun _ => rfl⟩
  have hbalance : ∀ m : Option TextMap, Record.Enters record.fields ["Balance"]
      (optionalMember mapMember "Balance" m) fun s => { s with balance := m.or s.balance } :=
    enters_optionalMap rfl fun _ => ⟨rfl, fun _ => rfl⟩
  have hstatus : ∀ t : Option String, Record.Enters record.fields ["Status"]
      (optionalMember textMember "Status" t) fun s => { s with status := t.or s.status } :=
    enters_optionalText rfl fun _ => ⟨rfl, fun _ => rfl⟩
  have htime : ∀ i : Option Int64, Record.Enters record.fields ["TransactionTimestamp"]
      (optionalMember intMember "TransactionTimestamp" (i.map (·.toInt))) fun s =>
        { s with transactionTimestamp := i.or s.transactionTimestamp } :=
    enters_optionalInt readInt64_written rfl fun _ => ⟨rfl, fun _ => rfl⟩
  have hmetadata : ∀ m : Option TextMap, Record.Enters record.fields ["Metadata"]
      (optionalMember mapMember "Metadata" m) fun s => { s with metadata := m.or s.metadata } :=
    enters_optionalMap rfl fun _ => ⟨rfl, fun _ => rfl⟩
  have htimestamp : Record.Enters record.fields ["Timestamp"]
      (intMember "Timestamp" n.stamp.timestamp.toInt) _ :=
    Record.enters_member rfl (readInt64_written n.stamp.timestamp)
  have hnonce : ∀ t : String, Record.Enters record.fields ["Nonce"] (filledMember "Nonce" t) fun s =>
      { s with stamp := { s.stamp with nonce := filledOr t s.stamp.nonce } } :=
    enters_filledText rfl fun s => ⟨by rw [filledOr_empty], fun t ht => by rw [filledOr_of_ne ht]⟩
  have hsignature : ∀ t : String, Record.Enters record.fields ["Signature"] (filledMember "Signature" t) fun s =>
      { s with stamp := { s.stamp with signature := filledOr t s.stamp.signature } } :=
    enters_filledText rfl fun s => ⟨by rw [filledOr_empty], fun t ht => by rw [filledOr_of_ne ht]⟩
  have hpaid := ((((((hversion.append hpayment (by decide)).append hident (by decide)).append hamount
    (by decide)).append hsubunits (by decide)).append hdecimal (by decide)).append hcurrency (by decide)).append
    (hcountry n.country) (by decide)
  have hmembers := ((((((((hpaid.append (hmethod n.paymentMethodId) (by decide)).append (hlocale n.locale)
    (by decide)).append (hbalance n.balance) (by decide)).append (hstatus n.status) (by decide)).append
    (htime n.transactionTimestamp) (by decide)).append (hmetadata n.metadata) (by decide)).append htimestamp
    (by decide)).append (hnonce n.stamp.nonce) (by decide)).append (hsignature n.stamp.signature) (by decide)
  exact ⟨_, _, rfl, hmembers⟩

theorem read_written (n : Notification) : read (written n.toJson) = .ok n := by
  obtain ⟨names, members, hjson, henters⟩ := enters_members n
  rw [hjson, read, Record.read_written henters (by decide)]
  simp only [blank, Stamp.blank, Option.or_none, filledOr_blank]

theorem integral_toJson (n : Notification) : n.toJson.integral = true := by
  simp only [toJson, integral, integralMembers_append, integral_optionalInt, integral_optionalText,
    integral_optionalMap, integral_filledMember]
  rfl

end Notification

/-! ### Both texts -/

/-- A reader gives a value back from both texts of its JSON form, and no signature tells what it reads from
what was written. -/
structure ReadsBack {α ε : Type} [Signed α] (read : Bytes → Except ε α) (json : Json) (m : α) : Prop where
  compact : read json.compact = .ok m
  indented : read (json.pretty 0) = .ok m
  signedAlike : ∀ received, read json.compact = .ok received ∨ read (json.pretty 0) = .ok received →
    SignedAlike received m

theorem readsBack_of_ok {α ε : Type} [Signed α] {read : Bytes → Except ε α} {json : Json} {m : α}
    (hcompact : read json.compact = .ok m) (hindented : read (json.pretty 0) = .ok m) : ReadsBack read json m := by
  refine ⟨hcompact, hindented, fun received h => ?_⟩
  have hreceived : received = m := by
    rcases h with h | h
    · exact Except.ok.inj (h.symm.trans hcompact)
    · exact Except.ok.inj (h.symm.trans hindented)
  rw [hreceived]
  exact ⟨rfl, fun _ => rfl, fun _ => rfl⟩

/-- **Signed messages survive JSON.** Every request, response and notification, whatever integers, texts and maps
it holds and whatever is unset, empty or zero in it, is read back as itself from its JSON text, without blanks or
indented. So what is signed of it, and whether it is authentic under a secret, is the same as before. -/
theorem messages_read_back :
    (∀ r : InitRequest, ReadsBack InitRequest.ofBytes r.toJson r) ∧
    (∀ r : InitResponse, ReadsBack (Json.decode InitResponse.read) r.toJson r) ∧
    ∀ n : Notification, ReadsBack (Json.decode Notification.read) n.toJson n := by
  refine ⟨fun r => ?_, fun r => ?_, fun n => ?_⟩
  · have hindented : InitRequest.ofBytes (r.toJson.pretty 0) = InitRequest.ofBytes r.toJson.compact := by
      rw [InitRequest.ofBytes, InitRequest.ofBytes, decode_pretty _ r.integral_toJson]
    exact readsBack_of_ok r.ofBytes_compact (hindented.trans r.ofBytes_compact)
  · have hcompact : Json.decode InitResponse.read r.toJson.compact = .ok r := by
      rw [decode_compact _ r.integral_toJson, r.read_written]
    exact readsBack_of_ok hcompact ((decode_pretty _ r.integral_toJson 0).trans hcompact)
  · have hcompact : Json.decode Notification.read n.toJson.compact = .ok n := by
      rw [decode_compact _ n.integral_toJson, n.read_written]
    exact readsBack_of_ok hcompact ((decode_pretty _ n.integral_toJson 0).trans hcompact)

end PaymentCredentials
