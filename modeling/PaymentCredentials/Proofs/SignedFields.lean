import PaymentCredentials.Message.InitResponse
import PaymentCredentials.Message.Notification
import PaymentCredentials.Proofs.Numerals
import PaymentCredentials.Proofs.Results
import PaymentCredentials.Proofs.SortedMap

/-!
What the signature of a message binds. The fields of a message stand one behind the other with nothing
between them, so that a byte string may be cut into fields in several ways. Messages whose fields are cut
alike say the same if their signed bytes are the same.
-/
namespace PaymentCredentials

theorem getD_inj {α : Type} {a b : Option α} {d : α} (h : a.isSome = true) (h' : b.isSome = true) :
    a.getD d = b.getD d ↔ a = b := by
  obtain ⟨x, rfl⟩ := Option.isSome_iff_exists.mp h
  obtain ⟨y, rfl⟩ := Option.isSome_iff_exists.mp h'
  rw [Option.getD_some, Option.getD_some, Option.some.injEq]

theorem append_inj_iff {xs ys us vs : List Bytes} (h : xs.length = ys.length) :
    xs ++ us = ys ++ vs ↔ xs = ys ∧ us = vs := by
  constructor
  · intro heq
    exact List.append_inj heq h
  · rintro ⟨rfl, rfl⟩
    rfl

theorem append_inj_iff' {xs ys us vs : List Bytes} (h : us.length = vs.length) :
    xs ++ us = ys ++ vs ↔ xs = ys ∧ us = vs := by
  constructor
  · intro heq
    exact List.append_inj' heq h
  · rintro ⟨rfl, rfl⟩
    rfl

/-! ### Cuts -/

namespace Canonical

/-- Two lists of pieces have as many pieces, and all but one of them are as long as their counterparts. -/
def CutAlike (xs ys : List Bytes) : Prop :=
  xs.length = ys.length ∧ ∃ i, (xs.map List.length).eraseIdx i = (ys.map List.length).eraseIdx i

theorem CutAlike.refl (xs : List Bytes) : CutAlike xs xs := ⟨rfl, 0, rfl⟩

/-- The length that is not known is told by the whole. -/
theorem map_length_eq {xs ys : List Bytes} {i : Nat} (hlength : xs.length = ys.length)
    (hwhole : xs.flatten.length = ys.flatten.length)
    (h : (xs.map List.length).eraseIdx i = (ys.map List.length).eraseIdx i) :
    xs.map List.length = ys.map List.length := by
  induction xs generalizing ys i with
  | nil =>
      obtain rfl := List.length_eq_zero_iff.mp hlength.symm
      rfl
  | cons x xs ih =>
      cases ys with
      | nil => exact absurd hlength (Nat.succ_ne_zero _)
      | cons y ys =>
          simp only [List.flatten_cons, List.length_append, List.length_cons,
            Nat.add_right_cancel_iff] at hwhole hlength
          cases i with
          | zero =>
              simp only [List.map_cons, List.eraseIdx_zero, List.tail_cons] at h
              have hrest : xs.flatten.length = ys.flatten.length := by
                rw [List.length_flatten, List.length_flatten, h]
              rw [hrest] at hwhole
              rw [List.map_cons, List.map_cons, h, Nat.add_right_cancel hwhole]
          | succ i =>
              simp only [List.map_cons, List.eraseIdx_cons_succ, List.cons.injEq] at h
              obtain ⟨hhead, htail⟩ := h
              rw [hhead] at hwhole
              rw [List.map_cons, List.map_cons, hhead, ih hlength (Nat.add_left_cancel hwhole) htail]

/-- Byte strings that are cut alike into pieces are the same only if all their pieces are. -/
theorem CutAlike.eq_of_flatten_eq {xs ys : List Bytes} (h : CutAlike xs ys)
    (hflatten : xs.flatten = ys.flatten) : xs = ys := by
  obtain ⟨hlength, i, herase⟩ := h
  have hsizes := map_length_eq hlength (congrArg List.length hflatten) herase
  exact List.eq_iff_flatten_eq.mpr ⟨hflatten, hsizes⟩

/-! ### Fields -/

theorem field_inj {s t : String} : field s = field t ↔ s = t := utf8_inj

theorem optional_inj {s t : Option String} : optional s = optional t ↔ s.getD "" = t.getD "" := utf8_inj

theorem int_inj {i j : Int} : int i = int j ↔ i = j := ⟨Decimal.utf8_ofInt_inj, congrArg int⟩

theorem int_ne_nil (i : Int) : int i ≠ [] := by
  intro h
  rw [int, Decimal.utf8_ofInt] at h
  exact Decimal.numeral_ne_nil i (List.map_eq_nil_iff.mp h)

theorem optionalInt_inj {i j : Int} : optionalInt i = optionalInt j ↔ i = j := by
  unfold optionalInt
  by_cases hi : i = 0 <;> by_cases hj : j = 0
  · simp only [hi, hj]
  · rw [if_pos hi, if_neg hj]
    constructor
    · intro h
      exact absurd h.symm (int_ne_nil j)
    · rintro rfl
      exact absurd hi hj
  · rw [if_neg hi, if_pos hj]
    constructor
    · intro h
      exact absurd h (int_ne_nil i)
    · rintro rfl
      exact absurd hj hi
  · rw [if_neg hi, if_neg hj, int_inj]

end Canonical

/-- The maps have the same entries; one that is unset has none. -/
def TextMap.SameEntries (m n : Option TextMap) : Prop :=
  (m.getD .empty).entries.Perm (n.getD .empty).entries

theorem Canonical.mapPieces_inj {m n : Option TextMap} :
    mapPieces m = mapPieces n ↔ TextMap.SameEntries m n := mapPieces_eq_iff

/-- The signed part of two stamps is the same. -/
structure Stamp.Agrees (s t : Stamp) : Prop where
  timestamp : s.timestamp = t.timestamp
  nonce : s.nonce = t.nonce

/-- The pieces at the end of every signed message. -/
def Stamp.pieces (s : Stamp) : List Bytes := [Canonical.int s.timestamp.toInt, Canonical.field s.nonce]

theorem Stamp.pieces_eq_iff {s t : Stamp} : s.pieces = t.pieces ↔ s.Agrees t := by
  simp only [pieces, List.cons.injEq, and_true, Canonical.int_inj, Canonical.field_inj, Int64.toInt_inj]
  constructor
  · rintro ⟨htimestamp, hnonce⟩
    exact ⟨htimestamp, hnonce⟩
  · rintro ⟨htimestamp, hnonce⟩
    exact ⟨htimestamp, hnonce⟩

theorem Stamp.flatten_pieces (s : Stamp) : s.pieces.flatten = Canonical.tail s.timestamp s.nonce := by
  simp only [pieces, List.flatten_cons, List.flatten_nil, List.append_nil, Canonical.tail]

theorem Stamp.length_pieces (s : Stamp) : s.pieces.length = 2 := rfl

theorem Stamp.append_pieces_inj {xs ys : List Bytes} {s t : Stamp} :
    xs ++ s.pieces = ys ++ t.pieces ↔ xs = ys ∧ s.Agrees t := by
  rw [append_inj_iff' (by rw [length_pieces, length_pieces]), pieces_eq_iff]

theorem message_of_body {α : Type} [Stamped α] {m : α} {pieces : List Bytes}
    (h : Stamped.body m = .ok pieces.flatten) :
    Signable.message m = .ok (pieces ++ (Stamped.stamp m).pieces).flatten := by
  rw [List.flatten_append, Stamp.flatten_pieces]
  simp only [Signable.message, h]
  rfl

/-! ### Requests -/

namespace InitRequest

/-- The pieces of a signed request. -/
def pieces (r : InitRequest) : List Bytes :=
  [Canonical.field r.projectKey, Canonical.field r.ident, Canonical.int (r.amount.getD 0).toInt,
    Canonical.int (r.subunits.getD 0).toInt, Canonical.field r.currency, Canonical.field r.country,
    Canonical.optionalInt (r.paymentMethodId.getD 0).toInt, Canonical.optional r.locale,
    Canonical.optional r.callbackURL, Canonical.optional r.returnURL] ++ Canonical.mapPieces r.metadata ++
    r.stamp.pieces

/-- The requests say the same in every signed field. An empty text, a method zero and a map without
entries are the same as none. -/
structure Agrees (r s : InitRequest) : Prop where
  projectKey : r.projectKey = s.projectKey
  ident : r.ident = s.ident
  amount : r.amount = s.amount
  subunits : r.subunits = s.subunits
  currency : r.currency = s.currency
  country : r.country = s.country
  paymentMethodId : r.paymentMethodId.getD 0 = s.paymentMethodId.getD 0
  locale : r.locale.getD "" = s.locale.getD ""
  callbackURL : r.callbackURL.getD "" = s.callbackURL.getD ""
  returnURL : r.returnURL.getD "" = s.returnURL.getD ""
  metadata : TextMap.SameEntries r.metadata s.metadata
  stamp : r.stamp.Agrees s.stamp

theorem message_eq (r : InitRequest) : Signable.message r = .ok r.pieces.flatten := by
  refine message_of_body ?_
  simp only [Stamped.body, body, List.flatten_append, List.flatten_cons, List.flatten_nil,
    Canonical.flatten_mapPieces, List.append_assoc, List.nil_append]

/-- A request without an amount or without subunits is not valid. -/
theorem isSome_of_validate {r : InitRequest} (h : r.validate = .ok ()) :
    r.amount.isSome = true ∧ r.subunits.isSome = true := by
  replace h := ok_of_mapError h
  unfold check at h
  obtain ⟨_, -, h⟩ := ok_of_bind h
  obtain ⟨_, -, h⟩ := ok_of_bind h
  by_cases hlength : identMaxLength < r.ident.length
  · rw [if_pos hlength] at h
    cases h
  rw [if_neg hlength] at h
  cases hamount : r.amount with
  | none =>
      rw [hamount] at h
      cases h
  | some amount =>
      rw [hamount] at h
      replace h : (if amount < 0 then _ else _) = Except.ok () := h
      by_cases hnegative : amount < 0
      · rw [if_pos hnegative] at h
        cases h
      rw [if_neg hnegative] at h
      cases hsubunits : r.subunits with
      | none =>
          rw [hsubunits] at h
          cases h
      | some subunits => exact ⟨rfl, rfl⟩

theorem pieces_eq_iff {r s : InitRequest} (hr : r.validate = .ok ()) (hs : s.validate = .ok ()) :
    r.pieces = s.pieces ↔ r.Agrees s := by
  have hamount := getD_inj (d := 0) (isSome_of_validate hr).1 (isSome_of_validate hs).1
  have hsubunits := getD_inj (d := 0) (isSome_of_validate hr).2 (isSome_of_validate hs).2
  simp only [pieces, Stamp.append_pieces_inj, List.cons_append, List.nil_append, List.cons.injEq,
    Canonical.field_inj, Canonical.int_inj, Canonical.optional_inj, Canonical.optionalInt_inj,
    Canonical.mapPieces_inj, Int64.toInt_inj, Int8.toInt_inj, hamount, hsubunits]
  constructor
  · rintro ⟨hproject, hident, hamount, hsubunits, hcurrency, hcountry, hmethod, hlocale, hcallback,
      hreturn, hmetadata, hstamp⟩
    exact ⟨hproject, hident, hamount, hsubunits, hcurrency, hcountry, hmethod, hlocale, hcallback,
      hreturn, hmetadata, hstamp⟩
  · rintro ⟨hproject, hident, hamount, hsubunits, hcurrency, hcountry, hmethod, hlocale, hcallback,
      hreturn, hmetadata, hstamp⟩
    exact ⟨hproject, hident, hamount, hsubunits, hcurrency, hcountry, hmethod, hlocale, hcallback,
      hreturn, hmetadata, hstamp⟩

end InitRequest

/-! ### Responses -/

namespace InitResponse

/-- The pieces of a signed response. -/
def pieces (r : InitResponse) : List Bytes :=
  [Canonical.field r.confirmation.ident, Canonical.int r.confirmation.amount.toInt,
    Canonical.int r.confirmation.subunits.toInt, Canonical.field r.confirmation.currency,
    Canonical.field r.confirmation.country,
    Canonical.optionalInt (r.confirmation.paymentMethodId.getD 0).toInt,
    Canonical.optional r.confirmation.locale, Canonical.optional r.confirmation.callbackURL,
    Canonical.optional r.confirmation.returnURL] ++ Canonical.mapPieces r.confirmation.metadata ++
    [Canonical.field r.payment.paymentId, Canonical.field r.payment.created,
      Canonical.field r.payment.token, Canonical.optional r.payment.redirectURL] ++
    r.stamp.pieces

/-- The responses say the same in every signed field. -/
structure Agrees (r s : InitResponse) : Prop where
  ident : r.confirmation.ident = s.confirmation.ident
  amount : r.confirmation.amount = s.confirmation.amount
  subunits : r.confirmation.subunits = s.confirmation.subunits
  currency : r.confirmation.currency = s.confirmation.currency
  country : r.confirmation.country = s.confirmation.country
  paymentMethodId : r.confirmation.paymentMethodId.getD 0 = s.confirmation.paymentMethodId.getD 0
  locale : r.confirmation.locale.getD "" = s.confirmation.locale.getD ""
  callbackURL : r.confirmation.callbackURL.getD "" = s.confirmation.callbackURL.getD ""
  returnURL : r.confirmation.returnURL.getD "" = s.confirmation.returnURL.getD ""
  metadata : TextMap.SameEntries r.confirmation.metadata s.confirmation.metadata
  paymentId : r.payment.paymentId = s.payment.paymentId
  created : r.payment.created = s.payment.created
  token : r.payment.token = s.payment.token
  redirectURL : r.payment.redirectURL.getD "" = s.payment.redirectURL.getD ""
  stamp : r.stamp.Agrees s.stamp

theorem message_eq (r : InitResponse) : Signable.message r = .ok r.pieces.flatten := by
  refine message_of_body ?_
  simp only [Stamped.body, Confirmation.body, PaymentInfo.body, List.flatten_append, List.flatten_cons,
    List.flatten_nil, Canonical.flatten_mapPieces, List.append_assoc, List.append_nil]

theorem pieces_eq_iff {r s : InitResponse} : r.pieces = s.pieces ↔ r.Agrees s := by
  have hpayment : ∀ xs ys : List Bytes, ∀ a b c d a' b' c' d' : Bytes,
      xs ++ [a, b, c, d] = ys ++ [a', b', c', d'] ↔ xs = ys ∧ a = a' ∧ b = b' ∧ c = c' ∧ d = d' := by
    intro xs ys a b c d a' b' c' d'
    rw [append_inj_iff' (show [a, b, c, d].length = [a', b', c', d'].length from rfl)]
    simp only [List.cons.injEq, and_true]
  simp only [pieces, Stamp.append_pieces_inj, hpayment, List.cons_append, List.nil_append,
    List.cons.injEq, Canonical.field_inj, Canonical.int_inj, Canonical.optional_inj,
    Canonical.optionalInt_inj, Canonical.mapPieces_inj, Int64.toInt_inj, Int8.toInt_inj]
  constructor
  · rintro ⟨hident, hamount, hsubunits, hcurrency, hcountry, hmethod, hlocale, hcallback, hreturn,
      ⟨hmetadata, hpayment, hcreated, htoken, hredirect⟩, hstamp⟩
    exact ⟨hident, hamount, hsubunits, hcurrency, hcountry, hmethod, hlocale, hcallback, hreturn,
      hmetadata, hpayment, hcreated, htoken, hredirect, hstamp⟩
  · rintro ⟨hident, hamount, hsubunits, hcurrency, hcountry, hmethod, hlocale, hcallback, hreturn,
      hmetadata, hpayment, hcreated, htoken, hredirect, hstamp⟩
    exact ⟨hident, hamount, hsubunits, hcurrency, hcountry, hmethod, hlocale, hcallback, hreturn,
      ⟨hmetadata, hpayment, hcreated, htoken, hredirect⟩, hstamp⟩

end InitResponse

/-! ### Notifications -/

namespace Notification

/-- The pieces of a signed notification. -/
def pieces (n : Notification) : List Bytes :=
  [Canonical.field n.version, Canonical.field n.paymentId, Canonical.field n.ident,
    Canonical.int n.amount.toInt, Canonical.int n.subunits.toInt, Canonical.field n.decimalAmount,
    Canonical.field n.currency, Canonical.field n.country,
    Canonical.optionalInt (n.paymentMethodId.getD 0).toInt, Canonical.optional n.locale] ++
    Canonical.mapPieces n.balance ++
    [Canonical.optional n.status, Canonical.optionalInt (n.transactionTimestamp.getD 0).toInt] ++
    Canonical.mapPieces n.metadata ++ n.stamp.pieces

/-- The notifications say the same in every signed field. -/
structure Agrees (n m : Notification) : Prop where
  version : n.version = m.version
  paymentId : n.paymentId = m.paymentId
  ident : n.ident = m.ident
  amount : n.amount = m.amount
  subunits : n.subunits = m.subunits
  decimalAmount : n.decimalAmount = m.decimalAmount
  currency : n.currency = m.currency
  country : n.country = m.country
  paymentMethodId : n.paymentMethodId.getD 0 = m.paymentMethodId.getD 0
  locale : n.locale.getD "" = m.locale.getD ""
  balance : TextMap.SameEntries n.balance m.balance
  status : n.status.getD "" = m.status.getD ""
  transactionTimestamp : n.transactionTimestamp.getD 0 = m.transactionTimestamp.getD 0
  metadata : TextMap.SameEntries n.metadata m.metadata
  stamp : n.stamp.Agrees m.stamp

/-- As many balances: a notification has two maps, and only the count of the pieces of one of them shows
where it ends. -/
def SameBalances (n m : Notification) : Prop :=
  (Canonical.mapPieces n.balance).length = (Canonical.mapPieces m.balance).length

theorem message_eq (n : Notification) : Signable.message n = .ok n.pieces.flatten := by
  refine message_of_body ?_
  simp only [Stamped.body, body, List.flatten_append, List.flatten_cons, List.flatten_nil,
    Canonical.flatten_mapPieces, List.append_assoc, List.nil_append]

theorem Agrees.sameBalances {n m : Notification} (h : n.Agrees m) : n.SameBalances m := by
  rw [SameBalances, Canonical.mapPieces_inj.mpr h.balance]

theorem pieces_eq_iff {n m : Notification} (hbalance : n.SameBalances m) :
    n.pieces = m.pieces ↔ n.Agrees m := by
  have hmaps : ∀ xs ys : List Bytes, ∀ a b a' b' : Bytes,
      Canonical.mapPieces n.balance ++ [a, b] ++ xs = Canonical.mapPieces m.balance ++ [a', b'] ++ ys ↔
        TextMap.SameEntries n.balance m.balance ∧ a = a' ∧ b = b' ∧ xs = ys := by
    intro xs ys a b a' b'
    rw [List.append_assoc, List.append_assoc, append_inj_iff hbalance, Canonical.mapPieces_inj]
    simp only [List.cons_append, List.nil_append, List.cons.injEq]
  simp only [pieces, Stamp.append_pieces_inj, hmaps, List.cons_append, List.nil_append, List.cons.injEq,
    Canonical.field_inj, Canonical.int_inj, Canonical.optional_inj, Canonical.optionalInt_inj,
    Canonical.mapPieces_inj, Int64.toInt_inj, Int8.toInt_inj]
  constructor
  · rintro ⟨hversion, hpayment, hident, hamount, hsubunits, hdecimal, hcurrency, hcountry, hmethod, hlocale,
      ⟨hbalance, hstatus, htime, hmetadata⟩, hstamp⟩
    exact ⟨hversion, hpayment, hident, hamount, hsubunits, hdecimal, hcurrency, hcountry, hmethod, hlocale,
      hbalance, hstatus, htime, hmetadata, hstamp⟩
  · rintro ⟨hversion, hpayment, hident, hamount, hsubunits, hdecimal, hcurrency, hcountry, hmethod, hlocale,
      hbalance, hstatus, htime, hmetadata, hstamp⟩
    exact ⟨hversion, hpayment, hident, hamount, hsubunits, hdecimal, hcurrency, hcountry, hmethod, hlocale,
      ⟨hbalance, hstatus, htime, hmetadata⟩, hstamp⟩

end Notification

/-! ### Signed bytes -/

/-- Byte strings of messages whose fields are cut alike are the same just in case their fields are. -/
theorem Canonical.CutAlike.flatten_eq_iff {xs ys : List Bytes} :
    xs = ys ↔ (Except.ok xs.flatten : Except CredentialFault Bytes) = .ok ys.flatten ∧ CutAlike xs ys := by
  constructor
  · rintro rfl
    exact ⟨rfl, CutAlike.refl xs⟩
  · rintro ⟨hflatten, hcut⟩
    exact hcut.eq_of_flatten_eq (Except.ok.inj hflatten)

/-- **What the signature of a message binds.** Two valid requests, two responses or two notifications say
the same in every signed field just in case their signed bytes are the same and their fields are cut
alike. -/
theorem agrees_iff_message_eq :
    (∀ r s : InitRequest, r.validate = .ok () → s.validate = .ok () →
      (r.Agrees s ↔ Signable.message r = Signable.message s ∧ Canonical.CutAlike r.pieces s.pieces)) ∧
    (∀ r s : InitResponse,
      r.Agrees s ↔ Signable.message r = Signable.message s ∧ Canonical.CutAlike r.pieces s.pieces) ∧
    (∀ n m : Notification,
      n.Agrees m ↔ Signable.message n = Signable.message m ∧ Canonical.CutAlike n.pieces m.pieces ∧
        n.SameBalances m) := by
  refine ⟨?_, ?_, ?_⟩
  · intro r s hr hs
    rw [← InitRequest.pieces_eq_iff hr hs, InitRequest.message_eq, InitRequest.message_eq]
    exact Canonical.CutAlike.flatten_eq_iff
  · intro r s
    rw [← InitResponse.pieces_eq_iff, InitResponse.message_eq, InitResponse.message_eq]
    exact Canonical.CutAlike.flatten_eq_iff
  · intro n m
    rw [Notification.message_eq, Notification.message_eq, ← and_assoc,
      ← Canonical.CutAlike.flatten_eq_iff]
    constructor
    · intro h
      exact ⟨(Notification.pieces_eq_iff h.sameBalances).mpr h, h.sameBalances⟩
    · rintro ⟨hpieces, hbalance⟩
      exact (Notification.pieces_eq_iff hbalance).mp hpieces

namespace InitRequest

/-- A request for a payment, signed with the secret `0b`. -/
def signedRequest (ident : String) (amount : Int64) : InitRequest :=
  { blank with
    projectKey := "shop", ident := ident, amount := some amount, subunits := some 2, currency := "EUR",
    country := "DE",
    stamp := ⟨1700000000, "n1", "2d4dd8dc301d9f25e8ebfd0a3adae321b6c30720e8ba550f094e7abfe134beb2"⟩ }

/-- Fields that cannot be told apart: the last digit of a name is the first one of an amount, and two
valid requests with different amounts bear one signature that verifies for both. -/
theorem amount_not_bound :
    (signedRequest "order-1" 1234).validate = .ok () ∧ (signedRequest "order-11" 234).validate = .ok () ∧
      Signable.message (signedRequest "order-1" 1234) = Signable.message (signedRequest "order-11" 234) ∧
      (signedRequest "order-1" 1234).ident ≠ (signedRequest "order-11" 234).ident ∧
      (signedRequest "order-1" 1234).amount ≠ (signedRequest "order-11" 234).amount ∧
      isAuthentic (signedRequest "order-1" 1234) [0x0b] = .ok true ∧
      isAuthentic (signedRequest "order-11" 234) [0x0b] = .ok true := by
  refine ⟨ok_of_toOption ?_, ok_of_toOption ?_, ?_, by decide, by decide, ok_of_toOption ?_,
    ok_of_toOption ?_⟩
  · decide +kernel
  · decide +kernel
  · rw [message_eq, message_eq]
    exact congrArg Except.ok (by decide +kernel)
  · decide +kernel
  · decide +kernel

/-- The general statement at the two requests: they are not cut alike. -/
theorem agrees_iff_message_eq_shifted :
    ((signedRequest "order-1" 1234).Agrees (signedRequest "order-11" 234) ↔
      Signable.message (signedRequest "order-1" 1234) = Signable.message (signedRequest "order-11" 234) ∧
        Canonical.CutAlike (signedRequest "order-1" 1234).pieces (signedRequest "order-11" 234).pieces) ∧
      (signedRequest "order-1" 1234).Agrees (signedRequest "order-1" 1234) := by
  have hvalid : (signedRequest "order-1" 1234).validate = .ok () := ok_of_toOption (by decide +kernel)
  have hvalid' : (signedRequest "order-11" 234).validate = .ok () := ok_of_toOption (by decide +kernel)
  exact ⟨agrees_iff_message_eq.1 _ _ hvalid hvalid',
    (agrees_iff_message_eq.1 _ _ hvalid hvalid).mpr ⟨rfl, Canonical.CutAlike.refl _⟩⟩

end InitRequest

end PaymentCredentials
