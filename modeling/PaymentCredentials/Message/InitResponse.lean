import PaymentCredentials.Message.InitRequest

/-!
Responses to requests to initiate a payment: what was confirmed of the request, and the payment that was
made for it.
-/
namespace PaymentCredentials

open Json

/-- What was confirmed of a request. -/
structure Confirmation where
  ident : String
  amount : Int64
  subunits : Int8
  currency : String
  country : String
  paymentMethodId : Option Int64
  locale : Option String
  callbackURL : Option String
  returnURL : Option String
  metadata : Option TextMap
  deriving DecidableEq

namespace Confirmation

def blank : Confirmation := ⟨"", 0, 0, "", "", none, none, none, none, none⟩

/-- Confirms a request. What is empty or zero in it counts as unset. -/
def ofRequest (r : InitRequest) : Confirmation :=
  let filled (s : Option String) : Option String := s.filter fun t => t ≠ ""
  ⟨r.ident, r.amount.getD 0, r.subunits.getD 0, r.currency, r.country,
    r.paymentMethodId.filter fun n => n ≠ 0, filled r.locale, filled r.callbackURL,
    filled r.returnURL, r.metadata⟩

/-- The bytes of a confirmation within what is signed. -/
def body (c : Confirmation) : Bytes :=
  Canonical.field c.ident ++ Canonical.int c.amount.toInt ++ Canonical.int c.subunits.toInt ++
    Canonical.field c.currency ++ Canonical.field c.country ++
    Canonical.optionalInt (c.paymentMethodId.getD 0).toInt ++ Canonical.optional c.locale ++
    Canonical.optional c.callbackURL ++ Canonical.optional c.returnURL ++
    Canonical.sortedMap (c.metadata.getD .empty).entries

def toJson (c : Confirmation) : Json :=
  .object (Message.textMember "Ident" c.ident ++ Message.intMember "Amount" c.amount.toInt ++
    Message.intMember "Subunits" c.subunits.toInt ++ Message.textMember "Currency" c.currency ++
    Message.textMember "Country" c.country ++
    Message.optionalMember Message.intMember "PaymentMethodId" (c.paymentMethodId.map (·.toInt)) ++
    Message.optionalMember Message.textMember "Locale" c.locale ++
    Message.optionalMember Message.textMember "CallbackURL" c.callbackURL ++
    Message.optionalMember Message.textMember "ReturnURL" c.returnURL ++
    Message.optionalMember Message.mapMember "Metadata" c.metadata)

def record : Record Confirmation :=
  ⟨"struct Confirmation",
    [.optional "Ident" Draft.toText fun s c => { c with ident := s },
      .optional "Amount" Message.readInt64 fun n c => { c with amount := n },
      .optional "Subunits" Message.readInt8 fun n c => { c with subunits := n },
      .optional "Currency" Draft.toText fun s c => { c with currency := s },
      .optional "Country" Draft.toText fun s c => { c with country := s },
      .optional "PaymentMethodId" (Draft.toOption Message.readInt64) fun n c =>
        { c with paymentMethodId := n },
      .optional "Locale" (Draft.toOption Draft.toText) fun s c => { c with locale := s },
      .optional "CallbackURL" (Draft.toOption Draft.toText) fun s c => { c with callbackURL := s },
      .optional "ReturnURL" (Draft.toOption Draft.toText) fun s c => { c with returnURL := s },
      .optional "Metadata" (Draft.toOption TextMap.read) fun m c => { c with metadata := m }]⟩

end Confirmation

/-- The payment that was made. -/
structure PaymentInfo where
  paymentId : String
  /-- When it was made, as in RFC 3339. -/
  created : String
  token : String
  redirectURL : Option String
  deriving DecidableEq

namespace PaymentInfo

def blank : PaymentInfo := ⟨"", "", "", none⟩

def madeAt (paymentId : String) (created : Instant) (token : String) : PaymentInfo :=
  ⟨paymentId, created.rfc3339, token, none⟩

/-- The bytes of a payment within what is signed. -/
def body (p : PaymentInfo) : Bytes :=
  Canonical.field p.paymentId ++ Canonical.field p.created ++ Canonical.field p.token ++
    Canonical.optional p.redirectURL

def toJson (p : PaymentInfo) : Json :=
  .object (Message.textMember "PaymentId" p.paymentId ++ Message.textMember "Created" p.created ++
    Message.textMember "Token" p.token ++
    Message.optionalMember Message.textMember "RedirectURL" p.redirectURL)

def record : Record PaymentInfo :=
  ⟨"struct PaymentInfo",
    [.optional "PaymentId" Draft.toText fun s p => { p with paymentId := s },
      .optional "Created" Draft.toText fun s p => { p with created := s },
      .optional "Token" Draft.toText fun s p => { p with token := s },
      .optional "RedirectURL" (Draft.toOption Draft.toText) fun s p => { p with redirectURL := s }]⟩

end PaymentInfo

/-- A response to a request to initiate a payment. -/
structure InitResponse where
  confirmation : Confirmation
  payment : PaymentInfo
  stamp : Stamp
  deriving DecidableEq

namespace InitResponse

def blank : InitResponse := ⟨.blank, .blank, .blank⟩

def new (confirmation : Confirmation) (payment : PaymentInfo) : InitResponse :=
  ⟨confirmation, payment, .blank⟩

instance : Stamped InitResponse where
  body r := .ok (r.confirmation.body ++ r.payment.body)
  stamp r := r.stamp
  withStamp s r := { r with stamp := s }

def toJson (r : InitResponse) : Json :=
  .object (("Confirmation", r.confirmation.toJson) :: ("Payment", r.payment.toJson) ::
    r.stamp.members)

def record : Record InitResponse :=
  ⟨"struct InitPaymentResponse",
    [.optional "Confirmation" (Confirmation.record.read .blank) fun c r =>
        { r with confirmation := c },
      .optional "Payment" (PaymentInfo.record.read .blank) fun p r => { r with payment := p }] ++
    Stamp.fields fun f r => { r with stamp := f r.stamp }⟩

def read : Draft → Except Problem InitResponse := record.read blank

end InitResponse

end PaymentCredentials
