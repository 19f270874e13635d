import PaymentCredentials.Message.Locale
import PaymentCredentials.Message.Stamp
import PaymentCredentials.Nonce
import PaymentCredentials.RequestFault
import PaymentCredentials.Web.Url

/-!
Requests to initiate a payment. A request that was read may lack fields; checking it finds the first
thing that is wrong with it.
-/
namespace PaymentCredentials

open Json

/-- A request to initiate a payment. -/
structure InitRequest where
  projectKey : String
  /-- The project's own name for the payment. -/
  ident : String
  amount : Option Int64
  /-- How many decimal places the amount has. -/
  subunits : Option Int8
  currency : String
  country : String
  paymentMethodId : Option Int64
  locale : Option String
  callbackURL : Option String
  returnURL : Option String
  metadata : Option TextMap
  stamp : Stamp
  deriving DecidableEq

def identMaxLength : Nat := 175

namespace InitRequest

def blank : InitRequest :=
  ⟨"", "", none, none, "", "", none, none, none, none, none, .blank⟩

/-- The bytes that are signed, without the end. -/
def body (r : InitRequest) : Bytes :=
  Canonical.field r.projectKey ++ Canonical.field r.ident ++ Canonical.int (r.amount.getD 0).toInt ++
    Canonical.int (r.subunits.getD 0).toInt ++ Canonical.field r.currency ++
    Canonical.field r.country ++ Canonical.optionalInt (r.paymentMethodId.getD 0).toInt ++
    Canonical.optional r.locale ++ Canonical.optional r.callbackURL ++
    Canonical.optional r.returnURL ++ Canonical.sortedMap (r.metadata.getD .empty).entries

instance : ProjectRequest InitRequest where
  body r := .ok r.body
  stamp r := r.stamp
  withStamp s r := { r with stamp := s }
  projectKey r := r.projectKey

def toJson (r : InitRequest) : Json :=
  .object (Message.textMember "ProjectKey" r.projectKey ++ Message.textMember "Ident" r.ident ++
    Message.optionalMember Message.intMember "Amount" (r.amount.map (·.toInt)) ++
    Message.optionalMember Message.intMember "Subunits" (r.subunits.map (·.toInt)) ++
    Message.textMember "Currency" r.currency ++ Message.textMember "Country" r.country ++
    Message.optionalMember Message.intMember "PaymentMethodId" (r.paymentMethodId.map (·.toInt)) ++
    Message.optionalMember Message.textMember "Locale" r.locale ++
    Message.optionalMember Message.textMember "CallbackURL" r.callbackURL ++
    Message.optionalMember Message.textMember "ReturnURL" r.returnURL ++
    Message.optionalMember Message.mapMember "Metadata" r.metadata ++ r.stamp.members)

def record : Record InitRequest :=
  ⟨"struct InitPaymentRequest",
    [.optional "ProjectKey" Draft.toText fun s r => { r with projectKey := s },
      .optional "Ident" Draft.toText fun s r => { r with ident := s },
      .optional "Amount" (Draft.toOption Message.readInt64) fun n r => { r with amount := n },
      .optional "Subunits" (Draft.toOption Message.readInt8) fun n r => { r with subunits := n },
      .optional "Currency" Draft.toText fun s r => { r with currency := s },
      .optional "Country" Draft.toText fun s r => { r with country := s },
      .optional "PaymentMethodId" (Draft.toOption Message.readInt64) fun n r =>
        { r with paymentMethodId := n },
      .optional "Locale" (Draft.toOption Draft.toText) fun s r => { r with locale := s },
      .optional "CallbackURL" (Draft.toOption Draft.toText) fun s r => { r with callbackURL := s },
      .optional "ReturnURL" (Draft.toOption Draft.toText) fun s r => { r with returnURL := s },
      .optional "Metadata" (Draft.toOption TextMap.read) fun m r => { r with metadata := m }] ++
    Stamp.fields fun f r => { r with stamp := f r.stamp }⟩

def read : Draft → Except Problem InitRequest := record.read blank

def ofBytes (b : Bytes) : Except Invalidity InitRequest :=
  (Json.decode read b).mapError .unreadable

/-! ### Checking -/

def require (field : RequestField) (value : String) : Except Invalidity Unit :=
  if value = "" then .error (.missing field) else .ok ()

/-- Refuses a field that is there, not empty, and not of a certain form. -/
def requireForm (field : RequestField) (form : String → Bool) (value : Option String) :
    Except Invalidity Unit :=
  match value with
  | none => .ok ()
  | some s => if s = "" ∨ form s = true then .ok () else .error (.invalid field)

/-- Refuses a field that does not have a certain count of bytes. -/
def requireSize (field : RequestField) (size : Nat) (value : String) : Except Invalidity Unit := do
  require field value
  if value.utf8ByteSize ≠ size then throw (.invalid field)

/-- Refuses a request that lacks something, or says something that cannot be. -/
def check (r : InitRequest) : Except Invalidity Unit := do
  require .projectKey r.projectKey
  require .ident r.ident
  if identMaxLength < r.ident.length then throw (.invalid .ident)
  match r.amount with
  | none => throw (.missing .amount)
  | some amount => if amount < 0 then throw (.negativeAmount amount)
  if r.subunits.isNone then throw (.missing .subunits)
  requireSize .currency 3 r.currency
  requireSize .country 2 r.country
  if r.stamp.timestamp = 0 then throw (.missing .timestamp)
  require .nonce r.stamp.nonce
  if Nonce.maxLength < r.stamp.nonce.utf8ByteSize then throw (.invalid .nonce)
  require .signature r.stamp.signature
  if (Hex.decode? r.stamp.signature).isNone then throw .signatureNotHex
  requireForm .locale Message.isLocale r.locale
  requireForm .callbackURL Web.Url.isAbsolute r.callbackURL
  requireForm .returnURL Web.Url.isAbsolute r.returnURL

def validate (r : InitRequest) : Except RequestFault Unit := r.check.mapError .invalid

end InitRequest

end PaymentCredentials
