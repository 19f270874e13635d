import PaymentCredentials.Message.Amount
import PaymentCredentials.Message.Stamp

/-!
Notifications about the state of a payment, sent to the address that its project gave.
-/
namespace PaymentCredentials

open Json

/-- A notification about a payment. -/
structure Notification where
  version : String
  paymentId : String
  ident : String
  amount : Int64
  subunits : Int8
  decimalAmount : String
  currency : String
  country : String
  paymentMethodId : Option Int64
  locale : Option String
  /-- A decimal balance for each currency. -/
  balance : Option TextMap
  status : Option String
  /-- The time of the last transaction, in nanoseconds since the beginning of 1970. -/
  transactionTimestamp : Option Int64
  metadata : Option TextMap
  stamp : Stamp
  deriving DecidableEq

namespace Notification

def currentVersion : String := "2.0.0-alpha"

def blank : Notification :=
  ⟨"", "", "", 0, 0, "", "", "", none, none, none, none, none, none, .blank⟩

def new (paymentId ident : String) (amount : Int64) (subunits : Int8) (currency : String) :
    Notification :=
  { blank with
    version := currentVersion, paymentId := paymentId, ident := ident, amount := amount,
    subunits := subunits, decimalAmount := Message.decimalAmount amount subunits,
    currency := currency }

/-- The notification with the country, the method and the locale of the payment. A method zero and an
empty locale count as unset. -/
def withConfig (n : Notification) (country : String) (paymentMethodId : Int64) (locale : String) :
    Notification :=
  { n with
    country := country
    paymentMethodId := if paymentMethodId = 0 then none else some paymentMethodId
    locale := if locale = "" then none else some locale }

def withStatus (n : Notification) (status : String) : Notification := { n with status := some status }

/-- The notification with the time of the last transaction, if that can be told in nanoseconds. -/
def withTransactionTime (n : Notification) (time : Instant) : Notification :=
  { n with transactionTimestamp := time.unixNanos? }

def withBalance (n : Notification) (balance : TextMap) : Notification :=
  { n with balance := some balance }

def withMetadata (n : Notification) (metadata : TextMap) : Notification :=
  { n with metadata := some metadata }

/-- What a notification is called in logs. -/
def identification (n : Notification) : String := "payment notification " ++ n.version

/-- The bytes that are signed, without the end. -/
def body (n : Notification) : Bytes :=
  Canonical.field n.version ++ Canonical.field n.paymentId ++ Canonical.field n.ident ++
    Canonical.int n.amount.toInt ++ Canonical.int n.subunits.toInt ++
    Canonical.field n.decimalAmount ++ Canonical.field n.currency ++ Canonical.field n.country ++
    Canonical.optionalInt (n.paymentMethodId.getD 0).toInt ++ Canonical.optional n.locale ++
    Canonical.sortedMap (n.balance.getD .empty).entries ++ Canonical.optional n.status ++
    Canonical.optionalInt (n.transactionTimestamp.getD 0).toInt ++
    Canonical.sortedMap (n.metadata.getD .empty).entries

instance : Stamped Notification where
  body n := .ok n.body
  stamp n := n.stamp
  withStamp s n := { n with stamp := s }

/-- The notification as a JSON value. Of its stamp, only the timestamp is always there. -/
def toJson (n : Notification) : Json :=
  .object (Message.textMember "Version" n.version ++ Message.textMember "PaymentId" n.paymentId ++
    Message.textMember "Ident" n.ident ++ Message.intMember "Amount" n.amount.toInt ++
    Message.intMember "Subunits" n.subunits.toInt ++
    Message.textMember "DecimalAmount" n.decimalAmount ++ Message.textMember "Currency" n.currency ++
    Message.filledMember "Country" n.country ++
    Message.optionalMember Message.intMember "PaymentMethodId" (n.paymentMethodId.map (·.toInt)) ++
    Message.optionalMember Message.textMember "Locale" n.locale ++
    Message.optionalMember Message.mapMember "Balance" n.balance ++
    Message.optionalMember Message.textMember "Status" n.status ++
    Message.optionalMember Message.intMember "TransactionTimestamp"
      (n.transactionTimestamp.map (·.toInt)) ++
    Message.optionalMember Message.mapMember "Metadata" n.metadata ++
    Message.intMember "Timestamp" n.stamp.timestamp.toInt ++
    Message.filledMember "Nonce" n.stamp.nonce ++
    Message.filledMember "Signature" n.stamp.signature)

def record : Record Notification :=
  ⟨"struct Notification",
    [.optional "Version" Draft.toText fun s n => { n with version := s },
      .optional "PaymentId" Draft.toText fun s n => { n with paymentId := s },
      .optional "Ident" Draft.toText fun s n => { n with ident := s },
      .optional "Amount" Message.readInt64 fun i n => { n with amount := i },
      .optional "Subunits" Message.readInt8 fun i n => { n with subunits := i },
      .optional "DecimalAmount" Draft.toText fun s n => { n with decimalAmount := s },
      .optional "Currency" Draft.toText fun s n => { n with currency := s },
      .optional "Country" Draft.toText fun s n => { n with country := s },
      .optional "PaymentMethodId" (Draft.toOption Message.readInt64) fun i n =>
        { n with paymentMethodId := i },
      .optional "Locale" (Draft.toOption Draft.toText) fun s n => { n with locale := s },
      .optional "Balance" (Draft.toOption TextMap.read) fun m n => { n with balance := m },
      .optional "Status" (Draft.toOption Draft.toText) fun s n => { n with status := s },
      .optional "TransactionTimestamp" (Draft.toOption Message.readInt64) fun i n =>
        { n with transactionTimestamp := i },
      .optional "Metadata" (Draft.toOption TextMap.read) fun m n => { n with metadata := m }] ++
    Stamp.fields fun f n => { n with stamp := f n.stamp }⟩

def read : Draft → Except Problem Notification := record.read blank

end Notification

end PaymentCredentials
