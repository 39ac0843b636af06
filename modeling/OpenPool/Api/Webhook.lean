import OpenPool.Library.Hex
import OpenPool.Library.Hmac
import OpenPool.Api.Http
import OpenPool.Store.Invoices

/-! # Webhooks of the payment provider -/

namespace OpenPool

open Text

/-- `Mavapay::verify_webhook_signature`: the code of the raw body, in digits of either case. -/
def verifyWebhookSignature (sha256 : List UInt8 → Hash32) (secret rawBody : List UInt8)
    (supplied : String) : Bool :=
  match Bytes.ofHex supplied.toList with
  | some expected => expected = (Hmac.mac sha256 secret rawBody).val
  | none => false

/-- A value of `serde_json`; an object holds each key once. -/
inductive JsonValue where
  | null
  | bool (value : Bool)
  | number (text : String)
  | string (value : String)
  | array (items : List JsonValue)
  | object (members : List (String × JsonValue))

def JsonValue.asString : JsonValue → Option String
  | string value => some value
  | _ => none

structure MavapayWebhook where
  eventId : String
  invoiceId : Uuid
  deriving DecidableEq

section Parse

variable (parseUuid : String → Option Uuid)

/-- A field of the webhook each: a text, and the text of a `Uuid`. -/
def MavapayWebhook.ofFields (eventId invoiceId : JsonValue) : Option MavapayWebhook := do
  let eventId ← eventId.asString
  let invoiceId ← invoiceId.asString
  let invoiceId ← parseUuid invoiceId
  return ⟨eventId, invoiceId⟩

/-- `serde_json::from_value`, which reads a struct from an object, or from an array of its
fields in order. -/
def MavapayWebhook.fromValue : JsonValue → Option MavapayWebhook
  | .object members => do
      let eventId ← members.lookup "event_id"
      let invoiceId ← members.lookup "invoice_id"
      ofFields parseUuid eventId invoiceId
  | .array [eventId, invoiceId] => ofFields parseUuid eventId invoiceId
  | _ => none

end Parse

theorem verifyWebhookSignature_iff {sha256 : List UInt8 → Hash32} {secret rawBody : List UInt8}
    {supplied : String} : verifyWebhookSignature sha256 secret rawBody supplied = true ↔
      Bytes.ofHex supplied.toList = some (Hmac.mac sha256 secret rawBody).val := by
  unfold verifyWebhookSignature
  cases Bytes.ofHex supplied.toList <;> simp

end OpenPool
