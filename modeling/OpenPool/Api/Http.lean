import OpenPool.Library.Text
import OpenPool.Store.Conversions

/-! # Headers and errors of HTTP -/

namespace OpenPool

open Fallible Text

/-- The headers of a request; a name is in lower case and may occur more than once. -/
structure HeaderMap where
  values : List (String × List UInt8)

def HeaderMap.get (headers : HeaderMap) (name : String) : Option (List UInt8) :=
  headers.values.lookup name

/-- `HeaderValue::to_str`: visible ASCII, blanks and tabs. -/
def toStr (value : List UInt8) : Option String :=
  if value.all fun byte => (32 ≤ byte && byte < 127) || byte == 9 then
    some (String.ofList (value.map fun byte => Char.ofNat byte.toNat))
  else none

/-- The text of a header. -/
def HeaderMap.text (headers : HeaderMap) (name : String) : Option String :=
  (headers.get name).bind toStr

/-! ## Errors -/

structure ApiError where
  status : ℕ
  code : String
  message : String
  deriving DecidableEq

namespace ApiError

def bad (message : String) : ApiError := ⟨400, "validation_error", message⟩

def forbidden (message : String) : ApiError := ⟨403, "forbidden", message⟩

def provider (message : String) : ApiError := ⟨502, "provider_error", message⟩

def internal (message : String) : ApiError := ⟨500, "internal_error", message⟩

def unavailable (message : String) : ApiError := ⟨503, "dependency_unavailable", message⟩

/-- `From<PersistenceError>`, with the texts of `sqlx` as a parameter. -/
def ofPersistence (describe : SqlxError → String) (value : PersistenceError) : ApiError :=
  match value with
  | .notFound _ => ⟨404, "not_found", value.toString describe⟩
  | _ => ⟨409, "conflict", value.toString describe⟩

end ApiError

/-! ## Cookies -/

section Cookies

variable (parseUuid : String → Option Uuid)

/-- The value of the first cookie of this name. -/
def cookieValue (name : String) (cookie : String) : Option String :=
  ((cookie.toList.splitOn ';').map trimChars).findSome? fun part =>
    (part.dropPrefix? (name ++ "=").toList).map String.ofList

def sessionIdFromHeaders (headers : HeaderMap) : Except ApiError Uuid :=
  orElse (((headers.text "cookie").bind (cookieValue "openpool_session")).bind parseUuid)
    (.forbidden "OIDC session cookie is required")

end Cookies

end OpenPool
