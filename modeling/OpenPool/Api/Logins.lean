import OpenPool.Store.Conversions

/-! # Logins and sessions

The two tables of the identity provider's logins. No statement reads them together with another
table. -/

namespace OpenPool

open Fallible

/-- The JSON of a session's roles: a list of names, or any other value. -/
inductive RolesJson where
  | names (roles : List String)
  | other (json : String)
  deriving DecidableEq

structure LoginAttemptRow where
  state : String
  nonce : String
  pkceVerifier : String
  expiresAt : ℤ
  deriving DecidableEq

structure SessionRow where
  id : Uuid
  subject : Uuid
  roles : RolesJson
  csrfTokenHash : List UInt8
  expiresAt : ℤ
  deriving DecidableEq

instance : Schema LoginAttemptRow where
  Check _ := True
  Clash a b := a.state = b.state
  clash_symm _ _ h := h.symm
  decidableCheck _ := instDecidableTrue
  decidableClash _ _ := inferInstance

instance : Schema SessionRow where
  Check row := row.csrfTokenHash.length = 32
  Clash a b := a.id = b.id
  clash_symm _ _ h := h.symm
  decidableCheck _ := inferInstance
  decidableClash _ _ := inferInstance

structure Logins where
  attempts : Table LoginAttemptRow
  sessions : Table SessionRow

def Logins.empty : Logins := ⟨.empty, .empty⟩

/-! ## Statements -/

structure NewOidcLoginAttempt where
  state : String
  nonce : String
  pkceVerifier : String
  expiresAt : ℤ
  deriving DecidableEq

structure OidcLoginAttempt where
  nonce : String
  pkceVerifier : String
  deriving DecidableEq

structure NewOidcSession where
  id : Uuid
  subject : Uuid
  roles : RolesJson
  csrfTokenHash : List UInt8
  expiresAt : ℤ
  deriving DecidableEq

structure OidcSession where
  subject : Uuid
  roles : RolesJson
  csrfTokenHash : List UInt8
  expiresAt : ℤ
  deriving DecidableEq

def NewOidcLoginAttempt.row (attempt : NewOidcLoginAttempt) : LoginAttemptRow where
  state := attempt.state
  nonce := attempt.nonce
  pkceVerifier := attempt.pkceVerifier
  expiresAt := toTimestamp attempt.expiresAt

def NewOidcSession.row (session : NewOidcSession) : SessionRow where
  id := session.id
  subject := session.subject
  roles := session.roles
  csrfTokenHash := session.csrfTokenHash
  expiresAt := toTimestamp session.expiresAt

def createOidcLoginAttempt (attempt : NewOidcLoginAttempt) (logins : Logins) :
    Except PersistenceError (Logins × Unit) := do
  let attempts ← sql (logins.attempts.insert attempt.row)
  return ({ logins with attempts }, ())

/-- Consumes the state exactly once; stale callbacks cannot be replayed. -/
def consumeOidcLoginAttempt (state : String) (now : ℤ) (logins : Logins) :
    Except PersistenceError (Logins × Option OidcLoginAttempt) :=
  let (attempts, returned) := logins.attempts.delete fun row => row.state = state ∧ now < row.expiresAt
  .ok ({ logins with attempts }, returned.head?.map fun row => ⟨row.nonce, row.pkceVerifier⟩)

def createOidcSession (session : NewOidcSession) (logins : Logins) :
    Except PersistenceError (Logins × Unit) := do
  let sessions ← sql (logins.sessions.insert session.row)
  return ({ logins with sessions }, ())

def SessionRow.session (row : SessionRow) : OidcSession where
  subject := row.subject
  roles := row.roles
  csrfTokenHash := row.csrfTokenHash
  expiresAt := ofTimestamp row.expiresAt

def oidcSession (id : Uuid) (now : ℤ) (logins : Logins) :
    Except PersistenceError (Option OidcSession) :=
  .ok ((logins.sessions.find fun row => row.id = id ∧ now < row.expiresAt).map SessionRow.session)

def deleteOidcSession (id : Uuid) (logins : Logins) : Except PersistenceError (Logins × Unit) :=
  .ok ({ logins with sessions := (logins.sessions.delete fun row => row.id = id).1 }, ())

end OpenPool
