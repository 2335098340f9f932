import Ascos.Authentication.Model

/-!
# The authentication service

A translation of `runtime/customer_authentication/service.py`.  A call may be cut short
after any of its steps.
-/

namespace Ascos
namespace Authentication

open Ascos.Library
open Ascos.Runtime (Timestamp)

/-- `_SESSION_LIFETIME`, in microseconds. -/
def sessionLifetime : Timestamp :=
  12 * 3600 * 1000000

def issue (setting : Setting) (customerId : String) : Auth IssuedCustomerSession := do
  let token ← draw setting
  let csrf ← draw setting
  if token = csrf then
    Procedure.raise (.value "Session and CSRF token factories must produce distinct values")
  let issuedAt ← now setting
  let digest ← Procedure.ofExcept (tokenDigest setting token)
  let session : CustomerSession :=
    ⟨digest, customerId, csrf, issuedAt, issuedAt + sessionLifetime⟩
  Procedure.ofExcept session.check
  let _ ← Sessions.create session
  pure ⟨token, session⟩

def newAccount (setting : Setting) (email password : String) (salt : List UInt8)
    (token : String) (createdAt : Timestamp) : CustomerAccount :=
  ⟨"customer-" ++ token, email, salt, setting.scrypt password salt, createdAt⟩

def register (setting : Setting) (email password : String) (salt : List UInt8) :
    Auth IssuedCustomerSession := do
  let canonical ← Procedure.ofExcept (normalizeEmail setting email)
  Procedure.ofExcept (passwordPolicy setting password)
  if salt.length ≠ 16 then
    Procedure.raise (.value "Customer password salt factory is invalid")
  let token ← draw setting
  let createdAt ← now setting
  let account := newAccount setting canonical password salt token createdAt
  Procedure.ofExcept (account.check setting)
  let _ ← createAccount setting account
  issue setting account.customerId

/-- What `login` makes of an error of the account store. -/
def credentialsError (error : Error) : Error :=
  if error.errorClass = .valueError ∨ error.errorClass = .accountNotFound then
    ⟨.invalidCredentials, "Invalid email or password"⟩
  else error

def login (setting : Setting) (email password : String) : Auth IssuedCustomerSession := do
  let account ← (do
    let canonical ← Procedure.ofExcept (normalizeEmail setting email)
    loadAccount setting canonical : Auth CustomerAccount).handle fun error =>
      .raise (credentialsError error)
  if setting.scrypt password account.passwordSalt ≠ account.passwordDigest then
    Procedure.raise ⟨.invalidCredentials, "Invalid email or password"⟩
  issue setting account.customerId

/-- `except InvalidSession: pass`. -/
def ignoreInvalidSession (x : Auth Unit) : Auth Unit :=
  x.handle fun error => if error.errorClass = .invalidSession then pure () else .raise error

/-- `authenticate`; a token that is rejected as expired is noted. -/
def authenticate (setting : Setting) (token : String) : Auth CustomerSession := do
  let digest ← Procedure.ofExcept (tokenDigest setting token)
  let session ← Sessions.load digest
  let observedAt ← now setting
  if session.expiresAt ≤ observedAt then do
    let revokedAt ← now setting
    ignoreInvalidSession (Sessions.revoke digest revokedAt)
    note (.rejected token)
    .raise (.session "Customer session expired")
  else pure session

def logout (setting : Setting) (token : String) : Auth Unit := do
  let digest ← Procedure.ofExcept (tokenDigest setting token)
  let revokedAt ← now setting
  ignoreInvalidSession (Sessions.revoke digest revokedAt)

/-! ## Calls -/

/-- A call of the service, with the bytes of the salt factory. -/
inductive Call where
  | register (email password : String) (salt : List UInt8)
  | login (email password : String)
  | authenticate (token : String)
  | logout (token : String)
deriving DecidableEq

/-- What a call returns. -/
inductive Answer where
  | issued (session : IssuedCustomerSession)
  | session (session : CustomerSession)
  | none
deriving DecidableEq

/-- A session that was issued is noted when the call returns. -/
def noteIssued (issued : IssuedCustomerSession) : Auth Answer := do
  note (.issued issued.token issued.session.customerId issued.session.expiresAt)
  pure (.issued issued)

/-- The calls of the service. -/
def Call.perform (setting : Setting) : Call → Auth Answer
  | .register email password salt => do
    note (.registering email password)
    let issued ← Authentication.register setting email password salt
    noteIssued issued
  | .login email password => do
    let issued ← Authentication.login setting email password
    noteIssued issued
  | .authenticate token => do
    let session ← Authentication.authenticate setting token
    pure (.session session)
  | .logout token => do
    Authentication.logout setting token
    note (.loggedOut token)
    pure .none

/-- The world after a call that may be cut short. -/
def step (setting : Setting) (world : World) (call : Call × Nat) : World :=
  (call.1.perform setting).left call.2 world

end Authentication
end Ascos
