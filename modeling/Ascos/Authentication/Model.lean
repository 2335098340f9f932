import Ascos.Library.ExclusiveFiles
import Ascos.Library.Table
import Ascos.Library.Texts
import Ascos.Runtime.Model

/-!
# Customer authentication

The records of `runtime/customer_authentication/models.py` and the file stores of
`persistence.py`.  A file holds a record or was left without its content, which every
reader takes for a corrupt authority.  Next to the files the world keeps which calls returned,
so that what a token is good for can be judged by it.
-/

namespace Ascos
namespace Authentication

open Ascos.Library
open Ascos.Runtime (Timestamp isSpace)

/-! ## Errors -/

/-- The exception classes of the module. -/
inductive ErrorClass where
  | accountAlreadyExists
  | accountNotFound
  | authenticationAuthorityCorrupt
  | invalidCredentials
  | invalidSession
  | valueError
deriving DecidableEq

/-- A raised exception with its message. -/
structure Error where
  errorClass : ErrorClass
  message : String
deriving DecidableEq

/-- `ValueError(message)`. -/
def Error.value (message : String) : Error :=
  ⟨.valueError, message⟩

/-- `InvalidSession(message)`. -/
def Error.session (message : String) : Error :=
  ⟨.invalidSession, message⟩

/-- `AuthenticationAuthorityCorrupt(message)`. -/
def Error.corrupt (message : String) : Error :=
  ⟨.authenticationAuthorityCorrupt, message⟩

/-! ## The environment -/

/-- What the service is built with: the Unicode tables and hash functions of the standard
library, the clock, and the token factory. -/
structure Setting where
  casefold : String → String
  lower : String → String
  isAlnum : Char → Bool
  isLower : Char → Bool
  isUpper : Char → Bool
  isDigit : Char → Bool
  sha256 : String → String
  scrypt : String → List UInt8 → String
  clock : Nat → Timestamp
  tokenFactory : Nat → String

/-! ## Texts -/

/-- A character of an ASCII text that is no letter, digit or one of the given ones. -/
def isIdentifierChar (extra : List Char) (c : Char) : Bool :=
  (c.toNat < 128 && c.isAlphanum) || c ∈ extra

/-- `_IDENTIFIER.fullmatch`. -/
def isIdentifier (value : String) : Bool :=
  match value.toList with
  | [] => false
  | c :: rest =>
      isIdentifierChar [] c && rest.length ≤ 127 && rest.all (isIdentifierChar ['_', '.', '-'])

/-- `_CSRF.fullmatch`. -/
def isCsrf (value : String) : Bool :=
  decide (32 ≤ value.length ∧ value.length ≤ 256) &&
    value.toList.all (isIdentifierChar ['_', '-'])

/-- A label of the domain of an address. -/
def isLabel (setting : Setting) (label : List Char) : Bool :=
  label ≠ [] && label.length ≤ 63 && label.head? ≠ some '-' && label.getLast? ≠ some '-' &&
    label.all fun c => setting.isAlnum c || c = '-'

/-- Two points in a row. -/
def hasDoublePoint (chars : List Char) : Bool :=
  (chars.zip chars.tail).any fun pair => pair.1 = '.' && pair.2 = '.'

def normalizeEmail (setting : Setting) (value : String) : Except Error String := do
  let stripped := strip isSpace value
  let canonical := setting.casefold stripped
  let chars := canonical.toList
  if canonical ≠ setting.lower stripped ∨ 254 < canonical.length ∨ chars.count '@' ≠ 1 ∨
      chars.any (fun c => decide (127 < c.toNat) || isSpace c) = true then
    throw (.value "Customer email is invalid")
  let name := chars.takeWhile (· ≠ '@')
  let labels := ((chars.dropWhile (· ≠ '@')).tail).splitOn '.'
  if name.length < 1 ∨ 64 < name.length ∨ name.head? = some '.' ∨ name.getLast? = some '.' ∨
      hasDoublePoint name = true ∨ labels.length < 2 ∨ labels.all (isLabel setting) = false then
    throw (.value "Customer email is invalid")
  pure canonical

def passwordPolicy (setting : Setting) (value : String) : Except Error Unit :=
  if ¬(12 ≤ value.length ∧ value.length ≤ 128) ∨
      value.toList.any (fun c => decide (c.toNat < 32 ∨ c.toNat = 127)) = true ∨
      value.toList.any setting.isLower = false ∨ value.toList.any setting.isUpper = false ∨
      value.toList.any setting.isDigit = false then
    throw (.value "Password must contain 12-128 characters with upper, lower, and number")
  else pure ()

/-- A token of the form that `_token_digest` accepts. -/
def isToken (setting : Setting) (value : String) : Bool :=
  decide (32 ≤ value.length ∧ value.length ≤ 256) &&
    value.toList.all fun c => setting.isAlnum c || c ∈ ['_', '-']

def tokenDigest (setting : Setting) (value : String) : Except Error String :=
  if isToken setting value = true then pure (setting.sha256 value)
  else throw (.session "Customer session token is invalid")

/-! ## Records -/

/-- `CustomerAccount`; the salt is kept as its bytes. -/
structure CustomerAccount where
  customerId : String
  email : String
  passwordSalt : List UInt8
  passwordDigest : String
  createdAt : Timestamp
deriving DecidableEq

/-- The checks of the constructor; salt and digest have their form by construction. -/
def CustomerAccount.check (setting : Setting) (account : CustomerAccount) :
    Except Error Unit := do
  if isIdentifier account.customerId = false then throw (.value "customer ID is invalid")
  let canonical ← normalizeEmail setting account.email
  if canonical ≠ account.email then throw (.value "Customer email is not canonical")

structure CustomerSession where
  tokenDigest : String
  customerId : String
  csrfToken : String
  createdAt : Timestamp
  expiresAt : Timestamp
deriving DecidableEq

def CustomerSession.check (session : CustomerSession) : Except Error Unit := do
  if isIdentifier session.customerId = false then
    throw (.value "customer session customer ID is invalid")
  if isCsrf session.csrfToken = false then
    throw (.value "Customer session CSRF token is invalid")
  if session.expiresAt ≤ session.createdAt ∨
      30 * 24 * 3600 * 1000000 < session.expiresAt - session.createdAt then
    throw (.value "Customer session lifetime is outside policy")

structure IssuedCustomerSession where
  token : String
  session : CustomerSession
deriving DecidableEq

/-- The record of a revocation marker. -/
structure Revocation where
  tokenDigest : String
  revokedAt : Timestamp
deriving DecidableEq

/-! ## The world -/

/-- A call that returned, or a token that was rejected as expired; a registration is also
noted when it begins. -/
inductive Event where
  | registering (email password : String)
  | issued (token customerId : String) (expiresAt : Timestamp)
  | loggedOut (token : String)
  | rejected (token : String)
deriving DecidableEq

/-- The files, how many tokens were drawn, how often the clock was read, and whether a write
is under way: a file is there whose content is not, or a session or marker whose call has not
returned. -/
structure World where
  accounts : Table String (File CustomerAccount)
  sessions : Table String (File CustomerSession)
  revoked : Table String (File Revocation)
  drawn : Nat
  ticks : Nat
  writing : Bool
  log : List Event

/-- There are no files and nothing has happened. -/
def World.initial : World :=
  ⟨[], [], [], 0, 0, false, []⟩

/-- What the service does, step by step. -/
abbrev Auth (α : Type) := Procedure World Error α

def accountPlace (key : String) : Place World CustomerAccount where
  get world := world.accounts.load key
  put file world :=
    { world with accounts := world.accounts.save key file, writing := decide (file = .torn) }

def sessionPlace (key : String) : Place World CustomerSession where
  get world := world.sessions.load key
  put file world := { world with sessions := world.sessions.save key file, writing := true }

/-- The marker of a session. -/
def revokedPlace (key : String) : Place World Revocation where
  get world := world.revoked.load key
  put file world := { world with revoked := world.revoked.save key file, writing := true }

/-- A call returns. -/
def note (event : Event) : Auth Unit :=
  .modify fun world => { world with log := event :: world.log, writing := false }

/-- `self._clock()`. -/
def now (setting : Setting) : Auth Timestamp :=
  .step (fun world => { world with ticks := world.ticks + 1 }) fun world =>
    pure (setting.clock world.ticks)

/-- `self._token_factory()`. -/
def draw (setting : Setting) : Auth String :=
  .step (fun world => { world with drawn := world.drawn + 1 }) fun world =>
    pure (setting.tokenFactory world.drawn)

/-! ## Accounts -/

/-- `FileCustomerAccountStore._path`. -/
def accountKey (setting : Setting) (email : String) : Except Error String := do
  let canonical ← normalizeEmail setting email
  pure (setting.sha256 canonical)

/-- What `FileCustomerAccountStore.load` makes of a file. -/
def readAccount (canonical : String) : Option (File CustomerAccount) →
    Except Error CustomerAccount
  | none => throw ⟨.accountNotFound, "Unknown customer account"⟩
  | some .torn => throw (.corrupt "Authentication authority is corrupt")
  | some (.whole account) =>
    if account.email ≠ canonical then throw (.corrupt "Customer account authority is corrupt")
    else pure account

/-- `FileCustomerAccountStore.load`. -/
def loadAccount (setting : Setting) (email : String) : Auth CustomerAccount := do
  let canonical ← .ofExcept (normalizeEmail setting email)
  let key ← .ofExcept (accountKey setting canonical)
  .query fun world => readAccount canonical (world.accounts.load key)

/-- `FileCustomerAccountStore.create`. -/
def createAccount (setting : Setting) (account : CustomerAccount) : Auth CustomerAccount := do
  let key ← .ofExcept (accountKey setting account.email)
  let created ← (accountPlace key).exclusiveWrite account
  if created = true then pure account
  else do
    let existing ← loadAccount setting account.email
    if existing = account then pure existing
    else .raise ⟨.accountAlreadyExists, "Customer account already exists"⟩

/-! ## Sessions -/

/-- `_validate_revocation`, and the error of a revoked session. -/
def readMarker (key : String) : File Revocation → Error
  | .torn => .corrupt "Authentication authority is corrupt"
  | .whole marker =>
    if marker.tokenDigest ≠ key then .corrupt "Customer revocation authority is corrupt"
    else .session "Customer session is revoked"

/-- What `FileCustomerSessionStore.load` makes of the files. -/
def readSession (key : String) :
    Option (File Revocation) → Option (File CustomerSession) → Except Error CustomerSession
  | some marker, _ => throw (readMarker key marker)
  | none, none => throw (.session "Unknown customer session")
  | none, some .torn => throw (.corrupt "Authentication authority is corrupt")
  | none, some (.whole session) =>
    if session.tokenDigest ≠ key then
      throw (.corrupt "Customer session authority is corrupt")
    else pure session

def Sessions.load (key : String) : Auth CustomerSession :=
  .query fun world => readSession key (world.revoked.load key) (world.sessions.load key)

def Sessions.create (session : CustomerSession) : Auth CustomerSession := do
  let created ← (sessionPlace session.tokenDigest).exclusiveWrite session
  if created = true then pure session
  else do
    let existing ← Sessions.load session.tokenDigest
    if existing = session then pure existing
    else .raise (.session "Customer session identity collision")

def Sessions.revoke (key : String) (revokedAt : Timestamp) : Auth Unit := do
  let _ ← Sessions.load key
  let _ ← (revokedPlace key).exclusiveWrite ⟨key, revokedAt⟩
  pure ()

end Authentication
end Ascos
