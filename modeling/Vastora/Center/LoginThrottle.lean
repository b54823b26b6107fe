import Vastora.Center.Timestamp
import Vastora.Library.Pattern

/-!
# LoginThrottle — signing in at Center

A failed login is counted twice, for the account it was meant for and for the client it came from, and each count
blocks further logins for a while.  `handleLogin` asks both counts first, then the CAPTCHA where one is required,
then the password, and counts what failed.  Logins are served one after another.
-/

namespace Vastora
namespace Center

open Library.Pattern Library.Calendar

/-! ## Instants of the clock -/

namespace Instant

/-- The instant in nanoseconds. -/
def nanos (t : Instant) : Nat := t.sec * 10 ^ 9 + t.nsec

/-- `t.Add` of a negative number of seconds. -/
def sub (t : Instant) (seconds : Nat) : Instant := { t with sec := t.sec - seconds }

theorem before_iff {a b : Instant} : a.Before b ↔ a.nanos < b.nanos := by
  have ha := a.nsec_lt
  have hb := b.nsec_lt
  unfold Before nanos
  omega

theorem nanos_add (t : Instant) (seconds : Nat) : (t.add seconds).nanos = t.nanos + seconds * 10 ^ 9 := by
  unfold add nanos
  ring

end Instant

/-- What the clock shows: a time of the years 1 to 9999. -/
structure Reading where
  instant : Instant
  inRange : instant.InRange
  day_le : 86400 ≤ instant.sec
deriving DecidableEq

def Reading.nanos (t : Reading) : Nat := t.instant.nanos

/-! ## Constants -/

def loginFailureWindow : Nat := 900

def loginLockoutDuration : Nat := 900

def loginFailureRetention : Nat := 86400

def loginMaxFailures : Nat := 5

/-- In seconds. -/
def loginBackoff (failures : Nat) : Nat := 2 ^ (min (max failures 1) 5)

/-! ## Counts of failures -/

inductive LoginScope where
  | account
  | client
deriving DecidableEq

def LoginScope.text : LoginScope → String
  | .account => "account"
  | .client => "client"

/-- A row of `login_failures` without its key. -/
structure LoginFailure where
  failedCount : Nat
  windowStartedAt : Instant
  blockedUntil : Instant
  updatedAt : Reading
  positive : 0 < failedCount
  blocked_le : blockedUntil.nanos ≤ updatedAt.nanos + loginLockoutDuration * 10 ^ 9
deriving DecidableEq

/-- The table `login_failures`. -/
abbrev LoginFailures := LoginScope → String → Option LoginFailure

structure Admin where
  id : String
  username : String
  passwordHash : String
deriving DecidableEq

/-- The table `admins`, with one row at most. -/
structure Admins where
  rows : List Admin
  single : rows.length ≤ 1
deriving DecidableEq

def adminPasswordMinLength : Nat := 10

/-- `^[A-Za-z0-9][A-Za-z0-9._-]{2,63}$` -/
def usernamePattern (s : String) : Bool :=
  match s.toList with
  | [] => false
  | c :: cs => c.isAlphanum && (cs.all fun c => c.isAlphanum || c == '.' || c == '_' || c == '-') &&
      2 ≤ cs.length && cs.length ≤ 63

/-- The only writer of the table. -/
def createFirstAdmin (hashPassword : String → String) (admins : Admins) (id username password : String) :
    Except String Admins :=
  let username := trimSpace username
  if !usernamePattern username then
    .error "center: username must be 3 to 64 characters using letters, numbers, dots, underscores, or hyphens"
  else if password.length < adminPasswordMinLength then
    .error "center: password must be at least 10 characters"
  else if admins.rows.length ≠ 0 then .error "center: setup is already complete"
  else .ok ⟨[⟨id, username, hashPassword password⟩], le_refl 1⟩

/-- What the store is given: case mapping, the keyed digest as text, and the check of a password. -/
structure LoginEnv where
  toLower : Char → Char
  toLower_ascii : ∀ c : Char, c.toNat < 128 → toLower c = c.toLower
  digest : String → String
  verifyPassword : String → String → Bool

section Store

variable (env : LoginEnv)

def loginFailureKey (scope : LoginScope) (value : String) : String :=
  env.digest ("vastora-login-" ++ scope.text ++ "\x00" ++ value)

/-- `loginFailureKeys`. -/
def loginFailureKeys (username clientAddress : String) : LoginScope → String
  | .account => loginFailureKey env .account ((trimSpace username).map env.toLower)
  | .client => loginFailureKey env .client (trimSpace clientAddress)

/-- The time in nanoseconds for which a login has to wait. -/
def loginThrottle (failures : LoginFailures) (username clientAddress : String) (now : Reading) : Nat :=
  let keys := loginFailureKeys env username clientAddress
  let blockedUntil := fun scope => ((failures scope (keys scope)).map fun row => row.blockedUntil.nanos).getD 0
  max (blockedUntil .account) (blockedUntil .client) - now.nanos

/-- `DELETE FROM login_failures WHERE updated_at < ?`, which compares texts. -/
def LoginFailures.expire (failures : LoginFailures) (now : Reading) : LoginFailures := fun scope key =>
  (failures scope key).filter fun row =>
    !decide (row.updatedAt.instant.format < (now.instant.sub loginFailureRetention).format)

/-- The count and the window that a failure is counted in. -/
def loginWindow (previous : Option LoginFailure) (now : Reading) : Nat × Instant :=
  match previous with
  | none => (0, now.instant)
  | some row =>
      if ¬ now.instant.Before (row.windowStartedAt.add loginFailureWindow) then (0, now.instant)
      else (row.failedCount, row.windowStartedAt)

/-- The delay of a count in seconds. -/
def loginDelay (count : Nat) : Nat := if loginMaxFailures ≤ count then loginLockoutDuration else loginBackoff count

theorem loginDelay_le (count : Nat) : loginDelay count ≤ loginLockoutDuration := by
  have hpow : loginBackoff count ≤ 2 ^ 5 := Nat.pow_le_pow_right (by decide) (min_le_right _ _)
  unfold loginDelay
  split
  · exact le_refl _
  · exact hpow.trans (by decide)

def nextFailure (previous : Option LoginFailure) (now : Reading) : LoginFailure where
  failedCount := (loginWindow previous now).1 + 1
  windowStartedAt :=
    if loginMaxFailures ≤ (loginWindow previous now).1 + 1 then now.instant else (loginWindow previous now).2
  blockedUntil := now.instant.add (loginDelay ((loginWindow previous now).1 + 1))
  updatedAt := now
  positive := Nat.succ_pos _
  blocked_le := by
    rw [Instant.nanos_add]
    exact Nat.add_le_add_left (Nat.mul_le_mul_right _ (loginDelay_le _)) _

def LoginFailures.record (failures : LoginFailures) (scope : LoginScope) (key : String) (now : Reading) :
    LoginFailures := fun scope' key' =>
  if scope' = scope ∧ key' = key then some (nextFailure (failures scope key) now) else failures scope' key'

/-- The table after a failure. -/
def recordLoginFailure (failures : LoginFailures) (username clientAddress : String) (includeAccount : Bool)
    (now : Reading) : LoginFailures :=
  let keys := loginFailureKeys env username clientAddress
  let recorded := (failures.expire now).record .client (keys .client) now
  if includeAccount then recorded.record .account (keys .account) now else recorded

def clearLoginFailures (failures : LoginFailures) (username clientAddress : String) : LoginFailures :=
  fun scope key => if key = loginFailureKeys env username clientAddress scope then none else failures scope key

end Store

/-! ## Logins -/

/-- `username = ?` with the collation `NOCASE`, which folds ASCII letters. -/
def nocaseEq (a b : String) : Bool := a.map Char.toLower == b.map Char.toLower

structure LoginContext where
  clientAddress : String
  captchaRequired : Bool
deriving DecidableEq

/-- A login, with what the rest of Center answers to it and the clock where it is read.  `context` is absent and
the Booleans are false where the environment fails. -/
structure LoginRequest where
  username : String
  password : String
  context : Option LoginContext
  throttleRead : Bool
  turnstileVerified : Bool
  adminRead : Bool
  sessionCreated : Bool
  throttledAt : Reading
  verifiedAt : Reading
  recordedAt : Reading
deriving DecidableEq

inductive LoginResult where
  | protectionUnavailable
  | throttleUnavailable
  | throttled
  | captchaFailed
  | invalidCredentials
  | authenticated
deriving DecidableEq

section Logins

variable (env : LoginEnv) (admins : Admins)

/-- The administrator that a login is verified against. -/
def administrator (username : String) : Option Admin :=
  admins.rows.find? fun admin => nocaseEq admin.username (trimSpace username)

/-- `Authenticate` creates a session. -/
def authenticate (r : LoginRequest) : Bool :=
  r.adminRead && (administrator admins r.username).any fun admin =>
    env.verifyPassword r.password admin.passwordHash && r.sessionCreated

def handleLogin (failures : LoginFailures) (r : LoginRequest) : LoginResult × LoginFailures :=
  match r.context with
  | none => (.protectionUnavailable, failures)
  | some context =>
      if !r.throttleRead then (.throttleUnavailable, failures)
      else if 0 < loginThrottle env failures r.username context.clientAddress r.throttledAt then (.throttled, failures)
      else if context.captchaRequired && !r.turnstileVerified then
        (.captchaFailed, recordLoginFailure env failures r.username context.clientAddress false r.recordedAt)
      else if authenticate env admins r then
        (.authenticated, clearLoginFailures env failures r.username context.clientAddress)
      else
        (.invalidCredentials, recordLoginFailure env failures r.username context.clientAddress true r.recordedAt)

/-- A login that was served, and the table after it. -/
structure LoginEvent where
  request : LoginRequest
  result : LoginResult
  failures : LoginFailures

/-- Logins one after another. -/
def logins : LoginFailures → List LoginRequest → List LoginEvent
  | _, [] => []
  | failures, r :: rs =>
      let served := handleLogin env admins failures r
      ⟨r, served.1, served.2⟩ :: logins served.2 rs

end Logins

/-- The clock never goes back. -/
def Chronological : Nat → List LoginRequest → Prop
  | _, [] => True
  | now, r :: rs => now ≤ r.throttledAt.nanos ∧ r.throttledAt.nanos ≤ r.verifiedAt.nanos ∧
      r.verifiedAt.nanos ≤ r.recordedAt.nanos ∧ Chronological r.recordedAt.nanos rs

end Center
end Vastora
