import Vastora.Library.Guard
import Vastora.Library.Pattern
import Vastora.Library.Table

/-!
# CatalogStore — catalog sources and what was fetched from them

Administrators create, update and delete sources.  A refresh reads a source, fetches its catalog and comes back
in a later transaction with the generation and revision that it read: the generation is drawn when a source is
created, and the revision counts the changes of what identifies a fetch.  Between the two transactions anything
may happen.  A failed transaction leaves the tables as they were.
-/

namespace Vastora
namespace Center

open Library Library.Guard Library.Pattern

abbrev Bytes := List UInt8

def utf8 (s : String) : Bytes := s.toUTF8.data.toList

/-! ## Tables -/

structure SecretRow where
  id : String
  value : String
  additionalData : String
deriving DecidableEq, Repr

structure SourceRow where
  id : String
  displayName : String
  url : String
  publicKey : Bytes
  bearerSecretID : Option String
  customCA : String
  enabled : Bool
  refreshSeconds : Int
  generation : String
  revision : Int
  createdAt : String
  lastCheckedAt : String
  lastError : Bytes
deriving DecidableEq, Repr

structure CacheRow where
  sourceID : String
  envelope : Bytes
  etag : String
  lastModified : String
  fetchedAt : String
deriving DecidableEq, Repr

structure HistoryRow where
  sourceID : String
  appID : String
  version : String
  packageRevision : Int
  manifestSHA256 : String
  firstSeenAt : String
deriving DecidableEq, Repr

/-- The primary key of `catalog_manifest_history`. -/
def HistoryRow.key (row : HistoryRow) : String × String × String × Int :=
  (row.sourceID, row.appID, row.version, row.packageRevision)

structure CatalogTables where
  sources : List SourceRow
  cache : List CacheRow
  history : List HistoryRow
  secrets : List SecretRow
deriving DecidableEq, Repr

/-- The functions of other packages.  `App` is a manifest of a catalog. -/
structure CatalogEnv (Envelope App : Type) where
  /-- `url.Parse` finds an absolute HTTPS URL without credentials. -/
  validURL : String → Bool
  parseEnvelope : Bytes → Except String Envelope
  /-- The apps of the verified catalog. -/
  verify : Envelope → Bytes → Except String (List App)
  canonicalAppManifest : App → Except String App
  /-- `json.Marshal`. -/
  marshal : App → Except String Bytes
  /-- The hexadecimal text of the SHA-256 digest. -/
  sha256 : Bytes → String
  appID : App → String
  version : App → String
  packageRevision : App → Int
  /-- What the database says about a violated constraint. -/
  constraint : String

def officialCatalogSourceID : String := "vastora-official"

/-- `^[a-z][a-z0-9-]{1,62}$` -/
def sourceIDPattern (id : String) : Bool :=
  match id.toList with
  | [] => false
  | c :: cs => 'a' ≤ c && c ≤ 'z' && 1 ≤ cs.length && cs.length ≤ 62 &&
      cs.all fun c => ('a' ≤ c && c ≤ 'z') || ('0' ≤ c && c ≤ '9') || c == '-'

section Store

variable {Envelope App : Type} (env : CatalogEnv Envelope App)

/-! ## Secrets -/

def putSecret (secrets : List SecretRow) (id value additionalData : String) : Except String (List SecretRow) := do
  require (!secrets.any (·.id == id)) ("center: save secret: " ++ env.constraint)
  return secrets ++ [⟨id, value, additionalData⟩]

def getSecret (secrets : List SecretRow) (id additionalData : String) : Except String String := do
  let row ← fetch (secrets.find? (·.id == id)) "center: read secret: sql: no rows in result set"
  require (row.additionalData == additionalData) "center: decrypt secret"
  return row.value

/-- The credential of a source as it is stored; an empty token is none. -/
def putBearer (secrets : List SecretRow) (secretID token sourceID : String) :
    Except String (List SecretRow × Option String) :=
  if token = "" then .ok (secrets, none)
  else (putSecret env secrets secretID token ("catalog-source:" ++ sourceID)).map fun secrets =>
    (secrets, some secretID)

/-! ## Sources -/

structure SourceInput where
  id : String
  displayName : String
  url : String
  publicKey : Bytes
  bearerToken : String
  customCAPEM : String
  refreshSeconds : Int

structure SourceUpdate where
  displayName : Option String := none
  url : Option String := none
  publicKey : Option Bytes := none
  bearerToken : Option String := none
  customCAPEM : Option String := none
  refreshSeconds : Option Int := none
  enabled : Option Bool := none

/-- The checks that creation and update share. -/
def validateSource (displayName url : String) (publicKey : Bytes) (refreshSeconds : Int) : Except String Unit := do
  require (displayName != "" && url != "") "center: source display name and URL are required"
  require (env.validURL url) "center: source URL must be absolute HTTPS without credentials"
  require (publicKey.length == 32) "center: source requires an Ed25519 public key"
  require (300 ≤ refreshSeconds && refreshSeconds ≤ 604800)
    "center: refresh interval must be between 300 and 604800 seconds"

/-- `generation` and `secretID` are random tokens. -/
def createSource (input : SourceInput) (generation secretID now : String) (s : CatalogTables) :
    Except String CatalogTables := do
  require (sourceIDPattern input.id) "center: source id must use lowercase letters, digits, and hyphens"
  require (input.id != officialCatalogSourceID) "center: the official catalog namespace is reserved"
  let url := trimSpace input.url
  let refreshSeconds := if input.refreshSeconds = 0 then 21600 else input.refreshSeconds
  validateSource env (trimSpace input.displayName) url input.publicKey refreshSeconds
  let bearer ← putBearer env s.secrets secretID input.bearerToken input.id
  require (!s.sources.any (·.id == input.id)) ("center: create source: " ++ env.constraint)
  let row : SourceRow :=
    { id := input.id, displayName := input.displayName, url := url, publicKey := input.publicKey,
      bearerSecretID := bearer.2, customCA := input.customCAPEM, enabled := true,
      refreshSeconds := refreshSeconds, generation := generation, revision := 1, createdAt := now,
      lastCheckedAt := "", lastError := [] }
  return { s with sources := s.sources ++ [row], secrets := bearer.1 }

/-- The row with the values of an update. -/
def SourceUpdate.applied (update : SourceUpdate) (row : SourceRow) : SourceRow :=
  { row with
    displayName := (update.displayName.map trimSpace).getD row.displayName
    url := (update.url.map trimSpace).getD row.url
    publicKey := update.publicKey.getD row.publicKey
    customCA := update.customCAPEM.getD row.customCA
    refreshSeconds := update.refreshSeconds.getD row.refreshSeconds
    enabled := update.enabled.getD row.enabled }

def SourceUpdate.keyChanged (update : SourceUpdate) (row : SourceRow) : Bool :=
  (update.applied row).publicKey != row.publicKey

/-- What identifies a fetch has changed; a credential counts as changed when it is written. -/
def SourceUpdate.configurationChanged (update : SourceUpdate) (row : SourceRow) : Bool :=
  (update.applied row).url != row.url || update.keyChanged row || update.bearerToken.isSome ||
    update.customCAPEM.isSome

def SourceUpdate.lifecycleChanged (update : SourceUpdate) (row : SourceRow) : Bool :=
  update.configurationChanged row || row.enabled != (update.applied row).enabled

def SourceUpdate.forceRefresh (update : SourceUpdate) (row : SourceRow) : Bool :=
  update.configurationChanged row || (!row.enabled && (update.applied row).enabled)

/-- The row as the update leaves it. -/
def SourceUpdate.written (update : SourceUpdate) (bearerSecretID : Option String) (row : SourceRow) : SourceRow :=
  { update.applied row with
    bearerSecretID := bearerSecretID
    lastCheckedAt := if update.forceRefresh row then "" else row.lastCheckedAt
    lastError :=
      if update.configurationChanged row then
        if update.keyChanged row then [] else utf8 "catalog source configuration changed; refresh required"
      else row.lastError
    revision := row.revision + if update.lifecycleChanged row then 1 else 0 }

/-- What happens to the cache: a new key deletes it, another change of the configuration only its validators. -/
def SourceUpdate.invalidated (update : SourceUpdate) (row : SourceRow) (cache : List CacheRow) : List CacheRow :=
  if update.keyChanged row then cache.filter fun c => c.sourceID != row.id
  else if update.configurationChanged row then
    Table.update (fun c => c.sourceID == row.id) (fun c => { c with etag := "", lastModified := "" }) cache
  else cache

/-- The credential after an update. -/
def SourceUpdate.bearer (update : SourceUpdate) (secrets : List SecretRow) (secretID : String) (row : SourceRow) :
    Except String (List SecretRow × Option String) :=
  match update.bearerToken with
  | none => .ok (secrets, row.bearerSecretID)
  | some token => putBearer env secrets secretID token row.id

def updateSource (id : String) (update : SourceUpdate) (secretID : String) (s : CatalogTables) :
    Except String CatalogTables := do
  require (id != officialCatalogSourceID) "center: the official catalog source is read-only"
  let row ← fetch (s.sources.find? (·.id == id)) "center: catalog source not found"
  let next := update.applied row
  validateSource env next.displayName next.url next.publicKey next.refreshSeconds
  let bearer ← update.bearer env s.secrets secretID row
  let replaced := update.bearerToken.isSome && row.bearerSecretID.isSome && bearer.2 != row.bearerSecretID
  return { s with
    sources := Table.update (fun r => r.id == id) (fun _ => update.written bearer.2 row) s.sources
    cache := update.invalidated row s.cache
    secrets := if replaced then bearer.1.filter fun secret => some secret.id != row.bearerSecretID else bearer.1 }

/-- The rows of the cache go with their source. -/
def deleteSource (id : String) (s : CatalogTables) : Except String CatalogTables := do
  require (id != officialCatalogSourceID) "center: the official catalog source is read-only"
  let row ← fetch (s.sources.find? (·.id == id)) "center: catalog source not found"
  return { s with
    sources := s.sources.filter fun r => r.id != id
    cache := s.cache.filter fun c => c.sourceID != id
    secrets := s.secrets.filter fun secret => some secret.id != row.bearerSecretID }

/-! ## Refreshes -/

/-- What a refresh works with. -/
structure SourceCredential where
  id : String
  url : String
  publicKey : Bytes
  bearerToken : String
  customCA : String
  etag : String
  lastModified : String
  generation : String
  revision : Int

/-- The bearer token of a source; without a credential it is empty. -/
def sourceToken (secrets : List SecretRow) (row : SourceRow) : Except String String :=
  match row.bearerSecretID with
  | none => .ok ""
  | some secretID => getSecret secrets secretID ("catalog-source:" ++ row.id)

/-- The row is read in one query and its credential in a second one, when the tables may be others. -/
def sourceForRefresh (id : String) (s later : CatalogTables) : Except String SourceCredential := do
  let row ← fetch (s.sources.find? (·.id == id)) "center: catalog source not found"
  require row.enabled "center: catalog source is disabled"
  let cached := s.cache.find? (·.sourceID == id)
  let bearerToken ← sourceToken later.secrets row
  return { id := row.id, url := row.url, publicKey := row.publicKey, bearerToken := bearerToken,
           customCA := row.customCA, etag := (cached.map (·.etag)).getD "",
           lastModified := (cached.map (·.lastModified)).getD "", generation := row.generation,
           revision := row.revision }

/-- `INSERT … ON CONFLICT(source_id) DO UPDATE`. -/
def upsertCache (row : CacheRow) (cache : List CacheRow) : List CacheRow :=
  if cache.any (·.sourceID == row.sourceID) then
    Table.update (fun c => c.sourceID == row.sourceID) (fun _ => row) cache
  else cache ++ [row]

/-- The text `source/app@version` of an error. -/
def manifestName (sourceID : String) (app : App) : String :=
  sourceID ++ "/" ++ env.appID app ++ "@" ++ env.version app

/-- A manifest in the form that is compared, with its digest. -/
def canonicalManifest (sourceID : String) (app : App) : Except String (App × String) := do
  let canonical ← (env.canonicalAppManifest app).mapError fun err =>
    "center: canonicalize immutable catalog manifest " ++ manifestName env sourceID app ++ ": " ++ err
  let encoded ← (env.marshal canonical).mapError fun err =>
    "center: encode immutable catalog manifest " ++ manifestName env sourceID canonical ++ ": " ++ err
  return (canonical, env.sha256 encoded)

def historyRow (sourceID now : String) (manifest : App × String) : HistoryRow :=
  { sourceID := sourceID, appID := env.appID manifest.1, version := env.version manifest.1,
    packageRevision := env.packageRevision manifest.1, manifestSHA256 := manifest.2, firstSeenAt := now }

/-- A manifest is recorded once; what comes later under its key must have its digest. -/
def recordManifest (sourceID now : String) (history : List HistoryRow) (app : App) :
    Except String (List HistoryRow) := do
  let manifest ← canonicalManifest env sourceID app
  let row := historyRow env sourceID now manifest
  match history.find? fun h => h.key == row.key with
  | none => do
      require (0 ≤ row.packageRevision) ("center: record immutable catalog manifest " ++
        manifestName env sourceID manifest.1 ++ ": " ++ env.constraint)
      return history ++ [row]
  | some existing => do
      require (existing.manifestSHA256 == row.manifestSHA256)
        ("center: immutable catalog manifest changed for " ++ manifestName env sourceID manifest.1)
      return history

def recordCatalogManifestHistory (sourceID now : String) (apps : List App) (history : List HistoryRow) :
    Except String (List HistoryRow) :=
  apps.foldlM (recordManifest env sourceID now) history

/-- The guard of every statement of a refresh. -/
def SourceRow.current (row : SourceRow) (sourceID generation : String) (revision : Int) : Bool :=
  row.id == sourceID && row.enabled && row.generation == generation && row.revision == revision

/-- The source of a refresh, if it is still the one that was read. -/
def refreshedSource (sourceID generation : String) (revision : Int) (s : CatalogTables) :
    Except String SourceRow := do
  let row ← fetch (s.sources.find? (·.id == sourceID)) "center: catalog source not found"
  require row.enabled "center: catalog source is disabled"
  require (row.generation == generation && row.revision == revision)
    "center: catalog source changed during refresh"
  return row

/-- `UPDATE catalog_sources SET last_checked_at, last_error`. -/
def markChecked (sourceID generation : String) (revision : Int) (now : String) (message : Bytes)
    (sources : List SourceRow) : List SourceRow :=
  Table.update (fun row => row.current sourceID generation revision)
    (fun row => { row with lastCheckedAt := now, lastError := message }) sources

/-- The affected rows of `markChecked` have to be one. -/
def markHealthy (sourceID generation : String) (revision : Int) (now : String) (s : CatalogTables) :
    Except String CatalogTables := do
  require (s.sources.countP (fun row => row.current sourceID generation revision) == 1)
    "center: catalog source changed during refresh"
  return { s with sources := markChecked sourceID generation revision now [] s.sources }

def commitCatalogRefresh (sourceID generation : String) (revision : Int) (rawEnvelope : Bytes)
    (etag lastModified now : String) (s : CatalogTables) : Except String CatalogTables := do
  require (generation != "" && 0 < revision) "center: catalog refresh requires a source generation and revision"
  let row ← refreshedSource sourceID generation revision s
  let envelope ← env.parseEnvelope rawEnvelope
  let apps ← env.verify envelope row.publicKey
  let history ← recordCatalogManifestHistory env sourceID now apps s.history
  let cache := upsertCache ⟨sourceID, rawEnvelope, etag, lastModified, now⟩ s.cache
  markHealthy sourceID generation revision now { s with history := history, cache := cache }

def markCatalogNotModifiedForRevision (sourceID generation : String) (revision : Int)
    (etag lastModified now : String) (s : CatalogTables) : Except String CatalogTables := do
  require (generation != "" && 0 < revision)
    "center: catalog revalidation requires a source generation and revision"
  let _ ← refreshedSource sourceID generation revision s
  require (s.cache.countP (fun c => c.sourceID == sourceID) == 1)
    "center: catalog returned not modified without a verified cache"
  let cache := Table.update (fun c => c.sourceID == sourceID)
    (fun c => { c with etag := etag, lastModified := lastModified, fetchedAt := now }) s.cache
  markHealthy sourceID generation revision now { s with cache := cache }

/-- `refreshErr` is the text of the error, if there is one. -/
def recordCatalogErrorForRevision (sourceID generation : String) (revision : Int) (refreshErr : Option String)
    (now : String) (s : CatalogTables) : Except String CatalogTables := do
  require (generation != "" && 0 < revision)
    "center: catalog refresh error requires a source generation and revision"
  let message := utf8 (refreshErr.getD "catalog refresh failed")
  return { s with sources := markChecked sourceID generation revision now (message.take 512) s.sources }

/-! ## Transactions -/

/-- The calls that write, with what they draw at random and the time. -/
inductive CatalogOp where
  | createSource (input : SourceInput) (generation secretID now : String)
  | updateSource (id : String) (update : SourceUpdate) (secretID : String)
  | deleteSource (id : String)
  | commitRefresh (sourceID generation : String) (revision : Int) (rawEnvelope : Bytes)
      (etag lastModified now : String)
  | notModified (sourceID generation : String) (revision : Int) (etag lastModified now : String)
  | recordError (sourceID generation : String) (revision : Int) (refreshErr : Option String) (now : String)

def catalogStep : CatalogOp → CatalogTables → Except String CatalogTables
  | .createSource input generation secretID now => createSource env input generation secretID now
  | .updateSource id update secretID => updateSource env id update secretID
  | .deleteSource id => deleteSource id
  | .commitRefresh sourceID generation revision rawEnvelope etag lastModified now =>
      commitCatalogRefresh env sourceID generation revision rawEnvelope etag lastModified now
  | .notModified sourceID generation revision etag lastModified now =>
      markCatalogNotModifiedForRevision sourceID generation revision etag lastModified now
  | .recordError sourceID generation revision refreshErr now =>
      recordCatalogErrorForRevision sourceID generation revision refreshErr now

end Store

end Center
end Vastora
