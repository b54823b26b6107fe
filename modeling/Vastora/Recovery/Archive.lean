import Vastora.Library.Guard
import Vastora.Library.Pattern
import Vastora.Library.Runes
import Vastora.Library.SortSlice

/-!
# Archive — encrypted backups of components

`write` puts the files of a component and a manifest with their digests into a tar archive, encrypts it and
publishes it as one file; `read` takes such a file apart again and checks it against its manifest.  Strings are
bytes.  The parts of the standard library that both sides rely on are a `Standard`, with what makes a reader the
inverse of its writer: JSON keeps strings as far as they are valid UTF-8.
-/

namespace Vastora
namespace Recovery

open Library Library.Guard Library.Runes
open Library.PathEscape (utf8)

def text (s : String) : Bytes := utf8 s.toList

def formatVersion : Int := 1

def maxArtifactBytes : Nat := 512 * 2 ^ 20

def encryption : Bytes := text "scrypt-aes-256-gcm-v2"

/-- The member that holds the manifest. -/
def manifestName : Bytes := text "manifest.json"

/-! ## Manifests -/

structure Manifest where
  formatVersion : Int
  kind : Bytes
  componentID : Bytes
  release : Bytes
  componentVersion : Bytes
  schemaVersion : Int
  identityHash : Bytes
  /-- Nanoseconds from Go's zero time. -/
  createdAt : Int
  encryption : Bytes
  /-- The map of the digests, in the order of the names. -/
  files : List (Bytes × Bytes)
  /-- `none` is the nil slice. -/
  dependencies : Option (List Bytes)
deriving DecidableEq

structure Artifact where
  manifest : Manifest
  digest : Bytes
deriving DecidableEq

/-- A map entry that a decoder sets. -/
def putEntry (entries : List (Bytes × Bytes)) (entry : Bytes × Bytes) : List (Bytes × Bytes) :=
  if entries.any (·.1 == entry.1) then entries.map fun e => if e.1 == entry.1 then entry else e
  else entries ++ [entry]

/-- The manifest that is decoded from the JSON text of a manifest. -/
def Manifest.reread (m : Manifest) : Manifest :=
  { m with
    kind := replaceInvalid m.kind
    componentID := replaceInvalid m.componentID
    release := replaceInvalid m.release
    componentVersion := replaceInvalid m.componentVersion
    identityHash := replaceInvalid m.identityHash
    encryption := replaceInvalid m.encryption
    files := (m.files.map fun entry => (replaceInvalid entry.1, replaceInvalid entry.2)).foldl putEntry []
    dependencies := m.dependencies.map (·.map replaceInvalid) }

def isHexByte (b : UInt8) : Bool :=
  (48 ≤ b && b ≤ 57) || (97 ≤ b && b ≤ 102) || (65 ≤ b && b ≤ 70)

def minute : Int := 60000000000

/-- An odd number of digits cannot reach `hex.DecodeString`: the length is checked first. -/
def validateManifest (now : Int) (m : Manifest) : Except String Unit := do
  require (m.formatVersion == formatVersion && (m.kind == text "agent" || m.kind == text "headscale") &&
      m.componentID != [] && m.componentID.length ≤ 256 && m.release != [] && m.componentVersion != [] &&
      0 ≤ m.schemaVersion && m.createdAt != 0 && m.createdAt ≤ now + minute && m.encryption == encryption &&
      m.identityHash.length == 71 && (text "sha256:").isPrefixOf m.identityHash && m.files != [])
    "recovery: incomplete or unsupported manifest"
  require ((m.identityHash.drop 7).all isHexByte) "recovery: invalid identity fingerprint"

/-! ## The standard library -/

/-- Without separators `filepath.IsLocal` and `filepath.Base` refuse these names only. -/
def safeName (name : Bytes) : Bool :=
  name != [] && name != text "." && name != text ".." && name.all fun b => b != 47 && b != 92 && b != 58 && b != 0

/-- What a tar reader finds next. -/
inductive TarEntry where
  /-- `Next` fails. -/
  | failed
  /-- A header, and what is read after it, unless that fails. -/
  | member (regular : Bool) (name : Bytes) (size : Int) (data : Option Bytes)

/-- A regular file as it was written. -/
def TarEntry.ofFile (file : Bytes × Bytes) : TarEntry := .member true file.1 file.2.length (some file.2)

structure Standard where
  sha256 : Bytes → Bytes
  /-- `scrypt.Key` with the parameters of the format. -/
  deriveBackupKey : Bytes → Bytes → Except String Bytes
  /-- `Seal` and `Open` of AES-GCM, by key, nonce, text and additional data. -/
  gcmSeal : Bytes → Bytes → Bytes → Bytes → Bytes
  gcmOpen : Bytes → Bytes → Bytes → Bytes → Option Bytes
  open_seal : ∀ key nonce plain data, gcmOpen key nonce (gcmSeal key nonce plain data) data = some plain
  length_seal : ∀ key nonce plain data, (gcmSeal key nonce plain data).length = plain.length + 16
  /-- `json.Marshal`. -/
  marshal : Manifest → Except String Bytes
  /-- A manifest without unknown fields, and nothing after it. -/
  decodeManifest : Bytes → Option Manifest
  decode_marshal : ∀ m bytes, marshal m = .ok bytes → decodeManifest bytes = some m.reread
  /-- A tar archive of regular files. -/
  tarWrite : List (Bytes × Bytes) → Except String Bytes
  /-- The entries until the end of the archive. -/
  tarRead : Bytes → List TarEntry
  read_write : ∀ files bytes, (∀ file ∈ files, safeName file.1 = true) → tarWrite files = .ok bytes →
    tarRead bytes = files.map TarEntry.ofFile

section Backup

variable (std : Standard)

def hexDigits (b : UInt8) : List Char := [Nat.digitChar (b.toNat / 16), Nat.digitChar (b.toNat % 16)]

def digest (value : Bytes) : Bytes := utf8 ("sha256:".toList ++ (std.sha256 value).flatMap hexDigits)

/-! ## Encryption -/

def magic : Bytes := text "VASTORA1"

/-- Salt and nonce, as `rand.Reader` gives them. -/
structure Random where
  salt : Bytes
  nonce : Bytes
  salt_length : salt.length = 16
  nonce_length : nonce.length = 12

def encrypt (plain password : Bytes) (random : Random) : Except String Bytes := do
  let key ← std.deriveBackupKey password random.salt
  let header := magic ++ [2] ++ random.salt
  return header ++ random.nonce ++ std.gcmSeal key random.nonce plain header

def decrypt (raw password : Bytes) : Except String Bytes := do
  require (53 ≤ raw.length && raw.take 8 == magic && (raw.drop 8).head? == some 2)
    "backup: backup format is not supported"
  let key ← std.deriveBackupKey password ((raw.take 25).drop 9)
  require (37 + 16 ≤ raw.length) "backup: backup is truncated"
  fetch (std.gcmOpen key ((raw.take 37).drop 25) (raw.drop 37) (raw.take 25))
    "backup: backup password or integrity check failed"

/-! ## Writing -/

def validatePassword (password : Bytes) : Except String Unit :=
  require (12 ≤ (Pattern.trimSpace (String.ofList (runes password))).length)
    "recovery: backup password must be at least 12 characters"

/-- A map from names to contents, in the order that a loop visits it. -/
structure FileMap where
  entries : List (Bytes × Bytes)
  distinct : (entries.map Prod.fst).Nodup

/-- One round of the loop over the files, with the size so far. -/
def checkMember (total : Nat) (file : Bytes × Bytes) : Except String Nat := do
  require (safeName file.1 && file.1 != manifestName) "recovery: invalid artifact member"
  require (total + file.2.length ≤ maxArtifactBytes) "recovery: component backup exceeds the size limit"
  return total + file.2.length

/-- `sort.Strings` on the names. -/
def sortFiles (sorter : Sorter) (files : List (Bytes × Bytes)) : List (Bytes × Bytes) :=
  sorter.sort (fun a b => a.1.map UInt8.toNat < b.1.map UInt8.toNat) files

/-- The manifest that is written. -/
def completed (manifest : Manifest) (now : Int) (sorted : List (Bytes × Bytes)) : Manifest :=
  { manifest with
    formatVersion := formatVersion
    encryption := encryption
    createdAt := now
    files := sorted.map fun file => (file.1, digest std file.2) }

/-- `publish` is `PublishPrivateFile`; the clock shows `now` first and `later` when the manifest is checked. -/
def write (sorter : Sorter) (publish : Bytes → Except String Unit) (password : Bytes) (manifest : Manifest)
    (files : FileMap) (now later : Int) (random : Random) : Except String (Artifact × Bytes) := do
  validatePassword password
  let _ ← files.entries.foldlM checkMember 0
  let sorted := sortFiles sorter files.entries
  let manifest := completed std manifest now sorted
  validateManifest later manifest
  let metadata ← std.marshal manifest
  let archive ← std.tarWrite (sorted ++ [(manifestName, metadata)])
  let raw ← encrypt std archive password random
  publish raw
  return (⟨manifest, digest std raw⟩, raw)

/-! ## Reading -/

/-- `ReadRegularFile` of a file that nobody changes. -/
def readRegularFile (raw : Bytes) (limit : Nat) : Except String Bytes := do
  require (1 ≤ raw.length && raw.length ≤ limit) "recovery: artifact file type or size is invalid"
  return raw

/-- One round of the loop over the archive. -/
def readMember (files : List (Bytes × Bytes)) : TarEntry → Except String (List (Bytes × Bytes))
  | .failed => .error "recovery: invalid backup archive"
  | .member regular name size data => do
      require (regular && safeName name && 0 ≤ size && size ≤ maxArtifactBytes && files.length < 32)
        "recovery: invalid backup archive"
      require (!files.any (·.1 == name)) "recovery: duplicate backup member"
      let data ← fetch (data.filter fun data => data.length == size) "recovery: truncated backup member"
      return files ++ [(name, data)]

def read (password raw : Bytes) (now : Int) : Except String (Artifact × List (Bytes × Bytes)) := do
  validatePassword password
  let raw ← readRegularFile raw (maxArtifactBytes + 2 ^ 20)
  let plain ← decrypt std raw password
  let files ← (std.tarRead plain).foldlM readMember []
  let manifest ← fetch (std.decodeManifest ((files.lookup manifestName).getD [])) "recovery: invalid manifest"
  let files := files.filter fun file => file.1 != manifestName
  validateManifest now manifest
  require (files.length == manifest.files.length) "recovery: incomplete artifact"
  require (manifest.files.all fun entry =>
      safeName entry.1 && (files.lookup entry.1).any fun data => digest std data == entry.2)
    "recovery: artifact integrity check failed"
  return (⟨manifest, digest std raw⟩, files)

end Backup

end Recovery
end Vastora
