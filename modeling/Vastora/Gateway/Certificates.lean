import Vastora.Gateway.Order
import Vastora.Library.Text

/-!
# Certificates — the certificates that come with a desired state

A certificate belongs to one hostname, and its key must be the one it was issued for.  A state is served
only when every private route with TLS has a certificate that covers it; the public ones are left to Caddy.
-/

namespace Vastora
namespace Gateway

open Library Library.Guard Library.Pattern

/-- `pem.Block`, as far as it is read. -/
structure PemBlock where
  type : String
  bytes : List UInt8

/-- What `encoding/pem` and `crypto/x509` answer at the time of a check. -/
structure X509 where
  Parsed : Type
  PrivateKey : Type
  decode : String → Option PemBlock
  parseCertificate : List UInt8 → Option Parsed
  parsePKCS8PrivateKey : List UInt8 → Option PrivateKey
  /-- The key is a `crypto.Signer`. -/
  isSigner : PrivateKey → Bool
  dnsNames : Parsed → List String
  verifyHostname : Parsed → String → Bool
  /-- Not before `NotBefore`, and before `NotAfter`. -/
  isCurrent : Parsed → Bool
  /-- `x509.MarshalPKIXPublicKey` of the certificate's key and of the signer's public key. -/
  publicKey : Parsed → Option (List UInt8)
  signerPublicKey : PrivateKey → Option (List UInt8)

/-- `strings.EqualFold`, as far as one of the texts is ASCII. -/
def equalFold (a b : String) : Bool :=
  let fold := fun c : Char => if c = 'ſ' then 's' else if c = 'K' then 'k' else c.toLower
  a.toList.map fold == b.toList.map fold

def validCertificateName (name : String) : Bool :=
  let name := String.ofList ((trimSpace name).toList.map toLower)
  if hasPrefix name "*." then
    name.toList.count '*' == 1 && hostnamePattern (trimPrefix name "*.")
  else hostnamePattern name

section Certificates

variable (quote : String → String) (env : X509)

def certificateCoversName (certificate : env.Parsed) (name : String) : Bool :=
  if hasPrefix name "*." then (env.dnsNames certificate).any (equalFold · name)
  else env.verifyHostname certificate name

/-- A block of the type that is asked for. -/
def pemBlock (type text : String) : Option (List UInt8) :=
  ((env.decode text).filter (·.type == type)).map PemBlock.bytes

def validateCertificates (seen : List String) : List Certificate → Except String Unit
  | [] => .ok ()
  | value :: rest => do
      require (validCertificateName value.hostname && trimSpace value.certificatePEM != "" &&
        trimSpace value.privateKeyPEM != "") "gateway: invalid TLS certificate"
      require (!seen.contains value.hostname)
        ("gateway: duplicate TLS certificate for " ++ quote value.hostname)
      let invalid := "gateway: invalid TLS certificate for " ++ quote value.hostname
      let certificateBytes ← fetch (pemBlock env "CERTIFICATE" value.certificatePEM) invalid
      let keyBytes ← fetch (pemBlock env "PRIVATE KEY" value.privateKeyPEM) invalid
      let certificate ← fetch (env.parseCertificate certificateBytes) invalid
      let privateKey ← fetch (env.parsePKCS8PrivateKey keyBytes) invalid
      require (env.isSigner privateKey && certificateCoversName env certificate value.hostname &&
        env.isCurrent certificate) invalid
      let mismatch := "gateway: TLS certificate and private key do not match for " ++ quote value.hostname
      let certificatePublicKey ← fetch (env.publicKey certificate) mismatch
      let privatePublicKey ← fetch (env.signerPublicKey privateKey) mismatch
      require (certificatePublicKey == privatePublicKey) mismatch
      validateCertificates (value.hostname :: seen) rest

def certificateCoversHostname (value : Certificate) (hostname : String) : Bool :=
  ((pemBlock env "CERTIFICATE" value.certificatePEM).bind env.parseCertificate).any fun certificate =>
    env.verifyHostname certificate hostname

/-- Public routes use Caddy's automatic HTTPS, and the system listener reuses their certificates. -/
def Route.needsCertificate (r : Route) : Bool :=
  r.tlsEnabled && !(r.listenerKind == "public" || r.listenerKind == "system")

def validateCertificatesForState (state : DesiredState) (values : List Certificate) :
    Except String Unit := do
  validateCertificates quote env [] values
  state.routes.forM fun r =>
    require (!r.needsCertificate || values.any (certificateCoversHostname env · r.hostname))
      ("gateway: TLS route " ++ quote r.hostname ++ " has no matching certificate")

variable {quote env}

/-- Which certificates are accepted does not depend on the order of the routes. -/
theorem DesiredState.Reordered.validateCertificates {state state' : DesiredState}
    {values : List Certificate} (h : state.Reordered state')
    (hok : validateCertificatesForState quote env state values = .ok ()) :
    validateCertificatesForState quote env state' values = .ok () := by
  obtain ⟨u, hvalues, hroutes⟩ := bind_eq_ok_iff.1 hok
  refine bind_eq_ok_iff.2 ⟨u, hvalues, ?_⟩
  rw [forM_eq_ok_iff] at hroutes ⊢
  refine h.routes.forall_mem (fun a b hab ha => ?_) hroutes
  rw [hab.same]
  exact ha

end Certificates

end Gateway
end Vastora
