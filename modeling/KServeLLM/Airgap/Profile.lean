import KServeLLM.Framework.GoBytes

namespace KServeLLM.Airgap

open Bytes (ascii)

abbrev SovereigntyProfileLevel := Bytes

def profileConnected : SovereigntyProfileLevel := ascii "Connected"
def profileEnterprise : SovereigntyProfileLevel := ascii "Enterprise"
def profileRestricted : SovereigntyProfileLevel := ascii "Restricted"
def profileDisconnected : SovereigntyProfileLevel := ascii "Disconnected"
def profileAirGap : SovereigntyProfileLevel := ascii "AirGap"

-- The statuses of a vector. Each starts unset, as the empty string.

inductive SovereigntyState where
  | unset | compliant | degraded | nonCompliant
  deriving DecidableEq

inductive NetworkPosture where
  | unset | connected | enterpriseProxy | restricted | disconnected | airGapZeroEgress
  deriving DecidableEq

inductive DigestPinningStatus where
  | unset | pinned | unpinned | malformed
  deriving DecidableEq

inductive SignatureIntegrityStatus where
  | unset | verified | unverified | missing | untrusted
  deriving DecidableEq

inductive AttestationIntegrityStatus where
  | unset | verified | missing | invalid
  deriving DecidableEq

inductive BOMIntegrityStatus where
  | unset | complete | partialBOM | missing
  deriving DecidableEq

inductive IdentityIntegrityStatus where
  | unset | enforced | optional | missing
  deriving DecidableEq

inductive SecretStoreIntegrityStatus where
  | unset | localSeeded | enterprise | remoteKMS | insecure
  deriving DecidableEq

inductive Sentinel where
  | nilCapsule | capsuleExpired | invalidMetadata | unpinnedDigest | digestMismatch
  | incompatibleProfile | phoneHomeNotForbidden | unknownProfile
  deriving DecidableEq

def Sentinel.text : Sentinel → Bytes
  | .nilCapsule => ascii "air-gap capsule is nil"
  | .capsuleExpired => ascii "air-gap capsule has expired"
  | .invalidMetadata => ascii "invalid capsule metadata"
  | .unpinnedDigest => ascii "artifact digest is unpinned or malformed"
  | .digestMismatch => ascii "artifact payload does not match declared digest"
  | .incompatibleProfile => ascii "capsule target profile incompatible with host profile"
  | .phoneHomeNotForbidden => ascii "air gap requires strict zero phone-home policy"
  | .unknownProfile => ascii "unknown sovereignty profile"

structure Error where
  sentinel : Sentinel
  text : Bytes
  deriving DecidableEq

def Sentinel.error (sentinel : Sentinel) : Error := ⟨sentinel,sentinel.text⟩

def Sentinel.errorf (sentinel : Sentinel) (detail : Bytes) : Error :=
  ⟨sentinel,sentinel.text++ascii ": "++detail⟩

structure ProfileRequirements where
  level : SovereigntyProfileLevel := []
  (requireDigestPinning requireSignatures requireAttestation requireBOM : Bool := false)
  (requireSPIFFE requireLocalSecrets requireAirGapCapsule zeroPhoneHome : Bool := false)

structure SovereigntyVector where
  profile : SovereigntyProfileLevel := []
  network : NetworkPosture := .unset
  digestPinning : DigestPinningStatus := .unset
  signatureIntegrity : SignatureIntegrityStatus := .unset
  attestationIntegrity : AttestationIntegrityStatus := .unset
  bomIntegrity : BOMIntegrityStatus := .unset
  identityIntegrity : IdentityIntegrityStatus := .unset
  secretStoreIntegrity : SecretStoreIntegrityStatus := .unset
  state : SovereigntyState := .unset
  violations : List Bytes := []
  deriving DecidableEq

structure WorkloadTarget where
  (name imageURI modelURI spiffeIdentity secretStoreType egressTarget : Bytes := [])
  (hasSBOM hasAIBOM hasAttestation hasSignature : Bool := false)

def getProfileRequirements (level : SovereigntyProfileLevel) : Except Error ProfileRequirements :=
  if level=profileConnected then .ok {level := profileConnected}
  else if level=profileEnterprise then
    .ok {level := profileEnterprise, requireSignatures := true, requireSPIFFE := true}
  else if level=profileRestricted then
    .ok {
      level := profileRestricted
      requireDigestPinning := true
      requireSignatures := true
      requireAttestation := true
      requireBOM := true
      requireSPIFFE := true}
  else if level=profileDisconnected then
    .ok {
      level := profileDisconnected
      requireDigestPinning := true
      requireSignatures := true
      requireAttestation := true
      requireBOM := true
      requireSPIFFE := true
      requireLocalSecrets := true
      zeroPhoneHome := true}
  else if level=profileAirGap then
    .ok {
      level := profileAirGap
      requireDigestPinning := true
      requireSignatures := true
      requireAttestation := true
      requireBOM := true
      requireSPIFFE := true
      requireLocalSecrets := true
      requireAirGapCapsule := true
      zeroPhoneHome := true}
  else .error (Sentinel.unknownProfile.errorf level)

def newSovereigntyProfile (level : SovereigntyProfileLevel) : Except Error ProfileRequirements :=
  match getProfileRequirements level with
  | .error err => .error {err with text := ascii "create sovereignty profile: "++err.text}
  | .ok reqs => .ok reqs

def evalNetworkPosture (level : SovereigntyProfileLevel) : NetworkPosture :=
  if level=profileAirGap then .airGapZeroEgress
  else if level=profileDisconnected then .disconnected
  else if level=profileRestricted then .restricted
  else if level=profileEnterprise then .enterpriseProxy
  else .connected

def pinMark : Bytes := ascii "@sha256:"

def evalDigestPinning : List Bytes → DigestPinningStatus
  | [] => .pinned
  | u::uris =>
    if u=[] then evalDigestPinning uris
    else if (Bytes.cut pinMark u).isNone then .unpinned
    else
      match Bytes.split pinMark u with
      | [_,digest] => if digest.length≠64 then .malformed else evalDigestPinning uris
      | _ => .malformed

def evalSigStatus (hasSig : Bool) : SignatureIntegrityStatus :=
  if hasSig then .verified else .missing

def evalAttestStatus (hasAttest : Bool) : AttestationIntegrityStatus :=
  if hasAttest then .verified else .missing

def evalBOMStatus (hasSBOM hasAIBOM : Bool) : BOMIntegrityStatus :=
  if hasSBOM && hasAIBOM then .complete
  else if hasSBOM || hasAIBOM then .partialBOM
  else .missing

def evalIdentityStatus (id : Bytes) : IdentityIntegrityStatus :=
  if Bytes.hasPrefix id (ascii "spiffe://") then .enforced else .missing

def evalSecretStoreStatus (store : Bytes) : SecretStoreIntegrityStatus :=
  let kind := Bytes.toLower store
  if kind=ascii "local" ∨ kind=ascii "localseeded" ∨ kind=ascii "sealedsecret" then .localSeeded
  else if kind=ascii "vault" ∨ kind=ascii "enterprise" then .enterprise
  else if kind=ascii "remote" ∨ kind=ascii "kms" then .remoteKMS
  else .insecure

def workloadViolations (vec : SovereigntyVector) (req : ProfileRequirements)
    (target : WorkloadTarget) : List Bytes :=
  (if req.requireDigestPinning && vec.digestPinning≠.pinned then
    [ascii "digest pinning required for OCI images and models"] else [])++
  (if req.requireSignatures && vec.signatureIntegrity≠.verified then
    [ascii "cryptographic signature required"] else [])++
  (if req.requireAttestation && vec.attestationIntegrity≠.verified then
    [ascii "SLSA provenance attestation required"] else [])++
  (if req.requireBOM && vec.bomIntegrity≠.complete then
    [ascii "complete SBOM and AI-BOM required"] else [])++
  (if req.requireSPIFFE && vec.identityIntegrity≠.enforced then
    [ascii "SPIFFE workload identity required"] else [])++
  (if req.zeroPhoneHome && target.egressTarget≠[] then
    [ascii "external network egress prohibited in zero-phone-home profile"] else [])

def enforceWorkloadRequirements (vec : SovereigntyVector) (req : ProfileRequirements)
    (target : WorkloadTarget) : SovereigntyVector :=
  let violations := vec.violations++workloadViolations vec req target
  {vec with violations, state := if violations=[] then vec.state else .nonCompliant}

def requirementsOf (level : SovereigntyProfileLevel) : ProfileRequirements :=
  match getProfileRequirements level with
  | .ok req => req
  | .error _ => {}

def validateWorkload (level : SovereigntyProfileLevel) (target : WorkloadTarget) :
    SovereigntyVector :=
  enforceWorkloadRequirements
    {profile := level
     network := evalNetworkPosture level
     digestPinning := evalDigestPinning [target.imageURI,target.modelURI]
     signatureIntegrity := evalSigStatus target.hasSignature
     attestationIntegrity := evalAttestStatus target.hasAttestation
     bomIntegrity := evalBOMStatus target.hasSBOM target.hasAIBOM
     identityIntegrity := evalIdentityStatus target.spiffeIdentity
     secretStoreIntegrity := evalSecretStoreStatus target.secretStoreType
     state := .compliant} (requirementsOf level) target

end KServeLLM.Airgap
