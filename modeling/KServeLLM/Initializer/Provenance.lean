import KServeLLM.Framework.GoPath
import KServeLLM.Initializer.Digest

namespace KServeLLM.Initializer

open Storage (DownloadError)

structure RuntimeVerificationRecord where
  (subject scheme : String)
  (signatureVerified attestationVerified sbomVerified : Bool)
  (signatureDigest attestationURI sbomDigest contentDigest : String)
  contentIntegrityVerified : Bool
  (keyRef certificateIdentity certificateIssuer verifiedAt error : String)
  deriving DecidableEq

namespace RuntimeVerificationRecord

def zero : RuntimeVerificationRecord := ⟨"","",false,false,false,"","","","",false,"","","","",""⟩

def verified (r : RuntimeVerificationRecord) : Bool :=
  r.error=="" && r.signatureVerified && r.attestationVerified && r.sbomVerified &&
    r.signatureDigest != "" && r.attestationURI != "" && r.sbomDigest != ""

end RuntimeVerificationRecord

inductive Phase where
  | downloading | committing
  | other (text : String) (unknown : text≠"downloading" ∧ text≠"committing")
  deriving DecidableEq

structure StagingState where
  subject : String
  phase : Phase
  files : List String
  deriving DecidableEq

structure Codec where
  encodeState : StagingState → List UInt8
  decodeState : List UInt8 → Option StagingState
  encodeRecord : RuntimeVerificationRecord → List UInt8
  decodeRecord : List UInt8 → Option RuntimeVerificationRecord
  manifestDigests : List UInt8 → Option (List String)
  state_decodes : ∀s,decodeState (encodeState s)=some s
  record_decodes : ∀r,decodeRecord (encodeRecord r)=some r
  state_empty : decodeState []=none

structure VerifierConfig where
  (localKeyPath localKeyPEM certificateIdentity certificateIssuer : String)

structure Verification where
  config : VerifierConfig
  keyStat : Option String
  mkdirTemp : Except String String
  writeKey : Option String
  (verify verifyProvenance verifySBOM : Except DownloadError (List UInt8))
  now : String

def writeTempKey (v : Verification) : Except DownloadError VerifierConfig :=
  if v.config.localKeyPEM="" then .ok v.config
  else match v.mkdirTemp with
    | .error e => .error (.errorf "create temp cosign key dir: %w" [] (.external e))
    | .ok tempDir =>
        match v.writeKey with
        | some e => .error (.errorf "write temp cosign key: %w" [] (.external e))
        | none => .ok {v.config with
            localKeyPath := String.ofList (GoPath.joinPath [tempDir.toList,"cosign.pub".toList]) }

def materializeVerifierConfig (v : Verification) : Except DownloadError VerifierConfig :=
  if v.config.localKeyPath≠"" then
    match v.keyStat with
    | none => .ok v.config
    | some e =>
        if v.config.localKeyPEM="" then
          .error (.errorf "configured offline verification key %q is unavailable: %w"
            [.str v.config.localKeyPath] (.external e))
        else writeTempKey v
  else writeTempKey v

variable (hexSum : List UInt8 → String) (codec : Codec)

def sha256Hex (payload : List UInt8) : String := "sha256:"++hexSum payload

def extractSignatureDigest (output : List UInt8) : String :=
  match codec.manifestDigests output with
  | some (digest::_) => if digest≠"" then digest else sha256Hex hexSum output
  | _ => sha256Hex hexSum output

def verifyOCIProvenance (uri : String) (verifier : VerifierConfig) (v : Verification) :
    Except DownloadError RuntimeVerificationRecord :=
  if verifier.localKeyPath="" ∧
      (verifier.certificateIdentity="" ∨ verifier.certificateIssuer="") then
    .error (.plain ⟨"OCI cryptographic verification requires CKODEX_LOCAL_COSIGN_KEY_PATH, "++
      "CKODEX_LOCAL_COSIGN_PUBLIC_KEY, or CKODEX_COSIGN_CERT_IDENTITY plus "++
      "CKODEX_COSIGN_CERT_OIDC_ISSUER",[]⟩)
  else
    match v.verify with
    | .error e => .error (.errorf "verify OCI signature for %s: %w" [.str uri] e)
    | .ok signatureOutput =>
        match v.verifyProvenance with
        | .error e => .error (.errorf "verify SLSA provenance attestation for %s: %w" [.str uri] e)
        | .ok provenanceOutput =>
            match v.verifySBOM with
            | .error e => .error
                (.errorf "verify CycloneDX SBOM attestation for %s: %w" [.str uri] e)
            | .ok sbomOutput =>
                let signatureDigest := extractSignatureDigest hexSum codec signatureOutput
                .ok {RuntimeVerificationRecord.zero with
                  subject := uri
                  scheme := if uri.startsWith "ocis://" then "ocis" else "oci"
                  keyRef := verifier.localKeyPath
                  certificateIdentity := verifier.certificateIdentity
                  certificateIssuer := verifier.certificateIssuer
                  signatureVerified := true
                  signatureDigest :=
                    if signatureDigest="" then sha256Hex hexSum provenanceOutput
                    else signatureDigest
                  attestationVerified := true
                  attestationURI := uri++"#attestation:slsaprovenance1"
                  sbomVerified := true
                  sbomDigest := sha256Hex hexSum sbomOutput
                  verifiedAt := v.now }

def verificationRecord (uri scheme : String) (verifier : VerifierConfig) (v : Verification) :
    Except DownloadError RuntimeVerificationRecord :=
  if scheme="oci" ∨ scheme="ocis" then verifyOCIProvenance hexSum codec uri verifier v
  else .ok {RuntimeVerificationRecord.zero with
    subject := uri
    scheme := scheme
    keyRef := verifier.localKeyPath
    certificateIdentity := verifier.certificateIdentity
    certificateIssuer := verifier.certificateIssuer }

def assessProvenance (uri scheme : String) (staged : Tree) (v : Verification) :
    Except DownloadError RuntimeVerificationRecord := do
  let resolvedVerifier ← materializeVerifierConfig v
  let record ← verificationRecord hexSum codec uri scheme resolvedVerifier v
  match directoryDigest hexSum staged with
  | .error e => .error (.errorf "compute content integrity digest: %w" [] e)
  | .ok digest => .ok {record with contentDigest := digest, contentIntegrityVerified := true }

structure Vouches (uri : String) (staged : Tree) (record : RuntimeVerificationRecord) : Prop where
  subject : record.subject=uri
  digest : directoryDigest hexSum staged=.ok record.contentDigest

theorem sha256Hex_ne_empty {output : List UInt8} : sha256Hex hexSum output≠"" := by
  intro empty
  have size := congrArg String.length empty
  rw [sha256Hex,String.length_append] at size
  simp at size

variable {record : RuntimeVerificationRecord} {v : Verification}

theorem verifyOCIProvenance_ok {uri : String} {verifier : VerifierConfig}
    (h : verifyOCIProvenance hexSum codec uri verifier v=.ok record) :
    record.subject=uri ∧ record.verified=true := by
  unfold verifyOCIProvenance at h
  split at h
  · cases h
  · cases signature : v.verify <;> rw [signature] at h
    · cases h
    cases provenance : v.verifyProvenance <;> rw [provenance] at h
    · cases h
    cases sbom : v.verifySBOM <;> rw [sbom] at h
    · cases h
    · rw [← Except.ok.inj h]
      have signed digest output : (if digest="" then sha256Hex hexSum output else digest)≠"" := by
        split
        · exact sha256Hex_ne_empty hexSum
        · assumption
      refine ⟨rfl,?_⟩
      simp [RuntimeVerificationRecord.verified,RuntimeVerificationRecord.zero,signed,
        sha256Hex_ne_empty]

variable {uri scheme : String} {staged : Tree}

theorem assessProvenance_ok (h : assessProvenance hexSum codec uri scheme staged v=.ok record) :
    ∃verifier base digest,verificationRecord hexSum codec uri scheme verifier v=.ok base ∧
      directoryDigest hexSum staged=.ok digest ∧
      record={base with contentDigest := digest, contentIntegrityVerified := true } := by
  obtain ⟨verifier,-,next⟩ := ok_of_bind h
  obtain ⟨base,made,last⟩ := ok_of_bind next
  cases digest : directoryDigest hexSum staged with
  | error e =>
    rw [digest] at last
    cases last
  | ok d =>
    rw [digest] at last
    exact ⟨verifier,base,d,made,rfl,(Except.ok.inj last).symm⟩

theorem assessProvenance_vouches
    (h : assessProvenance hexSum codec uri scheme staged v=.ok record) :
    Vouches hexSum uri staged record := by
  obtain ⟨_,_,_,made,found,rfl⟩ := assessProvenance_ok hexSum codec h
  refine ⟨?_,found⟩
  unfold verificationRecord at made
  split at made
  · exact (verifyOCIProvenance_ok hexSum codec made).1
  · rw [← Except.ok.inj made]

theorem assessProvenance_verified (oci : scheme="oci" ∨ scheme="ocis")
    (h : assessProvenance hexSum codec uri scheme staged v=.ok record) :
    record.verified=true := by
  obtain ⟨_,_,_,made,-,rfl⟩ := assessProvenance_ok hexSum codec h
  rw [verificationRecord,if_pos oci] at made
  exact (verifyOCIProvenance_ok hexSum codec made).2

end KServeLLM.Initializer
