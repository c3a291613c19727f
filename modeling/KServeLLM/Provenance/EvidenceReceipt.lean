import KServeLLM.Kernel.Composition

namespace KServeLLM.Provenance

open KServeLLM.Composition (hexDecodes)

inductive Sentinel where
  | receiptShape | receiptDigest | receiptProducer | receiptSignature | marshal
  deriving DecidableEq

abbrev Error := GoError Sentinel

structure ProducerBinding where
  (spiffeID keyDigest : GoString)
  deriving DecidableEq

structure EvidenceReceipt where
  (schema id subjectDigest : GoString)
  producer : ProducerBinding
  sequence : UInt64
  (previousDigest producedAt digest signature : GoString)
  deriving DecidableEq

structure ReceiptClaims where
  (schema id subjectDigest : GoString)
  producer : ProducerBinding
  sequence : UInt64
  (previousDigest producedAt : GoString)
  deriving DecidableEq

structure ReceiptVerifier where
  trusted : GoMap GoString (List UInt8)

structure Library where
  (spiffeID utcTime : GoString → Bool)
  marshal : ReceiptClaims → Option (List UInt8)
  hexSum : List UInt8 → GoString
  decodeBase64 : GoString → Option (List UInt8)
  ed25519Verify : List UInt8 → GoString → List UInt8 → Bool

def evidenceReceiptSchemaV1 : GoString := "ckodex.evidence.receipt/v1".toList

def validSHA256 (value : GoString) : Bool :=
  if !GoString.hasPrefix value "sha256:".toList || value.length≠71 then false
  else
    let raw := GoString.trimPrefix value "sha256:".toList
    hexDecodes raw && raw.length=64 && value.map Char.toLower=value

variable (lib : Library)

def refuse (sentinel : Sentinel) (format : String) (args : List ErrArg) : Option Error :=
  some (.errorf format (.sentinel sentinel) args)

def validateReceiptShape (receipt : EvidenceReceipt) : Option Error :=
  if receipt.schema≠evidenceReceiptSchemaV1 ∨ receipt.id=[] ∨ receipt.sequence=0 then
    refuse .receiptShape "%w: schema, id, and positive sequence are required" []
  else if !lib.spiffeID receipt.producer.spiffeID then
    refuse .receiptProducer "%w: invalid SPIFFE ID" []
  else if !validSHA256 receipt.subjectDigest || !validSHA256 receipt.producer.keyDigest ||
      !validSHA256 receipt.digest then
    refuse .receiptDigest "%w: sha256 references must use 64 lowercase hex characters" []
  else if receipt.sequence=1 ∧ receipt.previousDigest≠[] then
    refuse .receiptShape "%w: first receipt cannot reference a predecessor" []
  else if 1 < receipt.sequence ∧ !validSHA256 receipt.previousDigest then
    refuse .receiptDigest "%w: chained receipt requires a predecessor digest" []
  else if !lib.utcTime receipt.producedAt then
    refuse .receiptShape "%w: producedAt must be an RFC3339 UTC timestamp" []
  else if receipt.signature=[] then
    refuse .receiptSignature "%w: signature is required" []
  else none

def digestBytes (value : List UInt8) : GoString := "sha256:".toList++lib.hexSum value

def EvidenceReceipt.claims (receipt : EvidenceReceipt) : ReceiptClaims :=
  ⟨receipt.schema,receipt.id,receipt.subjectDigest,receipt.producer,receipt.sequence,
    receipt.previousDigest,receipt.producedAt⟩

def receiptClaimsDigest (receipt : EvidenceReceipt) : Except Error GoString :=
  match lib.marshal receipt.claims with
  | none => .error (.errorf "marshal receipt claims: %w" (.sentinel .marshal) [])
  | some encoded => .ok (digestBytes lib encoded)

def ReceiptVerifier.verify (v : Option ReceiptVerifier) (receipt : EvidenceReceipt) :
    Option Error :=
  match validateReceiptShape lib receipt with
  | some err => some err
  | none =>
    match v with
    | none => refuse .receiptProducer "%w: verifier is nil" []
    | some v =>
      match v.trusted.lookup receipt.producer.spiffeID with
      | none =>
        refuse .receiptProducer "%w: producer %q is not trusted"
          [.str (String.ofList receipt.producer.spiffeID)]
      | some publicKey =>
        if receipt.producer.keyDigest≠digestBytes lib publicKey then
          refuse .receiptProducer "%w: key digest does not match configured producer key" []
        else
          match receiptClaimsDigest lib receipt with
          | .error err => some err
          | .ok expectedDigest =>
            if receipt.digest≠expectedDigest then
              refuse .receiptDigest "%w: claims digest mismatch" []
            else
              match lib.decodeBase64 receipt.signature with
              | none => refuse .receiptSignature "%w: malformed Ed25519 signature" []
              | some signature =>
                if signature.length≠64 then
                  refuse .receiptSignature "%w: malformed Ed25519 signature" []
                else if !lib.ed25519Verify publicKey receipt.digest signature then
                  some (.sentinel .receiptSignature)
                else none

theorem named_of_verified {v : Option ReceiptVerifier} {receipt : EvidenceReceipt}
    (h : ReceiptVerifier.verify lib v receipt=none) : receipt.id≠[] ∧ receipt.sequence≠0 := by
  have shape : validateReceiptShape lib receipt=none := by
    unfold ReceiptVerifier.verify at h
    cases bad : validateReceiptShape lib _ with
    | none => rfl
    | some err => simp [bad] at h
  unfold validateReceiptShape at shape
  by_cases missing : receipt.schema≠evidenceReceiptSchemaV1 ∨ receipt.id=[] ∨ receipt.sequence=0
  · rw [if_pos missing] at shape
    cases shape
  · rw [not_or,not_or] at missing
    exact missing.2

end KServeLLM.Provenance
