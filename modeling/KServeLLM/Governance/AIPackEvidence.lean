import KServeLLM.AIPack.Kinds

namespace KServeLLM.Governance

open AIPack (ArtifactKind missingPredicates requiredPredicates)
open Bytes (ascii hasPrefix)

structure PredicateEntry where
  predicateURI : Bytes
  (digest rekorLogID : Bytes := [])
  deriving DecidableEq

structure AIPackAttestation where
  predicates : List PredicateEntry
  cosignKeyRef : Bytes := []

structure Message where
  format : String
  texts : List (List Bytes)
  count : Option Nat := none
  deriving DecidableEq

structure AIPackVerificationResult where
  verified : Bool
  failedPredicates : List Bytes
  message : Message
  deriving DecidableEq

structure Statement where
  (predicateType predicate : Bytes)
  deriving DecidableEq

structure Surroundings where
  getenv : String → Bytes
  cosign : Bytes → List Bytes → Except Message Bytes
  decode : Bytes → Option Statement
  hexSum : Bytes → Bytes

def spaces : List Bytes := [[9],[10],[11],[12],[13],[32],[194,133],[194,160],[225,154,128]]++
    (List.range 11).map (fun i => [226,128,128+UInt8.ofNat i])++
    [[226,128,168],[226,128,169],[226,128,175],[226,129,159],[227,128,128]]

def trimFront (marks : List Bytes) : Nat → Bytes → Bytes
  | 0,s => s
  | n+1,s =>
    match marks.find? fun mark => mark.isPrefixOf s with
    | some mark => trimFront marks n (s.drop mark.length)
    | none => s

def trimSpace (s : Bytes) : Bytes :=
  let s := trimFront spaces s.length s
  (trimFront (spaces.map List.reverse) s.length s.reverse).reverse

def maxTokenSize : Nat := 16*1024*1024

def dropCR (line : Bytes) : Bytes := if line.getLast?=some 13 then line.dropLast else line

def lines (output : Bytes) : List Bytes :=
  let parts := Bytes.split [10] output
  if parts.getLast?=some [] then parts.dropLast else parts

def scanned (output : Bytes) : List Bytes :=
  ((lines output).takeWhile fun line => line.length < maxTokenSize).map dropCR

def tooLong (output : Bytes) : Bool := (lines output).any fun line => maxTokenSize ≤ line.length

section

variable (env : Surroundings)

def cosignBinaryPath : Bytes :=
  let path := env.getenv "CKODEX_COSIGN_BINARY_PATH"
  if path≠[] then path else ascii "/cosign"

def runCosignCommand (args : List Bytes) : Except Message Bytes :=
  if args=[] then .error ⟨"cosign command requires arguments",[],none⟩
  else if !hasPrefix (cosignBinaryPath env) (ascii "/") then
    .error ⟨"cosign binary path must be absolute: %q",[[cosignBinaryPath env]],none⟩
  else env.cosign (cosignBinaryPath env) args

structure CosignVerifyConfig where
  (keyPath identity issuer rekorURL : Bytes := [])

def resolveCosignConfig (attestation : AIPackAttestation) : Except Message CosignVerifyConfig :=
  let rekorURL := trimSpace (env.getenv "CKODEX_COSIGN_REKOR_URL")
  let trustedKeyRef := trimSpace (env.getenv "CKODEX_COSIGN_TRUSTED_KEY_REF")
  let trustedKeyPath := trimSpace (env.getenv "CKODEX_COSIGN_TRUSTED_KEY_PATH")
  let keyRef := trimSpace attestation.cosignKeyRef
  if keyRef≠[] ∧ (trustedKeyRef=[] ∨ keyRef≠trustedKeyRef) then
    .error ⟨"AIPack cosignKeyRef is not in the operator trusted-key configuration",[],none⟩
  else if keyRef≠[] ∧ trustedKeyPath=[] then
    .error ⟨"operator trusted-key path is not configured",[],none⟩
  else if trustedKeyPath≠[] then .ok {keyPath := trustedKeyPath, rekorURL}
  else
    let identity := trimSpace (env.getenv "CKODEX_COSIGN_CERT_IDENTITY")
    let issuer := trimSpace (env.getenv "CKODEX_COSIGN_CERT_OIDC_ISSUER")
    if identity=[] ∨ issuer=[] then
      .error ⟨"missing cosign verifier config: set the operator trusted key path or both "++
        "CKODEX_COSIGN_CERT_IDENTITY and CKODEX_COSIGN_CERT_OIDC_ISSUER",[],none⟩
    else .ok {identity, issuer, rekorURL}

def CosignVerifyConfig.cosignAuthArgs (cfg : CosignVerifyConfig) : List Bytes :=
  (if cfg.keyPath≠[] then [ascii "--key",cfg.keyPath]
    else (if cfg.identity≠[] then [ascii "--certificate-identity",cfg.identity] else [])++
      (if cfg.issuer≠[] then [ascii "--certificate-oidc-issuer",cfg.issuer] else []))++
  (if cfg.rekorURL≠[] then [ascii "--rekor-url",cfg.rekorURL] else [])

def verifyArtifactSignature (ref : Bytes) (cfg : CosignVerifyConfig) : Except Message Bytes :=
  runCosignCommand env (ascii "verify"::cfg.cosignAuthArgs++[ref])

def requiredPredicateEntry (attestation : AIPackAttestation) (predicateURI : Bytes) :
    Except Message PredicateEntry :=
  match attestation.predicates.filter fun entry => entry.predicateURI=predicateURI with
  | [] => .error ⟨"required predicate %q is absent",[[predicateURI]],none⟩
  | [entry] => .ok entry
  | _ => .error ⟨"duplicate entry for required predicate %q",[[predicateURI]],none⟩

def shaped (digest : Bytes) : Bool := hasPrefix digest (ascii "sha256:") && digest.length==71

def matching (entry : PredicateEntry) (line : Bytes) : Option Statement :=
  let line := trimSpace line
  if line.head?≠some 123 then none
  else
    match env.decode line with
    | none => none
    | some st =>
      if st.predicateType≠entry.predicateURI ∨ st.predicate=[] ∨ st.predicate=ascii "null" then
        none
      else some st

def scanPayload (entry : PredicateEntry) (overrun : Bool) : Bool → List Bytes → Except Message Unit
  | matched,[] =>
    if overrun then .error ⟨"read verified predicate output: bufio.Scanner: token too long",[],none⟩
    else if !matched then
      .error ⟨"cosign returned no verified in-toto statement for predicate %q",
        [[entry.predicateURI]],none⟩
    else .error ⟨"verified predicate %q does not match the declared digest",
      [[entry.predicateURI]],none⟩
  | matched,line::rest =>
    match matching env entry line with
    | none => scanPayload entry overrun matched rest
    | some st =>
      if entry.digest=[] then .ok ()
      else if !shaped entry.digest then
        .error ⟨"predicate %q has an invalid SHA-256 digest",[[entry.predicateURI]],none⟩
      else if entry.digest=ascii "sha256:"++env.hexSum st.predicate then .ok ()
      else scanPayload entry overrun true rest

def verifyPredicatePayload (output : Bytes) (entry : PredicateEntry) : Except Message Unit :=
  scanPayload env entry (tooLong output) false (scanned output)

def attestationArgs (ref : Bytes) (cfg : CosignVerifyConfig) (entry : PredicateEntry) :
    List Bytes :=
  ascii "verify-attestation"::cfg.cosignAuthArgs++
    [ascii "--type",entry.predicateURI,ascii "--output",ascii "text",ref]

def verifyArtifactAttestation (ref : Bytes) (cfg : CosignVerifyConfig) (entry : PredicateEntry) :
    Except Message Unit := do
  let output ← runCosignCommand env (attestationArgs ref cfg entry)
  verifyPredicatePayload env output entry

def trimArtifactRef (ref : Bytes) : Except Message Bytes :=
  if hasPrefix ref (ascii "oci://") then .ok (ref.drop 6)
  else if hasPrefix ref (ascii "ocis://") then .ok (ref.drop 7)
  else
    match Bytes.cut (ascii "://") ref with
    | some (scheme,_) => .error ⟨"unsupported artifact scheme %q",[[scheme]],none⟩
    | none => .ok ref

def boundEntry (attestation : AIPackAttestation) (predicateURI : Bytes) : Option PredicateEntry :=
  match requiredPredicateEntry attestation predicateURI with
  | .error _ => none
  | .ok entry =>
    if entry.rekorLogID≠[] then none
    else if entry.digest≠[] ∧ !shaped entry.digest then none
    else some entry

def failure (failed : List Bytes) (message : Message) : AIPackVerificationResult :=
  ⟨false,failed,message⟩

def emptyPredicateEntries (attestation : AIPackAttestation) : List Bytes :=
  (List.range (attestation.predicates.countP fun e => e.predicateURI=[])).map fun i =>
    ascii ("entry["++toString i++"]")

def failedPredicates (ref : Bytes) (cfg : CosignVerifyConfig) (attestation : AIPackAttestation)
    (required : List Bytes) : List Bytes :=
  required.filter fun predicate =>
    match boundEntry attestation predicate with
    | none => true -- not reached: every required predicate has its entry by now
    | some entry => !(verifyArtifactAttestation env ref cfg entry).isOk

def failedChecks (kind : ArtifactKind) (attestation : AIPackAttestation) (trimmedRef : Bytes)
    (cfg : CosignVerifyConfig) : List Bytes :=
  (if (verifyArtifactSignature env trimmedRef cfg).isOk then [] else [ascii "cosign-signature"])++
    failedPredicates env trimmedRef cfg attestation (requiredPredicates kind)

def verifyWithCosign (kind : ArtifactKind) (ref : Bytes) (attestation : AIPackAttestation)
    (trimmedRef : Bytes) : AIPackVerificationResult :=
  match resolveCosignConfig env attestation with
  | .error err =>
    failure [ascii "cosign-signature"]
      ⟨"artifact %q verification config is invalid: %v",[[ref],[ascii err.format]],none⟩
  | .ok cfg =>
    let failed := failedChecks env kind attestation trimmedRef cfg
    if failed≠[] then
      failure failed ⟨"artifact %q failed predicate verification: %v",[[ref],failed],none⟩
    else ⟨true,[],⟨"artifact %q verified for kind %q via cosign",[[ref],[kind]],none⟩⟩

def verifyAIPackAttestation (kind : ArtifactKind) (ref : Bytes)
    (attestation : Option AIPackAttestation) : Except Message AIPackVerificationResult :=
  if ref=[] then
    .ok (failure [ascii "artifact-reference"]
      ⟨"artifact reference is required for attestation verification",[],none⟩)
  else if requiredPredicates kind=[] then
    .ok (failure [ascii "artifact-kind"]
      ⟨"artifact %q has unsupported kind %q",[[ref],[kind]],none⟩)
  else
    match attestation with
    | none =>
      .ok (failure (requiredPredicates kind)
        ⟨"artifact %q (kind %s) has no attestation block but requires %d predicate(s)",
          [[ref],[kind]],some (requiredPredicates kind).length⟩)
    | some attestation =>
      let empty := emptyPredicateEntries attestation
      let missing := missingPredicates kind (attestation.predicates.map (·.predicateURI))
      let invalid := (requiredPredicates kind).filter fun predicate =>
        (boundEntry attestation predicate).isNone
      if empty≠[] then
        .ok (failure empty ⟨"artifact %q has %d predicate entries with empty PredicateURI",
          [[ref]],some empty.length⟩)
      else if missing≠[] then
        .ok (failure missing
          ⟨"artifact %q is missing required predicates: %v",[[ref],missing],none⟩)
      else if invalid≠[] then
        .ok (failure invalid
          ⟨"artifact %q has unbound or invalid predicate metadata: %v",[[ref],invalid],none⟩)
      else
        match trimArtifactRef ref with
        | .error err => .error err
        | .ok trimmedRef => .ok (verifyWithCosign env kind ref attestation trimmedRef)

section

structure Sound (signed : Bytes → Prop) (attested : Bytes → Statement → Prop) : Prop where
  verify : ∀ {path args ref output},
    env.cosign path (ascii "verify"::args++[ref])=.ok output → signed ref
  attestation : ∀ {path args ref output line st},
    env.cosign path (ascii "verify-attestation"::args++[ref])=.ok output → line∈scanned output →
      env.decode (trimSpace line)=some st → attested ref st

structure Vouched (attested : Bytes → Statement → Prop) (ref : Bytes) (cfg : CosignVerifyConfig)
    (attestation : AIPackAttestation) (predicate : Bytes) (entry : PredicateEntry)
    (output : Bytes) (st : Statement) : Prop where
  single : attestation.predicates.filter (fun e => e.predicateURI=predicate)=[entry]
  unlogged : entry.rekorLogID=[]
  printed : runCosignCommand env (attestationArgs ref cfg entry)=.ok output
  stated : ∃line∈scanned output,env.decode (trimSpace line)=some st
  attested : attested ref st
  type : st.predicateType=predicate
  full : st.predicate≠[] ∧ st.predicate≠ascii "null"
  digest : entry.digest≠[] → entry.digest=ascii "sha256:"++env.hexSum st.predicate

theorem runCosignCommand_ok {args : List Bytes} {output : Bytes}
    (h : runCosignCommand env args=.ok output) :
    env.cosign (cosignBinaryPath env) args=.ok output := by
  unfold runCosignCommand at h
  split at h
  · cases h
  · split at h
    · cases h
    · exact h

variable {entry : PredicateEntry}

theorem matching_some {line : Bytes} {st : Statement} (h : matching env entry line=some st) :
    env.decode (trimSpace line)=some st ∧ st.predicateType=entry.predicateURI ∧
      st.predicate≠[] ∧ st.predicate≠ascii "null" := by
  unfold matching at h
  dsimp only at h
  split at h
  · cases h
  · split at h
    · cases h
    · rename_i found
      split at h
      · cases h
      · rename_i fits
        cases h
        simp only [not_or,not_not] at fits
        exact ⟨found,fits⟩

theorem scanPayload_ok {overrun matched : Bool} {rest : List Bytes}
    (h : scanPayload env entry overrun matched rest=.ok ()) :
    ∃line∈rest,∃st,matching env entry line=some st ∧
      (entry.digest≠[] → entry.digest=ascii "sha256:"++env.hexSum st.predicate) := by
  induction rest generalizing matched with
  | nil =>
    unfold scanPayload at h
    split_ifs at h
  | cons line rest ih =>
    unfold scanPayload at h
    cases found : matching env entry line with
    | none =>
      rw [found] at h
      obtain ⟨later,mem,tail⟩ := ih h
      exact ⟨later,List.mem_cons_of_mem _ mem,tail⟩
    | some st =>
      rw [found] at h
      dsimp only at h
      split_ifs at h with bare unshaped same
      · exact ⟨line,List.mem_cons_self,st,found,fun declared => absurd bare declared⟩
      · exact ⟨line,List.mem_cons_self,st,found,fun _ => same⟩
      · obtain ⟨later,mem,tail⟩ := ih h
        exact ⟨later,List.mem_cons_of_mem _ mem,tail⟩

variable {attestation : AIPackAttestation} {predicate : Bytes}

theorem boundEntry_some (h : boundEntry attestation predicate=some entry) :
    attestation.predicates.filter (fun e => e.predicateURI=predicate)=[entry] ∧
      entry.rekorLogID=[] := by
  unfold boundEntry requiredPredicateEntry at h
  split at h
  · cases h
  · rename_i found
    split at found
    · cases found
    · rename_i only
      cases found
      split_ifs at h with logged unshaped
      cases h
      exact ⟨only,not_not.mp logged⟩
    · cases found

theorem entry_type
    (single : attestation.predicates.filter (fun e => e.predicateURI=predicate)=[entry]) :
    entry.predicateURI=predicate := by
  have mem : entry∈attestation.predicates.filter fun e => e.predicateURI=predicate := by
    rw [single]
    exact List.mem_singleton_self entry
  simpa using (List.mem_filter.mp mem).2

variable {ref : Bytes} {cfg : CosignVerifyConfig}

theorem verifyArtifactAttestation_ok (h : (verifyArtifactAttestation env ref cfg entry).isOk=true) :
    ∃output,runCosignCommand env (attestationArgs ref cfg entry)=.ok output ∧
      verifyPredicatePayload env output entry=.ok () := by
  unfold verifyArtifactAttestation at h
  cases printed : runCosignCommand env (attestationArgs ref cfg entry) with
  | error err =>
    rw [printed] at h
    cases h
  | ok output =>
    rw [printed] at h
    change (verifyPredicatePayload env output entry).isOk=true at h
    cases scan : verifyPredicatePayload env output entry with
    | error err =>
      rw [scan] at h
      cases h
    | ok _ => exact ⟨output,rfl,scan⟩

theorem vouched_of_not_failed {signed : Bytes → Prop} {attested : Bytes → Statement → Prop}
    (sound : Sound env signed attested)
    {required : List Bytes}
    (none_failed : failedPredicates env ref cfg attestation required=[])
    (mem : predicate∈required) :
    ∃entry output st,Vouched env attested ref cfg attestation predicate entry output st := by
  have passed := List.filter_eq_nil_iff.mp none_failed predicate mem
  cases bound : boundEntry attestation predicate with
  | none => simp [bound] at passed
  | some entry =>
    obtain ⟨single,unlogged⟩ := boundEntry_some bound
    obtain ⟨output,printed,scan⟩ := verifyArtifactAttestation_ok env (by simpa [bound] using passed)
    obtain ⟨line,listed,st,found,digest⟩ := scanPayload_ok env scan
    obtain ⟨decoded,type,full⟩ := matching_some env found
    have command : attestationArgs ref cfg entry=ascii "verify-attestation"::
        (cfg.cosignAuthArgs++[ascii "--type",entry.predicateURI,ascii "--output",
          ascii "text"])++[ref] := by
      simp [attestationArgs]
    have ran := runCosignCommand_ok env printed
    rw [command] at ran
    have known : attested ref st := sound.attestation ran listed decoded
    exact ⟨entry,output,st,single,unlogged,printed,⟨line,listed,decoded⟩,known,
      type.trans (entry_type single),full,digest⟩

theorem verifyWithCosign_verified {kind : ArtifactKind} {trimmedRef : Bytes}
    (h : (verifyWithCosign env kind ref attestation trimmedRef).verified=true) :
    ∃cfg,(verifyArtifactSignature env trimmedRef cfg).isOk=true ∧
      failedPredicates env trimmedRef cfg attestation (requiredPredicates kind)=[] := by
  unfold verifyWithCosign at h
  cases config : resolveCosignConfig env attestation with
  | error err =>
    rw [config] at h
    cases h
  | ok cfg =>
    rw [config] at h
    dsimp only at h
    split at h
    · cases h
    · rename_i clean
      obtain ⟨signature,none_failed⟩ := List.append_eq_nil_iff.mp (not_not.mp clean)
      refine ⟨cfg,?_,none_failed⟩
      by_contra bad
      rw [if_neg bad] at signature
      cases signature

end

end

def sampleRef : Bytes := ascii "registry/app"

def sampleSurroundings : Surroundings where
  getenv name := if name="CKODEX_COSIGN_TRUSTED_KEY_PATH" then ascii "/key.pub" else []
  cosign _ args :=
    if args.getLast?=some sampleRef then .ok (ascii "\x7b"++(args.drop 4).headD []++[10])
    else .error ⟨"no matching signatures",[],none⟩
  decode line := some ⟨line.drop 1,ascii "1"⟩
  hexSum _ := List.replicate 64 48

def sampleAttestation : AIPackAttestation where
  predicates := [⟨AIPack.predSLSAProvenance,ascii "sha256:"++List.replicate 64 48,[]⟩,
    ⟨AIPack.predCycloneDXBOM,[],[]⟩]

theorem sample_sound : Sound sampleSurroundings (fun ref => ref=sampleRef)
    fun ref _ => ref=sampleRef := by
  have known {path : Bytes} {first ref output : Bytes} {args : List Bytes}
      (h : sampleSurroundings.cosign path (first::args++[ref])=.ok output) : ref=sampleRef := by
    have last : (first::args++[ref]).getLast?=some ref := List.getLast?_concat
    simp only [sampleSurroundings,last,Option.some.injEq] at h
    split at h
    · assumption
    · cases h
  exact ⟨known,fun ran _ _ => known ran⟩

end KServeLLM.Governance
