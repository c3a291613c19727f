import KServeLLM.Framework.GoStrings
import KServeLLM.Framework.GoTypes

namespace KServeLLM.Storage

open GoString

def ociScheme : GoString := "oci://".toList
def ocisScheme : GoString := "ocis://".toList
def hfScheme : GoString := "hf://".toList

def hasOCIScheme (uri : GoString) : Bool := hasPrefix uri ociScheme || hasPrefix uri ocisScheme

def trimOCIScheme (uri : GoString) : GoString :=
  if hasPrefix uri ocisScheme then trimPrefix uri ocisScheme else trimPrefix uri ociScheme

structure ModelArtifact where
  (rawURI registry repository reference digest : GoString)
  deriving DecidableEq

def parseReference (uri registry repoRef : GoString) : ModelArtifact :=
  match cut '@' repoRef with
  | some (repository,digest) => ⟨uri,registry,repository,digest,digest⟩
  | none =>
    match cutLast ':' repoRef with
    | some (repository,tag) => ⟨uri,registry,repository,tag,[]⟩
    | none => ⟨uri,registry,repoRef,"latest".toList,[]⟩

def parseOCIURI (uri : GoString) : Outcome ModelArtifact :=
  if hasOCIScheme uri then
    match cut '/' (trimOCIScheme uri) with
    | none =>
        .err ⟨"invalid OCI URI, expected oci://registry/repo:tag or ocis://registry/repo:tag: %s",
          [.str (String.ofList uri)]⟩
    | some (registry,repoRef) => .ok (parseReference uri registry repoRef)
  else .err ⟨"not an OCI URI: %s",[.str (String.ofList uri)]⟩

def resolveAirGappedURI (uri localRegistry : GoString) : GoString :=
  if localRegistry=[] then uri
  else if hasPrefix uri hfScheme then
    ociScheme++localRegistry++"/hf/".toList++trimPrefix uri hfScheme
  else if hasOCIScheme uri then
    let ref := trimOCIScheme uri
    let scheme := if hasPrefix uri ocisScheme then ocisScheme else ociScheme
    if hasPrefix ref localRegistry then uri else scheme++localRegistry++"/".toList++ref
  else uri

structure LocalRegistry where
  host : GoString
  nonempty : host≠[]
  noSlash : '/'∉host

inductive Scheme where
  | hf | oci | ocis
  deriving DecidableEq

def Scheme.text : Scheme → GoString
  | .hf => hfScheme
  | .oci => ociScheme
  | .ocis => ocisScheme

structure ModelUri where
  scheme : Scheme
  path : GoString
  nonempty : path≠[]

def ModelUri.text (u : ModelUri) : GoString := u.scheme.text++u.path

structure AirGapped (registry : LocalRegistry) (u : ModelUri) : Prop where
  local_only : ∃artifact,parseOCIURI (resolveAirGappedURI u.text registry.host)=.ok artifact ∧
      artifact.registry=registry.host
  stable : resolveAirGappedURI (resolveAirGappedURI u.text registry.host) registry.host=
    resolveAirGappedURI u.text registry.host

def HostSeparated (registry : LocalRegistry) (u : ModelUri) : Prop :=
  u.scheme≠.hf → registry.host <+: u.path → registry.host++['/'] <+: u.path

section

variable {scheme : Scheme} (ref : GoString)

theorem hasPrefix_ocis : hasPrefix (Scheme.oci.text++ref) ocisScheme=false := rfl

theorem hasPrefix_hf (external : scheme≠.hf) : hasPrefix (scheme.text++ref) hfScheme=false := by
  cases scheme with
  | hf => exact absurd rfl external
  | oci => rfl
  | ocis => rfl

theorem hasOCIScheme_text (external : scheme≠.hf) : hasOCIScheme (scheme.text++ref)=true := by
  cases scheme with
  | hf => exact absurd rfl external
  | oci => simp [hasOCIScheme,Scheme.text,hasPrefix_append]
  | ocis => simp [hasOCIScheme,Scheme.text,hasPrefix_append]

theorem trimOCIScheme_text (external : scheme≠.hf) : trimOCIScheme (scheme.text++ref)=ref := by
  cases scheme with
  | hf => exact absurd rfl external
  | oci =>
    rw [trimOCIScheme,hasPrefix_ocis]
    exact trimPrefix_append ociScheme ref
  | ocis =>
    exact trimPrefix_append _ ref

end

theorem parseReference_registry {uri registry repoRef : GoString} :
    (parseReference uri registry repoRef).registry=registry := by
  unfold parseReference
  split
  · rfl
  · split <;> rfl

theorem parse_registry_iff {scheme : Scheme} (external : scheme≠.hf) {registry : LocalRegistry}
    {ref : GoString} :
    (∃artifact,parseOCIURI (scheme.text++ref)=.ok artifact ∧ artifact.registry=registry.host) ↔
      registry.host++['/'] <+: ref := by
  rw [parseOCIURI,if_pos (hasOCIScheme_text ref external),trimOCIScheme_text ref external]
  constructor
  · rintro ⟨_,parsed,host⟩
    cases found : cut '/' ref with
    | none =>
      rw [found] at parsed
      cases parsed
    | some parts =>
      rw [found] at parsed
      obtain rfl := Outcome.ok.inj parsed
      rw [parseReference_registry] at host
      obtain ⟨_,whole⟩ := cut_eq_some_iff.mp found
      exact ⟨parts.2,by rw [whole,host,List.append_assoc]; rfl⟩
  · rintro ⟨_,rfl⟩
    rw [List.append_assoc,List.singleton_append,cut_append registry.noSlash]
    exact ⟨_,rfl,parseReference_registry⟩

section

variable (registry : LocalRegistry) {scheme : Scheme} {ref : GoString}

theorem resolve_local (external : scheme≠.hf) (named : registry.host <+: ref) :
    resolveAirGappedURI (scheme.text++ref) registry.host=scheme.text++ref := by
  rw [resolveAirGappedURI,hasPrefix_hf ref external,trimOCIScheme_text ref external]
  simp [hasPrefix_iff.mpr named,Bool.false_eq_true]

theorem resolve_external (external : scheme≠.hf) (foreign : ¬registry.host <+: ref) :
    resolveAirGappedURI (scheme.text++ref) registry.host=
      scheme.text++(registry.host++['/']++ref) := by
  have unnamed : hasPrefix ref registry.host=false := by
    rw [← Bool.not_eq_true,hasPrefix_iff]
    exact foreign
  rw [resolveAirGappedURI,if_neg registry.nonempty,hasPrefix_hf ref external,
    hasOCIScheme_text ref external,trimOCIScheme_text ref external]
  simp only [unnamed,Bool.false_eq_true]
  cases scheme with
  | hf => exact absurd rfl external
  | oci =>
    rw [hasPrefix_ocis]
    simp [Scheme.text]
  | ocis =>
    rw [Scheme.text,if_pos (hasPrefix_append)]
    simp

theorem resolve_hf {path : GoString} : resolveAirGappedURI (Scheme.hf.text++path) registry.host=
      Scheme.oci.text++(registry.host++['/']++("hf/".toList++path)) := by
  rw [resolveAirGappedURI,if_neg registry.nonempty,Scheme.text,
    if_pos (hasPrefix_append),trimPrefix_append]
  simp [Scheme.text]

theorem airGapped_below {u : ModelUri} {path : GoString} (external : scheme≠.hf)
    (resolved : resolveAirGappedURI u.text registry.host=
      scheme.text++(registry.host++['/']++path)) : AirGapped registry u := by
  have below : registry.host++['/'] <+: registry.host++['/']++path := List.prefix_append _ _
  have named : registry.host <+: registry.host++['/']++path := (List.prefix_append _ _).trans below
  refine ⟨?_,?_⟩
  · rw [resolved]
    exact (parse_registry_iff external).mpr below
  · rw [resolved,resolve_local _ external named]

end

theorem airGapped_iff (registry : LocalRegistry) (u : ModelUri) :
    AirGapped registry u ↔ HostSeparated registry u := by
  obtain ⟨scheme,path,_⟩ := u
  by_cases hf : scheme=.hf
  · subst hf
    refine iff_of_true ?_ (fun external => absurd rfl external)
    exact airGapped_below registry (by decide) (resolve_hf registry)
  by_cases named : registry.host <+: path
  · have same := resolve_local registry hf named
    constructor
    · intro safe _ _
      have parsed := safe.local_only
      rw [ModelUri.text,same] at parsed
      exact (parse_registry_iff hf).mp parsed
    · intro separated
      refine ⟨?_,?_⟩
      · rw [ModelUri.text,same]
        exact (parse_registry_iff hf).mpr (separated hf named)
      · rw [ModelUri.text,same,same]
  · refine iff_of_true ?_ (fun _ inside => absurd inside named)
    exact airGapped_below registry hf (resolve_external registry hf named)

theorem airGapped_escaped :
    let registry : LocalRegistry := ⟨"registry.corp".toList,by decide,by decide⟩
    let u : ModelUri := ⟨.oci,"registry.corp.example.com/model:v1".toList,by decide⟩
    resolveAirGappedURI u.text registry.host=u.text ∧
    parseOCIURI u.text=
      .ok ⟨u.text,"registry.corp.example.com".toList,"model".toList,"v1".toList,[]⟩ ∧
    ¬AirGapped registry u := by
  intro registry u
  have kept : resolveAirGappedURI u.text registry.host=u.text := by decide
  have parsed : parseOCIURI u.text=
      .ok ⟨u.text,"registry.corp.example.com".toList,"model".toList,"v1".toList,[]⟩ := by decide
  refine ⟨kept,parsed,fun safe => ?_⟩
  obtain ⟨_,again,host⟩ := safe.local_only
  obtain rfl := Outcome.ok.inj again
  exact absurd host (by decide)

end KServeLLM.Storage
