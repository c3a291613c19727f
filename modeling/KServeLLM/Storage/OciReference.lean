import KServeLLM.Storage.OciUri

namespace KServeLLM.Storage

open GoString

def modelpackScheme : GoString := "modelpack://".toList

def parseModelpackURI (uri : GoString) : Outcome ModelArtifact :=
  if hasPrefix uri modelpackScheme then
    match cut '/' (trimPrefix uri modelpackScheme) with
    | none => .err ⟨"invalid Modelpack URI, expected modelpack://registry/repo:tag",[]⟩
    | some (registry,repoRef) => .ok (parseReference uri registry repoRef)
  else .err ⟨"not a Modelpack URI: %s",[.str (String.ofList uri)]⟩

structure Digest where
  (algorithm hex : GoString)

def Digest.text (d : Digest) : GoString := d.algorithm ++ ':'::d.hex

structure OciReference where
  (registry repository : GoString)
  tag : Option GoString
  digest : Option Digest
  noSlash : '/'∉registry
  noAt : '@'∉repository
  noColon : ':'∉repository
  tagNoAt : ∀t∈tag,'@'∉t
  tagNoColon : ∀t∈tag,':'∉t

namespace OciReference

variable (r : OciReference)

def tagText : GoString := r.tag.elim [] (fun t => ':'::t)

def digestText : GoString := r.digest.elim [] (fun d => '@'::d.text)

def text : GoString := r.registry ++ '/'::(r.repository++r.tagText++r.digestText)

def artifact (uri : GoString) : ModelArtifact where
  rawURI := uri
  registry := r.registry
  repository := r.repository
  reference :=
    match r.digest,r.tag with
    | some d,_ => d.text
    | none,some t => t
    | none,none => "latest".toList
  digest := r.digest.elim [] Digest.text

structure Recovered : Prop where
  oci : ∀scheme : Scheme,scheme≠.hf →
    parseOCIURI (scheme.text++r.text)=.ok (r.artifact (scheme.text++r.text))
  modelpack : parseModelpackURI (modelpackScheme++r.text)=.ok (r.artifact (modelpackScheme++r.text))

theorem noAt_named : '@'∉r.repository++r.tagText := by
  have outside := r.tagNoAt
  unfold tagText
  cases tag : r.tag with
  | none => simpa using r.noAt
  | some t =>
    have inside := outside t (by simp [tag])
    simp [r.noAt,inside]

theorem parseReference_digest (uri : GoString) {d : Digest} (pinned : r.digest=some d) :
    parseReference uri r.registry (r.repository++r.tagText++r.digestText)=
      ⟨uri,r.registry,r.repository++r.tagText,d.text,d.text⟩ := by
  have found : cut '@' (r.repository++r.tagText++r.digestText)=
      some (r.repository++r.tagText,d.text) := by
    rw [digestText,pinned]
    exact cut_append r.noAt_named
  rw [parseReference,found]

theorem parseReference_loose (uri : GoString) (loose : r.digest=none) :
    parseReference uri r.registry (r.repository++r.tagText++r.digestText)=r.artifact uri := by
  have none_found : cut '@' (r.repository++r.tagText)=none := cut_of_free r.noAt_named
  have outside := r.tagNoColon
  simp only [digestText,loose,Option.elim_none,List.append_nil,parseReference,none_found,artifact]
  cases tag : r.tag with
  | none =>
    simp only [tagText,tag,Option.elim_none,List.append_nil]
    rw [cutLast_of_free r.noColon]
  | some t =>
    simp only [tagText,tag,Option.elim_some]
    rw [cutLast_append (outside t (by simp [tag]))]

theorem parseReference_eq_iff (uri : GoString) :
    parseReference uri r.registry (r.repository++r.tagText++r.digestText)=r.artifact uri ↔
      r.tag=none ∨ r.digest=none := by
  cases pinned : r.digest with
  | none => exact iff_of_true (r.parseReference_loose uri pinned) (.inr rfl)
  | some d =>
    rw [r.parseReference_digest uri pinned]
    cases tag : r.tag with
    | none => exact iff_of_true (by simp [artifact,pinned,tagText,tag]) (.inl rfl)
    | some t => simp [artifact,tagText,tag]

theorem parseOCIURI_text {scheme : Scheme} (external : scheme≠.hf) :
    parseOCIURI (scheme.text++r.text)=.ok (parseReference (scheme.text++r.text) r.registry
        (r.repository++r.tagText++r.digestText)) := by
  rw [parseOCIURI,if_pos (hasOCIScheme_text _ external),trimOCIScheme_text _ external]
  conv_lhs => rw [text,cut_append r.noSlash]
  rfl

theorem parseModelpackURI_text : parseModelpackURI (modelpackScheme++r.text)=
      .ok (parseReference (modelpackScheme++r.text) r.registry
        (r.repository++r.tagText++r.digestText)) := by
  rw [parseModelpackURI,trimPrefix_append]
  conv_lhs => rw [text,cut_append r.noSlash]
  rfl

theorem recovered_iff : r.Recovered ↔ r.tag=none ∨ r.digest=none := by
  constructor
  · intro h
    have read := h.modelpack
    rw [r.parseModelpackURI_text,Outcome.ok.injEq] at read
    exact (r.parseReference_eq_iff _).mp read
  · intro one
    refine ⟨fun scheme external => ?_,?_⟩
    · rw [r.parseOCIURI_text external,(r.parseReference_eq_iff _).mpr one]
    · rw [r.parseModelpackURI_text,(r.parseReference_eq_iff _).mpr one]

def tagged : OciReference where
  registry := "registry.local:5000".toList
  repository := "team/model".toList
  tag := some "v1".toList
  digest := some ⟨"sha256".toList,"0f".toList⟩
  noSlash := by decide
  noAt := by decide
  noColon := by decide
  tagNoAt := by decide
  tagNoColon := by decide

theorem tagged_digest_misread :
    parseOCIURI "oci://registry.local:5000/team/model:v1@sha256:0f".toList=
      .ok ⟨"oci://registry.local:5000/team/model:v1@sha256:0f".toList,
        "registry.local:5000".toList,"team/model:v1".toList,"sha256:0f".toList,
        "sha256:0f".toList⟩ ∧
    ociScheme++tagged.text="oci://registry.local:5000/team/model:v1@sha256:0f".toList ∧
    ¬tagged.Recovered := by
  have read : parseOCIURI "oci://registry.local:5000/team/model:v1@sha256:0f".toList=
      .ok ⟨"oci://registry.local:5000/team/model:v1@sha256:0f".toList,
        "registry.local:5000".toList,"team/model:v1".toList,"sha256:0f".toList,
        "sha256:0f".toList⟩ := by decide
  refine ⟨read,by decide,fun h => ?_⟩
  have whole := h.oci .oci (by decide)
  exact absurd whole (by decide)

end OciReference

end KServeLLM.Storage
