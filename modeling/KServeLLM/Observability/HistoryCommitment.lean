import KServeLLM.Framework.HashChain
import KServeLLM.Framework.Utf8
import KServeLLM.Observability.EvidenceHealth

namespace KServeLLM

namespace Provenance

def ReceiptClaims.validTexts (c : ReceiptClaims) : Bool :=
  [c.schema,c.id,c.subjectDigest,c.producer.spiffeID,c.producer.keyDigest,c.previousDigest,
    c.producedAt].all fun text => Bytes.valid (text.map fun x => UInt8.ofNat x.toNat)

variable {lib : Library}

def EncodesInjectively (lib : Library) : Prop :=
  ∀a b encoded,a.validTexts → b.validTexts → lib.marshal a=some encoded →
    lib.marshal b=some encoded → a=b

theorem digest_of_verified {v : Option ReceiptVerifier} {receipt : EvidenceReceipt}
    (h : ReceiptVerifier.verify lib v receipt=none) :
    ∃encoded,lib.marshal receipt.claims=some encoded ∧ receipt.digest=digestBytes lib encoded := by
  unfold ReceiptVerifier.verify refuse at h
  cases encoded : lib.marshal _ with
  | none =>
    have failed : receiptClaimsDigest lib receipt=
        .error (.errorf "marshal receipt claims: %w" (.sentinel .marshal) []) := by
      rw [receiptClaimsDigest,encoded]
    grind
  | some bytes =>
    have expected : receiptClaimsDigest lib receipt=.ok (digestBytes lib bytes) := by
      rw [receiptClaimsDigest,encoded]
    exact ⟨bytes,rfl,by grind⟩

end Provenance

namespace Observability

open Provenance

variable {lib : Library} {x : EvidenceReceipt} {xs ys : List EvidenceReceipt}

structure History (lib : Library) (xs : List EvidenceReceipt) : Prop where
  numbered : ∀i x,xs[i]?=some x → x.sequence.toNat=i+1
  chained : xs.IsChain fun before after => after.previousDigest=before.digest
  committed : ∀x∈xs,∃encoded,lib.marshal x.claims=some encoded ∧ x.digest=digestBytes lib encoded
  valid : ∀x∈xs,x.claims.validTexts

theorem Accountable.history {expected : List GoString} {verifier : Option ReceiptVerifier}
    (h : Accountable lib expected verifier xs) (valid : ∀x∈xs,x.claims.validTexts) :
    History lib xs :=
  ⟨h.numbered,h.chained,fun x mem => digest_of_verified (h.verified x mem),valid⟩

theorem History.init (h : History lib (xs++[x])) : History lib xs where
  numbered i y at' := h.numbered i y (by
    rw [List.getElem?_append_left (List.getElem?_eq_some_iff.mp at').1,at'])
  chained := (List.isChain_append.mp h.chained).1
  committed y mem := h.committed y (List.mem_append_left _ mem)
  valid y mem := h.valid y (List.mem_append_left _ mem)

theorem History.last_sequence (h : History lib (xs++[x])) : x.sequence.toNat=xs.length+1 :=
  h.numbered _ x (by simp)

theorem History.previous {before : List EvidenceReceipt} {u : EvidenceReceipt}
    (h : History lib (before++[u]++[x])) : x.previousDigest=u.digest :=
  (List.isChain_append.mp h.chained).2.2 u (by simp) x rfl

def encodings (lib : Library) (xs : List EvidenceReceipt) : List (List UInt8) :=
  xs.filterMap fun x => lib.marshal x.claims

theorem History.claims_eq {y : EvidenceReceipt} (h : History lib xs) (h' : History lib ys)
    (sha : HashChain.CollisionFree lib.hexSum (encodings lib (xs++ys)))
    (json : EncodesInjectively lib) (mem : x∈xs) (mem' : y∈ys) (same : x.digest=y.digest) :
    x.claims=y.claims := by
  obtain ⟨encoded,own,digest⟩ := h.committed x mem
  obtain ⟨encoded',own',digest'⟩ := h'.committed y mem'
  have equal : encoded=encoded' := by
    refine sha _ ?_ _ ?_ ?_
    · exact List.mem_filterMap.mpr ⟨x,List.mem_append_left _ mem,own⟩
    · exact List.mem_filterMap.mpr ⟨y,List.mem_append_right _ mem',own'⟩
    · exact List.append_cancel_left (digest.symm.trans (same.trans digest'))
  exact json _ _ _ (h.valid x mem) (h'.valid y mem') own (equal ▸ own')

theorem History.same (json : EncodesInjectively lib) (h : History lib xs) (h' : History lib ys)
    (sha : HashChain.CollisionFree lib.hexSum (encodings lib (xs++ys)))
    (last : xs.getLast?.map (·.digest)=ys.getLast?.map (·.digest)) :
    xs.map (·.claims)=ys.map (·.claims) := by
  induction xs using List.reverseRecOn generalizing ys with
  | nil =>
    have none' : ys.getLast?=none := by simpa using last
    rw [List.getLast?_eq_none_iff.mp none']
  | append_singleton before x ih =>
    rcases List.eq_nil_or_concat ys with rfl | ⟨before',y,rfl⟩
    · simp at last
    rw [List.concat_eq_append] at h' sha last ⊢
    have claims : x.claims=y.claims := by
      refine h.claims_eq h' sha json (by simp) (by simp) ?_
      simpa using last
    have length : before.length=before'.length := by
      have sequence := congrArg (·.sequence.toNat) claims
      have first := h.last_sequence
      have second := h'.last_sequence
      change x.sequence.toNat=y.sequence.toNat at sequence
      omega
    have less : HashChain.CollisionFree lib.hexSum (encodings lib (before++before')) := by
      refine sha.subset fun bytes mem => ?_
      obtain ⟨r,among,own⟩ := List.mem_filterMap.mp mem
      refine List.mem_filterMap.mpr ⟨r,?_,own⟩
      simp only [List.mem_append] at among ⊢
      tauto
    have earlier : before.getLast?.map (·.digest)=before'.getLast?.map (·.digest) := by
      rcases List.eq_nil_or_concat before with rfl | ⟨_,u,rfl⟩
      · rw [List.eq_nil_of_length_eq_zero length.symm]
      rcases List.eq_nil_or_concat before' with rfl | ⟨_,w,rfl⟩
      · simp at length
      rw [List.concat_eq_append] at h h' ⊢
      have linked := congrArg (·.previousDigest) claims
      change x.previousDigest=y.previousDigest at linked
      rw [h.previous,h'.previous] at linked
      simpa using linked
    rw [List.map_append,ih h.init h'.init less earlier]
    simp [claims]

def startLibrary : Library :=
  {lenient with marshal := fun c => if c=startReceipt.claims then some [] else none}

def resigned : EvidenceReceipt := {startReceipt with signature := "BBBB".toList}

end Observability

end KServeLLM
