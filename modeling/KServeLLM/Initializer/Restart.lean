import KServeLLM.Initializer.Delivery
import Mathlib.Logic.Equiv.List

namespace KServeLLM.Initializer

def phaseText : Phase → String
  | .downloading => "downloading"
  | .committing => "committing"
  | .other text _ => text

def phaseOf (text : String) : Phase :=
  if d : text="downloading" then .downloading
  else if c : text="committing" then .committing
  else .other text ⟨d,c⟩

theorem phaseOf_phaseText (p : Phase) : phaseOf (phaseText p)=p := by
  cases p with
  | downloading => rfl
  | committing => rfl
  | other text unknown =>
    unfold phaseOf phaseText
    rw [dif_neg unknown.1,dif_neg unknown.2]

instance encodableChar : Encodable Char :=
  Encodable.ofLeftInverse Char.toNat Char.ofNat Char.ofNat_toNat

instance encodableString : Encodable String :=
  Encodable.ofLeftInverse String.toList String.ofList fun _ => String.ofList_toList

instance encodableState : Encodable StagingState := Encodable.ofLeftInverse
  (fun s => (s.subject,phaseText s.phase,s.files)) (fun (a,b,c) => ⟨a,phaseOf b,c⟩)
  fun s => by simp only [phaseOf_phaseText]

instance encodableRecord : Encodable RuntimeVerificationRecord := Encodable.ofLeftInverse
  (fun r => (r.subject,r.scheme,r.signatureVerified,r.attestationVerified,r.sbomVerified,
    r.signatureDigest,r.attestationURI,r.sbomDigest,r.contentDigest,r.contentIntegrityVerified,
    r.keyRef,r.certificateIdentity,r.certificateIssuer,r.verifiedAt,r.error))
  (fun (a,b,c,d,e,f,g,h,i,j,k,l,m,n,o) => ⟨a,b,c,d,e,f,g,h,i,j,k,l,m,n,o⟩) fun _ => rfl

def unary {α : Type} [Encodable α] (a : α) : List UInt8 := 0::List.replicate (Encodable.encode a) 0

def ofUnary {α : Type} [Encodable α] : List UInt8 → Option α
  | [] => none
  | _::rest => Encodable.decode rest.length

theorem ofUnary_unary {α : Type} [Encodable α] (a : α) : ofUnary (unary a)=some a := by
  rw [unary,ofUnary,List.length_replicate,Encodable.encodek]

def unaryCodec : Codec where
  encodeState := unary
  decodeState := ofUnary
  encodeRecord := unary
  decodeRecord := ofUnary
  manifestDigests := fun _ => none
  state_decodes := ofUnary_unary
  record_decodes := ofUnary_unary
  state_empty := rfl

variable {hexSum : List UInt8 → String} {codec : Codec} {uri : String}

theorem prepare_reaches {w : World} (nothing : w.volume.readDir=[]) (destPath : String)
    (order : Removal → List TreePath) :
    (prepareStagingDirectory codec uri destPath order).Reaches w
      fun x => Bare x.volume ∧ x.volume.staging=some Tree.empty := by
  obtain ⟨bare,absent⟩ := (readDir_eq_nil_iff _).mp nothing
  refine Interruptible.reaches_get_bind ?_
  rw [if_pos nothing]
  refine Interruptible.reaches_pure_bind (Interruptible.reaches_get_bind ?_)
  rw [if_pos nothing]
  refine Interruptible.reaches_pure_bind (Interruptible.Reaches.bind ?_)
  have made := wrap_meets (mkdirStaging_meets bare absent) "create staging directory: %w" []
  exact made.reaches fun _ _ h => ⟨h.1,h.2.1⟩

theorem unreadable_refused {w : World} (bare : Bare w.volume) {t : Tree}
    (made : w.volume.staging=some t) (unreadable : loadStagingState codec t=none)
    {destPath : String} {u : RunInput} :
    ¬∃r,(run hexSum codec uri destPath u).result w=.ok r := by
  have unknown : ¬Recoverable codec uri w.volume := by
    rintro (nothing | ⟨_,known,-⟩)
    · rw [((readDir_eq_nil_iff _).mp nothing).2] at made
      cases made
    · obtain ⟨t',there,loaded⟩ := known.loaded
      obtain rfl : t=t' := Option.some.inj (made.symm.trans there)
      rw [unreadable] at loaded
      cases loaded
  have miss : cacheHit hexSum codec uri w.volume=none := by
    rw [cacheHit,loadCachedRuntimeVerificationRecord,content,tree_node _ (by decide),bare]
    exact ite_self _
  rintro ⟨r,ok⟩
  have ended := (run_meets destPath (show Inv hexSum codec uri False w from .bare bare) u).2
  rw [ok] at ended
  rcases ended with ⟨⟨-,-,hit⟩,-⟩ | ⟨⟨_,_,_,recoverable,-⟩,-⟩
  · exact hit miss
  · exact unknown recoverable

end KServeLLM.Initializer
