import KServeLLM.Auth.APIKeyStore
import KServeLLM.Framework.Rfc3339

namespace KServeLLM.Auth.APIKeyStore

section

variable {H : Type} (T : RFC3339)

def Current (sec : Secret H) (now : Time) : Prop :=
  ∀ra,sec.annotations.lookup annotationRotateAfter=some ra → ra≠[] →
    ∃deadline,T.parse ra=some deadline ∧ now ≤ deadline

def Unreadable (sec : Secret H) : Prop :=
  ∃ra,sec.annotations.lookup annotationRotateAfter=some ra ∧ ra≠[] ∧ T.parse ra=none

variable {T} {sec : Secret H} {now : Time}

theorem rotationDue_of_unreadable (h : Unreadable T sec) : rotationDue T sec now=false := by
  obtain ⟨_,found,full,unread⟩ := h
  unfold rotationDue
  rw [found]
  simp [unread]

theorem current_of_not_due (readable : ¬Unreadable T sec) (h : rotationDue T sec now=false) :
    Current T sec now := by
  intro ra found full
  unfold rotationDue at h
  rw [found] at h
  simp only [if_neg full] at h
  cases parsed : T.parse ra with
  | none => exact absurd ⟨ra,found,full,parsed⟩ readable
  | some deadline =>
    rw [parsed] at h
    exact ⟨deadline,rfl,not_lt.mp (of_decide_eq_false h)⟩

end

section

variable {H : Type} (B : Bcrypt H) (T : RFC3339)

def accepts (rawKey : GoString) (sec : Secret H) : Bool :=
  decide (sec.type=secretType) && match sec.data.lookup secretKeyHash with
    | some hash => B.compareHashAndPassword hash rawKey
    | none => false

def listed (ns : String) (cluster : Cluster H) : List (Secret H) :=
  cluster.filter fun sec => decide (sec.ns=ns ∧ sec.type=secretType)

def answering (ns : String) (cluster : Cluster H) (rawKey : GoString) : Option (Secret H) :=
  (listed ns cluster).find? (accepts B rawKey)

theorem accepts_iff {rawKey : GoString} {sec : Secret H} :
    accepts B rawKey sec=true ↔ sec.type=secretType ∧ opens B sec rawKey := by
  unfold accepts opens
  cases sec.data.lookup secretKeyHash <;> simp

theorem scan_cons_of_accepts {rawKey : GoString} {now : Time} {sec : Secret H}
    (h : accepts B rawKey sec=true) (rest : List (Secret H)) :
    scan B T rawKey now (sec::rest)=
      if rotationDue T sec now then .error .errKeyExpired else .ok (claimsFromSecret sec) := by
  obtain ⟨kind,_,found,fits⟩ := (accepts_iff B).mp h
  simp [scan,kind,found,fits]

theorem scan_cons_of_not_accepts {rawKey : GoString} {now : Time} {sec : Secret H}
    (h : accepts B rawKey sec=false) (rest : List (Secret H)) :
    scan B T rawKey now (sec::rest)=scan B T rawKey now rest := by
  rw [scan]
  by_cases kind : sec.type=secretType
  · rw [if_neg (not_not.mpr kind)]
    cases found : sec.data.lookup secretKeyHash with
    | none => rfl
    | some hash =>
      have other : B.compareHashAndPassword hash rawKey=false := by
        simpa [accepts,kind,found] using h
      simp [other]
  · rw [if_pos kind]

theorem scan_eq {rawKey : GoString} {now : Time} {secrets : List (Secret H)} :
    scan B T rawKey now secrets=match secrets.find? (accepts B rawKey) with
      | none => .error .errInvalidToken
      | some sec =>
        if rotationDue T sec now then .error .errKeyExpired else .ok (claimsFromSecret sec) := by
  induction secrets with
  | nil => rfl
  | cons sec rest ih =>
    cases first : accepts B rawKey sec with
    | true => rw [scan_cons_of_accepts B T first,List.find?_cons_of_pos first]
    | false =>
      have skipped : ¬accepts B rawKey sec=true := by simp [first]
      rw [scan_cons_of_not_accepts B T first,List.find?_cons_of_neg skipped,ih]

def Searches (rawKey : GoString) (refusal : Option String) : Prop :=
  rawKey.hasPrefix keyPrefix=true ∧ refusal=none

variable {B T} {ns : String} {cluster : Cluster H} {refusal : Option String} {rawKey : GoString}
  {now : Time}

theorem validate_searched (searches : Searches rawKey refusal) :
    validate B T ns cluster refusal rawKey now=match answering B ns cluster rawKey with
      | none => .error .errInvalidToken
      | some sec =>
        if rotationDue T sec now then .error .errKeyExpired else .ok (claimsFromSecret sec) := by
  obtain ⟨marked,rfl⟩ := searches
  rw [validate,marked]
  exact scan_eq B T

theorem searches_of_ok {claims : InferenceClaims}
    (h : validate B T ns cluster refusal rawKey now=.ok claims) : Searches rawKey refusal := by
  unfold validate at h
  by_cases marked : rawKey.hasPrefix keyPrefix=true
  · rw [marked] at h
    cases refusal with
    | some text => cases h
    | none => exact ⟨marked,rfl⟩
  · simp [marked] at h

theorem mem_of_answering {sec : Secret H} (h : answering B ns cluster rawKey=some sec) :
    sec∈cluster ∧ sec.ns=ns ∧ sec.type=secretType ∧ opens B sec rawKey := by
  obtain ⟨inside,own⟩ := List.mem_filter.mp (List.mem_of_find?_eq_some h)
  have fits := (accepts_iff B).mp (List.find?_some h)
  exact ⟨inside,(of_decide_eq_true own).1,fits.1,fits.2⟩

end

section

variable {H : Type} (B : Bcrypt H) (T : RFC3339) (ns : String) (cluster : Cluster H)
  (refusal : Option String) (rawKey : GoString) (now : Time)

def Governed : Prop := (∀claims,validate B T ns cluster refusal rawKey now=.ok claims →
    ∃sec∈cluster,sec.ns=ns ∧ sec.type=secretType ∧ opens B sec rawKey ∧ Current T sec now ∧
      claims=claimsFromSecret sec) ∧
  ∀sec,Searches rawKey refusal → answering B ns cluster rawKey=some sec → Unreadable T sec →
    validate B T ns cluster refusal rawKey now=.error .errKeyExpired

theorem validate_governed_iff : Governed B T ns cluster refusal rawKey now ↔
      (Searches rawKey refusal → ∀sec,answering B ns cluster rawKey=some sec →
        ¬Unreadable T sec) := by
  constructor
  · rintro ⟨-,closed⟩ searches sec answers unread
    have expired := closed sec searches answers unread
    rw [validate_searched searches,answers] at expired
    simp [rotationDue_of_unreadable unread] at expired
  · intro readable
    refine ⟨fun claims ok => ?_,fun sec searches answers unread =>
      absurd unread (readable searches sec answers)⟩
    have searches := searches_of_ok ok
    rw [validate_searched searches] at ok
    cases answers : answering B ns cluster rawKey with
    | none => simp [answers] at ok
    | some sec =>
      rw [answers] at ok
      obtain ⟨mem,own,kind,fits⟩ := mem_of_answering answers
      cases due : rotationDue T sec now with
      | true => simp [due] at ok
      | false =>
        simp only [due,Bool.false_eq_true,if_false,Except.ok.injEq] at ok
        exact ⟨sec,mem,own,kind,fits,current_of_not_due (readable searches sec answers) due,ok.symm⟩

end

def rfc3339 : RFC3339 where
  format t := match Rfc3339.format (1000000000*(t/1000000000)) 0 with
    | .ok s => s.map fun b => Char.ofNat b.toNat
    | .error _ => []
  parse s := (Rfc3339.parse (s.map fun c => UInt8.ofNat c.toNat)).map Prod.fst

def datedSecret (ra : GoString) : Secret GoString :=
  ⟨"key","ns",(∅ : GoMap String GoString).insert annotationRotateAfter ra,secretType,
    (∅ : GoMap String GoString).insert secretKeyHash zeroKey⟩

def newYear : Time := 1000000000*86400*739616

example : rfc3339.parse "2026-01-01T00:00:00Z".toList=some newYear := by decide

theorem dateless_key_accepted : Unreadable rfc3339 (datedSecret "2020-01-01".toList) ∧
    validate clearBcrypt rfc3339 "ns" [datedSecret "2020-01-01".toList] none zeroKey newYear=
      .ok (claimsFromSecret (datedSecret "2020-01-01".toList)) ∧
    validate clearBcrypt rfc3339 "ns" [datedSecret "2020-01-01T00:00:00Z".toList] none zeroKey
      newYear=.error .errKeyExpired ∧
    ¬Governed clearBcrypt rfc3339 "ns" [datedSecret "2020-01-01".toList] none zeroKey newYear := by
  have unread : Unreadable rfc3339 (datedSecret "2020-01-01".toList) :=
    ⟨"2020-01-01".toList,rfl,by decide,by decide⟩
  refine ⟨unread,by decide,by decide,fun governed => ?_⟩
  have answers : answering clearBcrypt "ns" [datedSecret "2020-01-01".toList] zeroKey=
    some (datedSecret "2020-01-01".toList) := rfl
  have expired := governed.2 _ ⟨by decide,rfl⟩ answers unread
  revert expired
  decide

end KServeLLM.Auth.APIKeyStore
