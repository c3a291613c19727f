import Mathlib.Data.Fintype.EquivFin
import KServeLLM.Auth.Claims

namespace KServeLLM.Auth

def secretType : String := "ckodex.com/api-key"
def annotationTenantID : String := "ckodex.com/tenant-id"
def annotationModelAccess : String := "ckodex.com/model-access"
def annotationRotateAfter : String := "ckodex.com/rotate-after"
def annotationScopes : String := "ckodex.com/scopes"
def secretKeyHash : String := "hash"
def keyPrefix : GoString := ['c','k','x','_']
def rawKeyBytes : Nat := 32
def bcryptCost : Nat := 12

structure Secret (H : Type) where
  (name ns : String)
  annotations : GoMap String GoString
  type : String
  data : GoMap String H

structure APIKeyOptions where
  tenantID : GoString
  modelAccess : List GoString
  scopes : GoString
  rotateAfter : Time

inductive APIKeyError where
  | errInvalidToken | errKeyExpired
  | errorf (error : Errorf)
  deriving DecidableEq

structure Bcrypt (H : Type) where
  generateFromPassword : GoString → Nat → List UInt8 → Except String H
  compareHashAndPassword : H → GoString → Bool

structure RFC3339 where
  format : Time → GoString
  parse : GoString → Option Time

def hexDigit (n : Nat) : Char := if n < 10 then Char.ofNat (48+n) else Char.ofNat (87+n)

def hexEncode (bytes : List UInt8) : GoString :=
  bytes.flatMap fun b => [hexDigit (b.toNat/16),hexDigit (b.toNat%16)]

def generateRawKey (random : Except String (Vector UInt8 rawKeyBytes)) :
    Except String GoString :=
  match random with
  | .error text => .error text
  | .ok b => .ok (keyPrefix++hexEncode b.toList)

def APIKeyOptions.annotations (T : RFC3339) (opts : APIKeyOptions) : GoMap String GoString :=
  let a : GoMap String GoString := ∅
  let a := if opts.tenantID≠[] then a.insert annotationTenantID opts.tenantID else a
  let a :=
    if 0 < opts.modelAccess.length then
      a.insert annotationModelAccess (GoString.join ',' opts.modelAccess)
    else a
  let a :=
    if !Time.isZero opts.rotateAfter then
      a.insert annotationRotateAfter (T.format opts.rotateAfter)
    else a
  if opts.scopes≠[] then a.insert annotationScopes opts.scopes else a

def claimsFromSecret {H : Type} (sec : Secret H) : InferenceClaims :=
  let claims := InferenceClaims.empty
  let claims :=
    match sec.annotations.lookup annotationScopes with
    | some s => {claims with scope := s}
    | none => claims
  let claims :=
    match sec.annotations.lookup annotationTenantID with
    | some t => {claims with tenantID := t}
    | none => claims
  match sec.annotations.lookup annotationModelAccess with
  | some ma => if ma≠[] then {claims with modelAccess := GoString.split ',' ma} else claims
  | none => claims

inductive CreateError where
  | alreadyExists
  | other (text : String)

abbrev Cluster (H : Type) := List (Secret H)

def Cluster.create {H : Type} (cluster : Cluster H) (sec : Secret H) (refusal : Option String) :
    Except CreateError (Cluster H) :=
  match refusal with
  | some text => .error (.other text)
  | none =>
    if cluster.any fun old => decide (old.name=sec.name ∧ old.ns=sec.ns) then
      .error .alreadyExists
    else .ok (cluster++[sec])

namespace APIKeyStore
variable {H : Type} (B : Bcrypt H) (T : RFC3339)

def generateKey (ns : String) (cluster : Cluster H) (name : String) (opts : APIKeyOptions)
    (random : Except String (Vector UInt8 rawKeyBytes)) (salt : List UInt8)
    (refusal : Option String) : Cluster H×Except APIKeyError (GoString×String) :=
  match generateRawKey random with
  | .error text => (cluster,.error (.errorf ⟨"generate random key: %w",[.str text]⟩))
  | .ok raw =>
    match B.generateFromPassword raw bcryptCost salt with
    | .error text => (cluster,.error (.errorf ⟨"hash key: %w",[.str text]⟩))
    | .ok hash =>
      let sec : Secret H :=
        ⟨name,ns,opts.annotations T,secretType,(∅ : GoMap String H).insert secretKeyHash hash⟩
      match cluster.create sec refusal with
      | .error .alreadyExists =>
          (cluster,.error (.errorf ⟨"api key %q already exists",[.str name]⟩))
      | .error (.other text) =>
          (cluster,.error (.errorf ⟨"create api-key secret: %w",[.str text]⟩))
      | .ok cluster => (cluster,.ok (raw,name))

def rotationDue (sec : Secret H) (now : Time) : Bool :=
  match sec.annotations.lookup annotationRotateAfter with
  | none => false
  | some ra =>
    if ra=[] then false
    else
      match T.parse ra with
      | none => false
      | some deadline => Time.after now deadline

def scan (rawKey : GoString) (now : Time) : List (Secret H) → Except APIKeyError InferenceClaims
  | [] => .error .errInvalidToken
  | sec::rest =>
    if sec.type≠secretType then scan rawKey now rest
    else
      match sec.data.lookup secretKeyHash with
      | none => scan rawKey now rest
      | some hash =>
        if !B.compareHashAndPassword hash rawKey then scan rawKey now rest
        else if rotationDue T sec now then .error .errKeyExpired
        else .ok (claimsFromSecret sec)

def validate (ns : String) (cluster : Cluster H) (refusal : Option String) (rawKey : GoString)
    (now : Time) : Except APIKeyError InferenceClaims :=
  if !rawKey.hasPrefix keyPrefix then .error .errInvalidToken
  else
    match refusal with
    | some text => .error (.errorf ⟨"list api-key secrets: %w",[.str text]⟩)
    | none =>
      scan B T rawKey now
        (cluster.filter fun sec => decide (sec.ns=ns ∧ sec.type=secretType))

def opens (sec : Secret H) (rawKey : GoString) : Prop :=
  ∃hash,sec.data.lookup secretKeyHash=some hash ∧ B.compareHashAndPassword hash rawKey=true

end APIKeyStore

def storedAccess (access : List GoString) : List GoString :=
  if access=[] ∨ GoString.join ',' access=[] then []
  else GoString.split ',' (GoString.join ',' access)

def Restorable (access : List GoString) : Prop :=
  ['*']∈access ∨ access≠[[]] ∧ ∀model∈access,','∉model

variable {access : List GoString}

theorem allowsModel_iff {model : GoString} :
    allowsModel access model=true ↔ access=[] ∨ model∈access ∨ ['*']∈access := by
  cases access with
  | nil => simp [allowsModel]
  | cons a access =>
    simp only [allowsModel,if_false,List.any_eq_true,
      decide_eq_true_eq,reduceCtorEq,false_or]
    constructor
    · rintro ⟨m,mem,rfl | rfl⟩
      · exact .inl mem
      · exact .inr mem
    · rintro (mem | mem)
      · exact ⟨model,mem,.inl rfl⟩
      · exact ⟨_,mem,.inr rfl⟩

theorem join_eq_nil_iff {sep : Char} (some' : access≠[]) :
    GoString.join sep access=[] ↔ access=[[]] := by
  match access with
  | [] => exact absurd rfl some'
  | [a] => simp [GoString.join]
  | a::b::rest =>
    have here : GoString.join sep (a::b::rest)=a++sep::GoString.join sep (b::rest) := rfl
    simp [here]

theorem storedAccess_eq (some' : access≠[]) (named : access≠[[]]) :
    storedAccess access=access.flatMap (GoString.split ',') := by
  have kept : ¬(access=[] ∨ GoString.join ',' access=[]) := by
    simp [some',join_eq_nil_iff,named]
  rw [storedAccess,if_neg kept,GoString.split_join ',' some']

theorem flatMap_split_of_free (free : ∀model∈access,','∉model) :
    access.flatMap (GoString.split ',')=access := by
  induction access with
  | nil => rfl
  | cons a access ih =>
    rw [List.flatMap_cons,GoString.split_of_free (free a List.mem_cons_self),
      ih fun m mem => free m (List.mem_cons_of_mem a mem)]
    rfl

theorem exists_model_notMem (access : List GoString) : ∃model : GoString,model∉access := by
  obtain ⟨model,out⟩ := Infinite.exists_notMem_finset access.toFinset
  exact ⟨model,fun mem => out (List.mem_toFinset.mpr mem)⟩

theorem comma_changes_access {name : GoString} (mem : name∈access)
    (comma : ','∈name) (star : ['*']∉access) :
    ∃model,allowsModel (access.flatMap (GoString.split ',')) model≠allowsModel access model := by
  have some' : access≠[] := List.ne_nil_of_mem mem
  by_cases wild : ['*']∈access.flatMap (GoString.split ',')
  · obtain ⟨model,out⟩ := exists_model_notMem access
    refine ⟨model,fun same => ?_⟩
    have opened := allowsModel_iff.mp (same.symm.trans (allowsModel_iff.mpr (.inr (.inr wild))))
    simp [some',out,star] at opened
  · refine ⟨name,fun same => ?_⟩
    have kept := allowsModel_iff.mp (same.trans (allowsModel_iff.mpr (.inr (.inl mem))))
    rcases kept with empty | named | wild'
    · have piece : access.flatMap (GoString.split ',')≠[] := by
        rw [← GoString.split_join ',' some']
        exact List.splitOn_ne_nil _ _
      exact piece empty
    · obtain ⟨_,_,piece⟩ := List.mem_flatMap.mp named
      exact GoString.free_of_mem_split piece comma
    · exact wild wild'

theorem allows_storedAccess_iff (access : List GoString) :
    (∀model,allowsModel (storedAccess access) model=allowsModel access model) ↔
      Restorable access := by
  by_cases none' : access=[]
  · subst none'
    simp [storedAccess,Restorable]
  by_cases blank : access=[[]]
  · subst blank
    refine iff_of_false (fun same => ?_) (by simp [Restorable])
    have closed := same ['m']
    revert closed
    decide
  rw [storedAccess_eq none' blank]
  by_cases star : ['*']∈access
  · have wild : ['*']∈access.flatMap (GoString.split ',') :=
      List.mem_flatMap.mpr ⟨_,star,by decide⟩
    refine iff_of_true (fun model => ?_) (.inl star)
    rw [allowsModel_iff.mpr (.inr (.inr wild)),allowsModel_iff.mpr (.inr (.inr star))]
  by_cases free : ∀model∈access,','∉model
  · exact iff_of_true (fun model => by rw [flatMap_split_of_free free]) (.inr ⟨blank,free⟩)
  · refine iff_of_false (fun same => ?_) (by simp [Restorable,star,free])
    push Not at free
    obtain ⟨_,mem,comma⟩ := free
    obtain ⟨model,differs⟩ := comma_changes_access mem comma star
    exact differs (same model)

section
variable (T : RFC3339) (opts : APIKeyOptions) {a : GoMap String GoString} {v : GoString} {c : Prop}

theorem lookup_ite_insert_ne {k k' : String} [Decidable c] (other : k≠k') :
    (if c then a.insert k' v else a).lookup k=a.lookup k := by
  split_ifs
  · exact AList.lookup_insert_ne other
  · rfl

theorem lookup_ite_insert {k : String} [Decidable c] :
    (if c then a.insert k v else a).lookup k=if c then some v else a.lookup k := by
  split_ifs
  · exact AList.lookup_insert a
  · rfl

theorem lookup_scopes : (opts.annotations T).lookup annotationScopes=
    if opts.scopes≠[] then some opts.scopes else none := by
  rw [APIKeyOptions.annotations,lookup_ite_insert,lookup_ite_insert_ne (by decide),
    lookup_ite_insert_ne (by decide),lookup_ite_insert_ne (by decide)]
  rfl

theorem lookup_tenantID : (opts.annotations T).lookup annotationTenantID=
    if opts.tenantID≠[] then some opts.tenantID else none := by
  rw [APIKeyOptions.annotations,lookup_ite_insert_ne (by decide),
    lookup_ite_insert_ne (by decide),lookup_ite_insert_ne (by decide),lookup_ite_insert]
  rfl

theorem lookup_modelAccess : (opts.annotations T).lookup annotationModelAccess=
    if 0 < opts.modelAccess.length then some (GoString.join ',' opts.modelAccess) else none := by
  rw [APIKeyOptions.annotations,lookup_ite_insert_ne (by decide),
    lookup_ite_insert_ne (by decide),lookup_ite_insert,lookup_ite_insert_ne (by decide)]
  rfl

theorem claimsFromSecret_stored {H : Type} (name ns : String) (data : GoMap String H) :
    claimsFromSecret ⟨name,ns,opts.annotations T,secretType,data⟩=
      {InferenceClaims.empty with
        scope := opts.scopes, tenantID := opts.tenantID,
        modelAccess := storedAccess opts.modelAccess} := by
  unfold claimsFromSecret storedAccess
  simp only [lookup_scopes,lookup_tenantID,lookup_modelAccess,List.length_pos_iff]
  by_cases scopes : opts.scopes=[] <;> by_cases tenant : opts.tenantID=[] <;>
    by_cases access : opts.modelAccess=[] <;>
    by_cases blank : GoString.join ',' opts.modelAccess=[] <;>
    simp [scopes,tenant,access,blank,InferenceClaims.empty]

end

namespace APIKeyStore
variable {H : Type} (B : Bcrypt H) (T : RFC3339) {cluster : Cluster H} {refusal : Option String}

theorem generateKey_ok {ns name secretName : String} {after : Cluster H}
    {opts : APIKeyOptions} {random : Except String (Vector UInt8 rawKeyBytes)}
    {salt : List UInt8} {raw : GoString}
    (h : generateKey B T ns cluster name opts random salt refusal=(after,.ok (raw,secretName))) :
    ∃data,after=cluster++[⟨name,ns,opts.annotations T,secretType,data⟩] := by
  unfold generateKey at h
  cases key : generateRawKey random with
  | error text => simp [key] at h
  | ok raw' =>
    cases hashed : B.generateFromPassword raw' bcryptCost salt with
    | error text => simp [key,hashed] at h
    | ok hash =>
      simp only [key,hashed] at h
      unfold Cluster.create at h
      cases refusal with
      | some text => simp at h
      | none =>
        split_ifs at h with taken
        · simp at h
        · exact ⟨_,(Prod.mk.inj h).1.symm⟩

variable {rawKey : GoString} {now : Time} {claims : InferenceClaims}

theorem scan_ok {secrets : List (Secret H)} (h : scan B T rawKey now secrets=.ok claims) :
    ∃sec∈secrets,opens B sec rawKey ∧ claims=claimsFromSecret sec := by
  induction secrets with
  | nil => cases h
  | cons sec rest ih =>
    have later : scan B T rawKey now rest=.ok claims →
        ∃sec'∈sec::rest,opens B sec' rawKey ∧ claims=claimsFromSecret sec' := by
      intro found
      obtain ⟨sec',mem,facts⟩ := ih found
      exact ⟨sec',List.mem_cons_of_mem sec mem,facts⟩
    rw [scan] at h
    by_cases other : sec.type≠secretType
    · rw [if_pos other] at h
      exact later h
    rw [if_neg other] at h
    cases found : sec.data.lookup secretKeyHash with
    | none =>
      rw [found] at h
      exact later h
    | some hash =>
      rw [found] at h
      dsimp only at h
      cases fits : B.compareHashAndPassword hash rawKey with
      | false =>
        rw [fits] at h
        exact later h
      | true =>
        rw [fits] at h
        by_cases due : rotationDue T sec now=true
        · simp [due] at h
        · simp only [due,Bool.not_true,if_false,Bool.false_eq_true,Except.ok.injEq] at h
          exact ⟨sec,List.mem_cons_self,⟨hash,found,fits⟩,h.symm⟩

theorem validate_ok {ns : String}
    (h : validate B T ns cluster refusal rawKey now=.ok claims) :
    ∃sec∈cluster,opens B sec rawKey ∧ claims=claimsFromSecret sec := by
  unfold validate at h
  by_cases plain : rawKey.hasPrefix keyPrefix=true
  · rw [plain] at h
    cases refusal with
    | some text => cases h
    | none =>
      obtain ⟨sec,mem,facts⟩ := scan_ok B T h
      exact ⟨sec,(List.mem_filter.mp mem).1,facts⟩
  · simp [plain] at h

theorem stored_key_grants_iff (ns name secretName : String) (before cluster later : Cluster H)
    (opts : APIKeyOptions) (random : Except String (Vector UInt8 rawKeyBytes)) (salt : List UInt8)
    (refusal listRefusal : Option String) (raw : GoString) (now : Time) (claims : InferenceClaims)
    (stored : generateKey B T ns before name opts random salt refusal=
      (cluster,.ok (raw,secretName))) (fresh : ∀sec∈later,opens B sec raw → cluster=before++[sec])
    (accepted : validate B T ns later listRefusal raw now=.ok claims) :
    ((∀model,claims.canAccessModel model=allowsModel opts.modelAccess model) ∧
        claims.tenantID=opts.tenantID ∧ claims.scope=opts.scopes) ↔
      Restorable opts.modelAccess := by
  obtain ⟨data,grown⟩ := generateKey_ok B T stored
  obtain ⟨sec,mem,fits,rfl⟩ := validate_ok B T accepted
  obtain rfl : sec=⟨name,ns,opts.annotations T,secretType,data⟩ := by
    have tails := List.append_cancel_left ((fresh sec mem fits).symm.trans grown)
    exact (List.cons.inj tails).1
  rw [claimsFromSecret_stored,← allows_storedAccess_iff]
  exact ⟨fun h => h.1,fun h => ⟨h,rfl,rfl⟩⟩

def clearBcrypt : Bcrypt GoString := ⟨fun password _ _ => .ok password,fun h p => decide (h=p)⟩

def untimed : RFC3339 := ⟨fun _ => [],fun _ => none⟩

def zeroKey : GoString := keyPrefix++hexEncode (List.replicate rawKeyBytes 0)

def keyOptions (access : List GoString) : APIKeyOptions := ⟨['t'],access,['i'],0⟩

def keySecret (access : List GoString) : Secret GoString :=
  ⟨"key","ns",(keyOptions access).annotations untimed,secretType,
    (∅ : GoMap String GoString).insert secretKeyHash zeroKey⟩

def storeKey (access : List GoString) : Cluster GoString×Except APIKeyError (GoString×String) :=
  generateKey clearBcrypt untimed "ns" [] "key" (keyOptions access)
    (.ok (Vector.replicate rawKeyBytes 0)) [] none

theorem storeKey_eq {access : List GoString} :
    storeKey access=([keySecret access],.ok (zeroKey,"key")) := rfl

theorem named_model_survives :
    validate clearBcrypt untimed "ns" [keySecret [['m']]] none zeroKey 0=
        .ok (claimsFromSecret (keySecret [['m']])) ∧
      ∀model,(claimsFromSecret (keySecret [['m']])).canAccessModel model=
        allowsModel [['m']] model := by
  have accepted : validate clearBcrypt untimed "ns" [keySecret [['m']]] none zeroKey 0=
      .ok (claimsFromSecret (keySecret [['m']])) := rfl
  have grants := (stored_key_grants_iff clearBcrypt untimed "ns" "key" "key" []
    [keySecret [['m']]] [keySecret [['m']]] (keyOptions [['m']])
    (.ok (Vector.replicate rawKeyBytes 0)) [] none none zeroKey 0 _ (storeKey_eq)
    (by simp) accepted).mpr (.inr (by decide))
  exact ⟨accepted,grants.1⟩

theorem blank_model_opens_all :
    ∃cluster raw claims,storeKey [[]]=(cluster,.ok (raw,"key")) ∧
      validate clearBcrypt untimed "ns" cluster none raw 0=.ok claims ∧
      (∀sec∈cluster,opens clearBcrypt sec raw → cluster=[sec]) ∧
      claims.canAccessModel ['m']=true ∧ allowsModel [[]] ['m']=false := by
  refine ⟨_,_,claimsFromSecret (keySecret [[]]),storeKey_eq,rfl,?_,rfl,rfl⟩
  simp

end APIKeyStore

end KServeLLM.Auth
