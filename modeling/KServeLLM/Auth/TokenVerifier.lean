import KServeLLM.Framework.Execution
import KServeLLM.Auth.Claims

namespace KServeLLM.Auth

structure OIDCConfig where
  (issuerURL clientID audience jwksEndpoint : GoString)
  cacheTTL : Duration

inductive Hash where
  | sha256 | sha384 | sha512
  deriving DecidableEq

inductive SigningMethod where
  | rsa (hash : Hash)
  | rsaPSS (hash : Hash)
  | hmac (hash : Hash)
  | ecdsa (hash : Hash)
  | ed25519 | none
  deriving DecidableEq

def getSigningMethod : String → Option SigningMethod
  | "RS256" => some (.rsa .sha256)
  | "RS384" => some (.rsa .sha384)
  | "RS512" => some (.rsa .sha512)
  | "PS256" => some (.rsaPSS .sha256)
  | "PS384" => some (.rsaPSS .sha384)
  | "PS512" => some (.rsaPSS .sha512)
  | "HS256" => some (.hmac .sha256)
  | "HS384" => some (.hmac .sha384)
  | "HS512" => some (.hmac .sha512)
  | "ES256" => some (.ecdsa .sha256)
  | "ES384" => some (.ecdsa .sha384)
  | "ES512" => some (.ecdsa .sha512)
  | "EdDSA" => some .ed25519
  | "none" => some .none
  | _ => Option.none

structure Content where
  alg : String
  kid : Option GoString
  claims : InferenceClaims
  deriving DecidableEq

inductive Signature (K : Type) where
  | rsa (hash : Hash) (key : K) (covers : Content)
  | hmac (hash : Hash) (secret : GoString) (covers : Content)
  | bytes (b : GoString)
  deriving DecidableEq

structure Token (K : Type) where
  content : Content
  signature : Signature K

structure RSAPublicKey (K : Type) where
  pair : K

inductive VerificationKey (K : Type) where
  | secret (bytes : GoString)
  | publicKey (key : RSAPublicKey K)

def Token.verifies {K : Type} [DecidableEq K] (token : Token K) (method : SigningMethod)
    (key : VerificationKey K) : Bool :=
  match method,key with
  | .rsa hash,.publicKey key => decide (token.signature=.rsa hash key.pair token.content)
  | .hmac hash,.secret s => decide (token.signature=.hmac hash s token.content)
  | _,_ => false

structure JWT (K : Type) where
  parse : GoString → Except String (Token K)
  validateClaims : GoString → GoString → Duration → Time → InferenceClaims → Option String

inductive JWTError where
  | malformed (text : String)
  | unverifiable (error : GoError Errorf)
  | signatureInvalid
  | invalidClaims (text : String)
  deriving DecidableEq

structure InvalidToken where
  cause : JWTError
  deriving DecidableEq

inductive JWKKey (K : Type) where
  | rsa (key : RSAPublicKey K)
  | other

structure JWK (K : Type) where
  keyID : GoString
  key : JWKKey K

inductive JWKSAnswer (K : Type) where
  | requestError (text : String)
  | fetchError (text : String)
  | status (code : Nat)
  | parseError (text : String)
  | keySet (keys : List (JWK K))

structure TokenVerifier (K : Type) where
  publicKeys : GoMap GoString (RSAPublicKey K)
  lastFetch : Time

def newTokenVerifier (K : Type) : TokenVerifier K := ⟨∅,0⟩

def OIDCConfig.endpoint (config : OIDCConfig) : GoString :=
  if config.jwksEndpoint=[] then
    config.issuerURL.trimSuffix ['/']++"/.well-known/jwks.json".toList
  else config.jwksEndpoint

def collectKeys {K : Type} (keys : List (JWK K)) : GoMap GoString (RSAPublicKey K) :=
  keys.foldl (fun newKeys k =>
    match k.key with
    | .rsa rsaKey => newKeys.insert k.keyID rsaKey
    | .other => newKeys) ∅

variable {kid : GoString}

theorem collectKeys_lookup {K : Type} {keys : List (JWK K)}
    {key : RSAPublicKey K} (h : (collectKeys keys).lookup kid=some key) :
    ∃entry∈keys,entry.key=.rsa key := by
  induction keys using List.reverseRecOn with
  | nil => simp [collectKeys] at h
  | append_singleton keys entry ih =>
    have old (found : (collectKeys keys).lookup kid=some key) :
        ∃entry'∈keys++[entry],entry'.key=.rsa key := by
      obtain ⟨entry',mem,same⟩ := ih found
      exact ⟨entry',List.mem_append_left _ mem,same⟩
    unfold collectKeys at h
    rw [List.foldl_append,List.foldl_cons,List.foldl_nil] at h
    cases held : entry.key with
    | other =>
      rw [held] at h
      exact old h
    | rsa rsaKey =>
      rw [held] at h
      by_cases same : kid=entry.keyID
      · subst same
        rw [AList.lookup_insert] at h
        obtain rfl := Option.some.inj h
        exact ⟨entry,by simp,held⟩
      · rw [AList.lookup_insert_ne same] at h
        exact old h

namespace TokenVerifier
variable {K : Type}

def refreshJWKS (config : OIDCConfig) (v : TokenVerifier K) (fetch : GoString → JWKSAnswer K)
    (now : Time) : TokenVerifier K×Option Errorf :=
  match fetch config.endpoint with
  | .requestError text => (v,some ⟨"create JWKS request: %w",[.str text]⟩)
  | .fetchError text => (v,some ⟨"fetch JWKS: %w",[.str text]⟩)
  | .status code => (v,some ⟨"JWKS endpoint returned %d",[.int code]⟩)
  | .parseError text => (v,some ⟨"parse JWKS: %w",[.str text]⟩)
  | .keySet keys => (⟨collectKeys keys,now⟩,none)

def cachedKey (config : OIDCConfig) (v : TokenVerifier K) (kid : GoString) (now : Time) :
    Option (RSAPublicKey K) :=
  match v.publicKeys.lookup kid with
  | some key => if Time.sub now v.lastFetch < config.cacheTTL then some key else none
  | none => none

def fetchedKey (v : TokenVerifier K) (kid : GoString) : Except Errorf (RSAPublicKey K) :=
  match v.publicKeys.lookup kid with
  | some key => .ok key
  | none => .error ⟨"key %s not found in JWKS",[.str (String.ofList kid)]⟩

variable {v : TokenVerifier K} {now : Time}

theorem cachedKey_lookup {config : OIDCConfig}
    {key : RSAPublicKey K} (h : v.cachedKey config kid now=some key) :
    v.publicKeys.lookup kid=some key := by
  unfold cachedKey at h
  cases held : v.publicKeys.lookup kid with
  | none => simp [held] at h
  | some key' =>
    simp only [held,Option.ite_none_right_eq_some] at h
    exact h.2

theorem fetchedKey_lookup {key : RSAPublicKey K}
    (h : v.fetchedKey kid=.ok key) : v.publicKeys.lookup kid=some key := by
  unfold fetchedKey at h
  cases held : v.publicKeys.lookup kid with
  | none => simp [held] at h
  | some key' => simpa [held] using h

def getPublicKey (config : OIDCConfig) (v : TokenVerifier K) (kid : GoString) (since : Time)
    (fetch : GoString → JWKSAnswer K) (now : Time) :
    TokenVerifier K×Except Errorf (RSAPublicKey K) :=
  match v.cachedKey config kid since with
  | some key => (v,.ok key)
  | none =>
    match v.refreshJWKS config fetch now with
    | (v,some e) => (v,.error e)
    | (v,none) => (v,v.fetchedKey kid)

inductive KeyRequest where
  | secret (bytes : GoString)
  | kid (kid : GoString)

def keyRequest (config : OIDCConfig) (method : SigningMethod) (content : Content) :
    Except Errorf KeyRequest :=
  match method with
  | .rsa _ => .ok (.kid (content.kid.getD []))
  | .hmac _ => .ok (.secret config.clientID)
  | _ => .error ⟨"unexpected signing method: %v",[.str content.alg]⟩

variable {method : SigningMethod}

theorem keyRequest_secret {config : OIDCConfig} {content : Content}
    {bytes : GoString} (h : keyRequest config method content=.ok (.secret bytes)) :
    (∃hash,method=.hmac hash) ∧ bytes=config.clientID := by
  cases method with
  | hmac hash => simp_all [keyRequest]
  | _ => simp [keyRequest] at h

def leeway : Duration := 30*Duration.second

section
variable (J : JWT K) (config : OIDCConfig)

def examine (tokenString : GoString) : Except InvalidToken (Token K×SigningMethod×KeyRequest) :=
  match J.parse tokenString with
  | .error text => .error ⟨.malformed text⟩
  | .ok token =>
    match getSigningMethod token.content.alg with
    | none =>
        .error ⟨.unverifiable (.sentinel ⟨"signing method (alg) is unavailable.",[]⟩)⟩
    | some method =>
      match keyRequest config method token.content with
      | .error e => .error ⟨.unverifiable (.sentinel e)⟩
      | .ok request => .ok (token,method,request)

variable {token : Token K}

theorem examine_ok {tokenString : GoString}
    {request : KeyRequest} (h : examine J config tokenString=.ok (token,method,request)) :
    J.parse tokenString=.ok token ∧ getSigningMethod token.content.alg=some method ∧
      keyRequest config method token.content=.ok request := by
  unfold examine at h
  cases read : J.parse tokenString with
  | error text => simp [read] at h
  | ok token' =>
    cases known : getSigningMethod token'.content.alg with
    | none => simp [read,known] at h
    | some method' =>
      cases asked : keyRequest config method' token'.content with
      | error e => simp [read,known,asked] at h
      | ok request' =>
        simp only [read,known,asked,Except.ok.injEq] at h
        obtain ⟨rfl,rfl,rfl⟩ := h
        exact ⟨rfl,known,asked⟩

def keyFailure (e : Errorf) : InvalidToken :=
  ⟨.unverifiable (.errorf "failed to get public key: %w" (.sentinel e) [])⟩

variable [DecidableEq K]

def conclude (token : Token K) (method : SigningMethod) (key : VerificationKey K) (now : Time) :
    Except InvalidToken InferenceClaims :=
  if !token.verifies method key then .error ⟨.signatureInvalid⟩
  else
    match J.validateClaims config.issuerURL config.audience leeway now token.content.claims with
    | some text => .error ⟨.invalidClaims text⟩
    | none => .ok token.content.claims

def verify (v : TokenVerifier K) (tokenString : GoString) (since : Time)
    (fetch : GoString → JWKSAnswer K) (fetched now : Time) :
    TokenVerifier K×Except InvalidToken InferenceClaims :=
  match examine J config tokenString with
  | .error e => (v,.error e)
  | .ok (token,method,.secret bytes) => (v,conclude J config token method (.secret bytes) now)
  | .ok (token,method,.kid kid) =>
    match v.getPublicKey config kid since fetch fetched with
    | (v,.error e) => (v,.error (keyFailure e))
    | (v,.ok key) => (v,conclude J config token method (.publicKey key) now)

structure Waiting (K : Type) where
  token : Token K
  method : SigningMethod
  kid : GoString
  refreshed : Bool

structure System (K : Type) where
  verifier : TokenVerifier K
  waiting : GoMap Nat (Waiting K)

def newSystem (K : Type) : System K := ⟨newTokenVerifier K,∅⟩

inductive Event (K : Type) where
  | verify (g : Nat) (tokenString : GoString) (since now : Time)
  | refresh (g : Nat) (fetch : GoString → JWKSAnswer K) (now : Time)
  | lookAgain (g : Nat) (now : Time)

inductive Answer (K : Type) where
  | pending
  | rejected (error : InvalidToken)
  | accepted (token : Token K) (claims : InferenceClaims)

def answerOf (token : Token K) : Except InvalidToken InferenceClaims → Answer K
  | .error e => .rejected e
  | .ok claims => .accepted token claims

def step (s : System K) : Event K → System K×Answer K
  | .verify g tokenString since now =>
    match examine J config tokenString with
    | .error e => (s,.rejected e)
    | .ok (token,method,.secret bytes) =>
        (s,answerOf token (conclude J config token method (.secret bytes) now))
    | .ok (token,method,.kid kid) =>
      match s.verifier.cachedKey config kid since with
      | some key => (s,answerOf token (conclude J config token method (.publicKey key) now))
      | none => (⟨s.verifier,s.waiting.insert g ⟨token,method,kid,false⟩⟩,.pending)
  | .refresh g fetch now =>
    match s.waiting.lookup g with
    | some ⟨token,method,kid,false⟩ =>
      match s.verifier.refreshJWKS config fetch now with
      | (v,some e) => (⟨v,s.waiting.erase g⟩,.rejected (keyFailure e))
      | (v,none) => (⟨v,s.waiting.insert g ⟨token,method,kid,true⟩⟩,.pending)
    | _ => (s,.pending)
  | .lookAgain g now =>
    match s.waiting.lookup g with
    | some ⟨token,method,kid,true⟩ =>
      match s.verifier.fetchedKey kid with
      | .error e => (⟨s.verifier,s.waiting.erase g⟩,.rejected (keyFailure e))
      | .ok key =>
          (⟨s.verifier,s.waiting.erase g⟩,
            answerOf token (conclude J config token method (.publicKey key) now))
    | _ => (s,.pending)

abbrev History (K : Type) := List (Step (System K) (Event K) (Answer K))

variable {claims : InferenceClaims}

omit [DecidableEq K] in
theorem answerOf_accepted {token' : Token K} {o : Except InvalidToken InferenceClaims} :
    answerOf token o=.accepted token' claims ↔ token=token' ∧ o=.ok claims := by
  cases o <;> simp [answerOf]

structure Attacker (K : Type) where
  owns : K → Prop
  knows : GoString → Prop

inductive Attacker.Builds (a : Attacker K) : Token K → Prop
  | rsa (content covers : Content) (hash : Hash) (key : K) (own : a.owns key) :
      Builds a ⟨content,.rsa hash key covers⟩
  | hmac (content covers : Content) (hash : Hash) (secret : GoString) (known : a.knows secret) :
      Builds a ⟨content,.hmac hash secret covers⟩
  | bytes (content : Content) (b : GoString) : Builds a ⟨content,.bytes b⟩

def Withheld (a : Attacker K) : Event K → Prop
  | .refresh _ fetch _ =>
      ∀keys,fetch config.endpoint=.keySet keys → ∀entry∈keys,∀key,entry.key=.rsa ⟨key⟩ → ¬a.owns key
  | _ => True

def Serves (st : Step (System K) (Event K) (Answer K)) (key : K) : Prop :=
  ∃g fetch now w keys entry,st.call=.refresh g fetch now ∧
    st.before.waiting.lookup g=some w ∧ w.refreshed=false ∧
    fetch config.endpoint=.keySet keys ∧ entry∈keys ∧ entry.key=.rsa ⟨key⟩

def IssuerSigned (tr : History K) (token : Token K) : Prop :=
  ∃key hash,token.signature=.rsa hash key token.content ∧ ∃st∈tr,Serves config st key

def Authentic (a : Attacker K) (tr : History K) : Prop :=
  ∀st∈tr,∀token claims,st.answer=.accepted token claims →
    IssuerSigned config tr token ∧ ¬a.Builds token

def MacWithClientID : Event K → Prop
  | .verify _ tokenString _ now =>
      ∃token hash,J.parse tokenString=.ok token ∧
        getSigningMethod token.content.alg=some (.hmac hash) ∧
        token.signature=.hmac hash config.clientID token.content ∧
        J.validateClaims config.issuerURL config.audience leeway now token.content.claims=none
  | _ => False

theorem conclude_ok {key : VerificationKey K}
    (h : conclude J config token method key now=.ok claims) :
    token.verifies method key=true ∧
      J.validateClaims config.issuerURL config.audience leeway now token.content.claims=none := by
  unfold conclude at h
  cases signed : token.verifies method key with
  | false => simp [signed] at h
  | true =>
    cases checked : J.validateClaims config.issuerURL config.audience leeway now
        token.content.claims with
    | some text => simp [signed,checked] at h
    | none => exact ⟨rfl,rfl⟩

theorem verifies_publicKey {key : RSAPublicKey K}
    (h : token.verifies method (.publicKey key)=true) :
    ∃hash,token.signature=.rsa hash key.pair token.content := by
  cases method with
  | rsa hash => exact ⟨hash,of_decide_eq_true h⟩
  | _ => cases h

variable {s : System K} {e : Event K}

theorem step_accepted (h : (step J config s e).2=.accepted token claims) :
    MacWithClientID J config e ∨ ∃kid key hash,s.verifier.publicKeys.lookup kid=some ⟨key⟩ ∧
        token.signature=.rsa hash key token.content := by
  have signed {kid : GoString} {key : RSAPublicKey K} {method : SigningMethod}
      {token' : Token K} {now : Time} (held : s.verifier.publicKeys.lookup kid=some key)
      (accepts : answerOf token' (conclude J config token' method (.publicKey key) now)=
        .accepted token claims) :
      ∃kid key hash,s.verifier.publicKeys.lookup kid=some ⟨key⟩ ∧
        token.signature=.rsa hash key token.content := by
    obtain ⟨rfl,passed⟩ := answerOf_accepted.mp accepts
    obtain ⟨hash,made⟩ := verifies_publicKey (conclude_ok J config passed).1
    exact ⟨kid,key.pair,hash,held,made⟩
  cases e with
  | verify g tokenString since now =>
    simp only [step] at h
    cases chosen : examine J config tokenString with
    | error e => simp [chosen] at h
    | ok choice =>
      obtain ⟨token',_,request⟩ := choice
      rw [chosen] at h
      obtain ⟨read,known,asked⟩ := examine_ok J config chosen
      cases request with
      | secret bytes =>
        obtain ⟨rfl,passed⟩ := answerOf_accepted.mp h
        obtain ⟨made,valid⟩ := conclude_ok J config passed
        obtain ⟨⟨hash,rfl⟩,rfl⟩ := keyRequest_secret asked
        exact .inl ⟨token',hash,read,known,of_decide_eq_true made,valid⟩
      | kid kid =>
        cases cached : s.verifier.cachedKey config kid since with
        | none => simp [cached] at h
        | some key =>
          simp only [cached] at h
          exact .inr (signed (cachedKey_lookup cached) h)
  | refresh g fetch now =>
    simp only [step] at h
    split at h
    · split at h <;> cases h
    · cases h
  | lookAgain g now =>
    simp only [step] at h
    split at h
    · next token' method kid held =>
      cases found : s.verifier.fetchedKey kid with
      | error e => simp [found] at h
      | ok key =>
        simp only [found] at h
        exact .inr (signed (fetchedKey_lookup found) h)
    · cases h

theorem step_mac (mac : MacWithClientID J config e) :
    ∃token hash,token.signature=.hmac hash config.clientID token.content ∧
      (step J config s e).2=.accepted token token.content.claims := by
  cases e with
  | verify g tokenString since now =>
    obtain ⟨token,hash,read,known,made,valid⟩ := mac
    have fits : token.verifies (.hmac hash) (.secret config.clientID)=true :=
      decide_eq_true made
    refine ⟨token,hash,made,?_⟩
    simp [step,examine,read,known,keyRequest,conclude,fits,valid,answerOf]
  | refresh => cases mac
  | lookAgain => cases mac

theorem step_publicKeys {key : K}
    (h : (step J config s e).1.verifier.publicKeys.lookup kid=some ⟨key⟩) :
    s.verifier.publicKeys.lookup kid=some ⟨key⟩ ∨
      Serves config (stepOf (step J config) s e) key := by
  cases e with
  | verify g tokenString since now =>
    refine .inl ?_
    simp only [step] at h
    split at h
    · exact h
    · exact h
    · split at h <;> exact h
  | lookAgain g now =>
    refine .inl ?_
    simp only [step] at h
    split at h
    · split at h <;> exact h
    · exact h
  | refresh g fetch now =>
    cases held : s.waiting.lookup g with
    | none =>
      simp only [step,held] at h
      exact .inl h
    | some w =>
      obtain ⟨_,_,_,_ | _⟩ := w
      · cases answer : fetch config.endpoint with
        | keySet keys =>
          simp only [step,held,refreshJWKS,answer] at h
          obtain ⟨entry,mem,same⟩ := collectKeys_lookup h
          exact .inr ⟨g,fetch,now,_,keys,entry,rfl,held,rfl,answer,mem,same⟩
        | _ =>
          simp only [step,held,refreshJWKS,answer] at h
          exact .inl h
      · simp only [step,held] at h
        exact .inl h

structure Sourced (a : Attacker K) (tr : History K) (s : System K) : Prop where
  held : ∀kid key,s.verifier.publicKeys.lookup kid=some ⟨key⟩ → ∃st∈tr,Serves config st key
  foreign : ∀st∈tr,∀key,Serves config st key → ¬a.owns key

variable {a : Attacker K} {tr : History K}

theorem Sourced.step (sourced : Sourced config a tr s) (withheld : Withheld config a e) :
    Sourced config a (tr++[stepOf (step J config) s e]) (TokenVerifier.step J config s e).1 := by
  refine ⟨fun kid key h => ?_,forall_mem_snoc sourced.foreign fun key serves => ?_⟩
  · rcases step_publicKeys J config h with old | new
    · obtain ⟨st,mem,serves⟩ := sourced.held kid key old
      exact ⟨st,List.mem_append_left _ mem,serves⟩
    · exact ⟨_,by simp,new⟩
  · obtain ⟨g,fetch,now,w,keys,entry,call,-,-,answer,mem,same⟩ := serves
    obtain rfl : e=.refresh g fetch now := call
    exact withheld keys answer entry mem key same

omit [DecidableEq K] in
theorem Attacker.Builds.owns {hash : Hash} {key : K}
    {covers : Content} (built : a.Builds token) (made : token.signature=.rsa hash key covers) :
    a.owns key := by
  cases built with
  | rsa content covers' hash' key' own =>
    obtain ⟨-,rfl,-⟩ := Signature.rsa.inj made
    exact own
  | hmac => cases made
  | bytes => cases made

omit [DecidableEq K] in
theorem IssuerSigned.append
    (h : IssuerSigned config tr token) (st : Step (System K) (Event K) (Answer K)) :
    IssuerSigned config (tr++[st]) token := by
  obtain ⟨key,hash,made,st',mem,serves⟩ := h
  exact ⟨key,hash,made,st',List.mem_append_left _ mem,serves⟩

theorem authentic_iff (a : Attacker K) (events : List (Event K))
    (secret : ∀e∈events,Withheld config a e) :
    Always (step J config) (newSystem K) events (fun tr _ => Authentic config a tr) ↔
      EachCall (step J config) (newSystem K) events (fun _ _ e => ¬MacWithClientID J config e) := by
  refine always_iff_eachCall_of (step J config) (Sourced config a)
    (fun tr _ => Authentic config a tr) (fun _ _ e => Withheld config a e)
    ⟨fun kid key h => ?_,by simp⟩ (by simp [Authentic]) ?_ ?_ ?_
  · cases h
  · intro tr s e sourced good withheld clean
    refine ⟨sourced.step J config withheld,forall_mem_snoc ?_ ?_⟩
    · intro st old token claims accepted
      obtain ⟨signed,foreign⟩ := good st old token claims accepted
      exact ⟨signed.append config _,foreign⟩
    · intro token claims accepted
      obtain ⟨kid,key,hash,held,made⟩ := (step_accepted J config accepted).resolve_left clean
      obtain ⟨st,mem,serves⟩ := sourced.held kid key held
      refine ⟨⟨key,hash,made,st,List.mem_append_left _ mem,serves⟩,fun built => ?_⟩
      exact sourced.foreign st mem key serves (built.owns made)
  · intro tr s e sourced good withheld next mac
    obtain ⟨token,_,made,accepted⟩ := step_mac J config mac (s := s)
    obtain ⟨⟨_,_,made',_⟩,_⟩ := next (stepOf (step J config) s e) (by simp) token _ accepted
    exact absurd (made.symm.trans made') (by simp)
  · intro pre e reached
    exact secret e (reached.subset (by simp))

end

def publicConfig : OIDCConfig := ⟨['i'],['c'],['a'],[],Duration.second⟩

def inferenceContent (alg : String) : Content :=
  ⟨alg,some ['k'],{InferenceClaims.empty with issuer := ['i'], audience := [['a']]}⟩

def signedToken : Token Nat := ⟨inferenceContent "RS256",.rsa .sha256 0 (inferenceContent "RS256")⟩

def macToken : Token Nat :=
  ⟨inferenceContent "HS256",.hmac .sha256 ['c'] (inferenceContent "HS256")⟩

def twoTokens : JWT Nat where
  parse text :=
    if text=['s'] then .ok signedToken else if text=['m'] then .ok macToken
    else .error "token is malformed"
  validateClaims issuer audience _ _ claims :=
    if claims.issuer=issuer ∧ audience∈claims.audience then none
    else some "token has invalid claims"

def outsider : Attacker Nat := ⟨fun key => key=1,fun text => text∈[['i'],['c'],['a']]⟩

def serveKey : GoString → JWKSAnswer Nat := fun _ => .keySet [⟨['k'],.rsa ⟨0⟩⟩]

theorem signedToken_authentic : Always (step twoTokens publicConfig) (newSystem Nat)
      [.verify 0 ['s'] 0 0,.refresh 0 serveKey 0,.lookAgain 0 0]
      (fun tr _ => Authentic publicConfig outsider tr) := by
  refine (authentic_iff twoTokens publicConfig outsider _ ?_).mpr ?_
  · intro e he
    simp only [List.mem_cons,List.not_mem_nil,or_false] at he
    rcases he with rfl | rfl | rfl
    · trivial
    · rintro _ ⟨⟩ _ mem key same own
      obtain rfl := List.mem_singleton.mp mem
      obtain rfl : 0=key := by simpa using same
      exact absurd own Nat.zero_ne_one
    · trivial
  · intro pre e reached mac
    have he := reached.subset (List.mem_append_right pre (List.mem_singleton_self e))
    simp only [List.mem_cons,List.not_mem_nil,or_false] at he
    rcases he with rfl | rfl | rfl
    · obtain ⟨token,_,read,known,-⟩ := mac
      obtain rfl : signedToken=token := by simpa [twoTokens] using read
      have rsa : getSigningMethod signedToken.content.alg=some (.rsa .sha256) := rfl
      exact absurd (rsa.symm.trans known) (by simp)
    · exact mac
    · exact mac

theorem clientID_forges_token : outsider.Builds macToken ∧
      (verify twoTokens publicConfig (newTokenVerifier Nat) ['m'] 0 serveKey 0 0).2=
        .ok macToken.content.claims ∧
      ¬Always (step twoTokens publicConfig) (newSystem Nat) [.verify 0 ['m'] 0 0]
        (fun tr _ => Authentic publicConfig outsider tr) := by
  have built : outsider.Builds macToken := .hmac _ _ _ _ (by simp [outsider])
  refine ⟨built,rfl,fun law => ?_⟩
  have last := law _ (List.prefix_refl _) (stepOf (step twoTokens publicConfig) (newSystem Nat)
    (.verify 0 ['m'] 0 0)) (by simp [trace,stepOf]) macToken macToken.content.claims rfl
  exact last.2 built

end TokenVerifier

end KServeLLM.Auth
