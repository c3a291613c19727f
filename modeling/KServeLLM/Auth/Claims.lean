import KServeLLM.Framework.GoTypes
import KServeLLM.Framework.GoStrings

namespace KServeLLM.Auth

structure InferenceClaims where
  (issuer subject : GoString)
  audience : List GoString
  (expiresAt notBefore issuedAt : Option Time)
  scope : GoString
  modelAccess : List GoString
  tokenBudget : Int64
  tenantID : GoString
  deriving DecidableEq

def InferenceClaims.empty : InferenceClaims := ⟨[],[],[],none,none,none,[],[],0,[]⟩

def allowsModel (access : List GoString) (model : GoString) : Bool :=
  if access.length=0 then true else access.any fun m => decide (m=model ∨ m=['*'])

def InferenceClaims.canAccessModel (c : InferenceClaims) (model : GoString) : Bool :=
  allowsModel c.modelAccess model

end KServeLLM.Auth
