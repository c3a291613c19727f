import KServeLLM.Framework.GoBytes

namespace KServeLLM.AIPack

open Bytes (ascii)

abbrev ArtifactKind := Bytes

def kindBaseModel : ArtifactKind := ascii "BaseModel"
def kindLoRA : ArtifactKind := ascii "LoRA"
def kindFineTune : ArtifactKind := ascii "FineTune"
def kindSkill : ArtifactKind := ascii "Skill"
def kindTool : ArtifactKind := ascii "Tool"
def kindMCPServer : ArtifactKind := ascii "MCPServer"
def kindPromptTemplate : ArtifactKind := ascii "PromptTemplate"
def kindGuardrail : ArtifactKind := ascii "Guardrail"
def kindRetrievalIndex : ArtifactKind := ascii "RetrievalIndex"
def kindDataset : ArtifactKind := ascii "Dataset"
def kindHarness : ArtifactKind := ascii "Harness"
def kindEval : ArtifactKind := ascii "Eval"
def kindWorkflow : ArtifactKind := ascii "Workflow"
def kindPolicyBundle : ArtifactKind := ascii "PolicyBundle"
def kindAgent : ArtifactKind := ascii "Agent"

abbrev ArtifactFamily := Bytes

inductive ErrorCode where
  | tagOnlyRef | slotTypeMismatch | rvRedBandBlocked | profileFamilyDenied | profilePredicateDenied
  deriving DecidableEq

def ErrorCode.text : ErrorCode → Bytes
  | tagOnlyRef => ascii "AIPACK-COMP-001"
  | slotTypeMismatch => ascii "AIPACK-COMP-004"
  | rvRedBandBlocked => ascii "AIPACK-RV-002"
  | profileFamilyDenied => ascii "AIPACK-PROFILE-001"
  | profilePredicateDenied => ascii "AIPACK-PROFILE-002"

structure AIPackError where
  code : ErrorCode
  (message detail : Bytes)
  deriving DecidableEq

def AIPackError.text (e : AIPackError) : Bytes :=
  let front := ascii "["++e.code.text++ascii "] "++e.message
  if e.detail≠[] then front++ascii ": "++e.detail else front

def predSLSAProvenance : Bytes := ascii "slsa.dev/provenance/v1"
def predCycloneDXBOM : Bytes := ascii "cyclonedx.org/bom"
def predAIBOM : Bytes := ascii "urn:aibom:spec:v1.5"
def predTrainingResidency : Bytes := ascii "urn:model:training-residency:v1"
def predLoRABaseRef : Bytes := ascii "urn:lora:base-ref:v1"
def predLoRAHyperparams : Bytes := ascii "urn:lora:hyperparameters:v1"
def predFineTuneHyperparams : Bytes := ascii "urn:finetune:hyperparameters:v1"
def predFineTuneBaseCompat : Bytes := ascii "urn:finetune:base-compat:v1"
def predSkillSafetyReview : Bytes := ascii "urn:skill:safety-review:v1"
def predSkillCapabilityDeclaration : Bytes := ascii "urn:skill:capability-declaration:v1"
def predSkillStaticAnalysis : Bytes := ascii "urn:skill:static-analysis:v1"
def predToolSchemaValidation : Bytes := ascii "urn:tool:schema-validation:v1"
def predToolStaticAnalysis : Bytes := ascii "urn:tool:static-analysis:v1"
def predMCPSandboxPolicy : Bytes := ascii "urn:mcp:sandbox-policy:v1"
def predMCPToolList : Bytes := ascii "urn:mcp:tool-list:v1"
def predPromptContentHash : Bytes := ascii "urn:prompt:content-hash:v1"
def predPromptJailbreakResistance : Bytes := ascii "urn:prompt:jailbreak-resistance:v1"
def predGuardrailCoverageTest : Bytes := ascii "urn:guardrail:coverage-test:v1"
def predGuardrailFPR : Bytes := ascii "urn:guardrail:fpr:v1"
def predRetrievalPIIScan : Bytes := ascii "urn:retrieval:pii-scan:v1"
def predRetrievalEmbedRef : Bytes := ascii "urn:retrieval:embedding-ref:v1"
def predDatasetProvenance : Bytes := ascii "urn:dataset:provenance:v1"
def predDatasetConsent : Bytes := ascii "urn:dataset:consent:v1"
def predDatasetLicensing : Bytes := ascii "urn:dataset:licensing:v1"
def predHarnessMethodology : Bytes := ascii "urn:eval-suite:methodology:v1"
def predHarnessReproducibility : Bytes := ascii "urn:eval-suite:reproducibility:v1"
def predAgentComposition : Bytes := ascii "urn:agent:composition:v1"
def predAgentBehavioralEval : Bytes := ascii "urn:agent:behavioral-eval:v1"
def predAgentPolicyCompliance : Bytes := ascii "urn:agent:policy-compliance:v1"

def predicateTable : List (ArtifactKind×List Bytes) :=
  [(kindBaseModel,[predSLSAProvenance,predCycloneDXBOM,predAIBOM,predTrainingResidency]),
   (kindLoRA,[predSLSAProvenance,predCycloneDXBOM,predLoRABaseRef,predLoRAHyperparams]),
   (kindFineTune,[predSLSAProvenance,predCycloneDXBOM,predFineTuneHyperparams,
     predFineTuneBaseCompat]),
   (kindSkill,[predSLSAProvenance,predCycloneDXBOM,predSkillSafetyReview,
     predSkillCapabilityDeclaration,predSkillStaticAnalysis]),
   (kindTool,[predSLSAProvenance,predCycloneDXBOM,predToolSchemaValidation,predToolStaticAnalysis]),
   (kindMCPServer,[predSLSAProvenance,predCycloneDXBOM,predMCPSandboxPolicy,predMCPToolList]),
   (kindPromptTemplate,[predSLSAProvenance,predCycloneDXBOM,predPromptContentHash,
     predPromptJailbreakResistance]),
   (kindGuardrail,[predSLSAProvenance,predCycloneDXBOM,predGuardrailCoverageTest,predGuardrailFPR]),
   (kindRetrievalIndex,[predSLSAProvenance,predCycloneDXBOM,predRetrievalPIIScan,
     predRetrievalEmbedRef]),
   (kindDataset,[predSLSAProvenance,predCycloneDXBOM,predDatasetProvenance,predDatasetConsent,
     predDatasetLicensing]),
   (kindHarness,[predSLSAProvenance,predCycloneDXBOM,predHarnessMethodology,
     predHarnessReproducibility]),
   (kindEval,[predSLSAProvenance,predCycloneDXBOM]),
   (kindWorkflow,[predSLSAProvenance,predCycloneDXBOM]),
   (kindPolicyBundle,[predSLSAProvenance,predCycloneDXBOM]),
   (kindAgent,[predSLSAProvenance,predCycloneDXBOM,predAgentComposition,predAgentBehavioralEval,
     predAgentPolicyCompliance])]

def requiredPredicates (kind : ArtifactKind) : List Bytes := (predicateTable.lookup kind).getD []

def missingPredicates (kind : ArtifactKind) (present : List Bytes) : List Bytes :=
  (requiredPredicates kind).filter fun r => r∉present

end KServeLLM.AIPack
