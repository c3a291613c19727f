import KServeLLM.Inference.Coalescer
import KServeLLM.Protocol.TensorRoundTrip
import KServeLLM.Protocol.TensorSafety
import KServeLLM.Storage.DownloadResume
import KServeLLM.Inference.CircuitBreaker
import KServeLLM.Inference.CacheIsolation
import KServeLLM.Api.ConversionExtra
import KServeLLM.Residency.Convergence
import KServeLLM.Auth.TokenBudget
import KServeLLM.Auth.TokenVerifier
import KServeLLM.Kernel.GovernanceGate
import KServeLLM.Kernel.CacheFrame
import KServeLLM.Kernel.Transfer
import KServeLLM.Validation.Receipt
import KServeLLM.Kernel.CompositionGate
import KServeLLM.Evidence.CrossChannel
import KServeLLM.Controller.SessionLifecycle
import KServeLLM.Autoscaler.SingleKind
import KServeLLM.Airgap.Transfer
import KServeLLM.AIPack.Composition
import KServeLLM.AIPack.Policy
import KServeLLM.Governance.AIPackEvidence
import KServeLLM.Controller.LoraGovernance
import KServeLLM.Controller.CacheSharing
import KServeLLM.Controller.CacheLeak
import KServeLLM.Controller.CacheReadiness
import KServeLLM.Residency.Deadlines
import KServeLLM.Controller.OnboardingProgress
import KServeLLM.Kernel.HandoffAtomicity
import KServeLLM.Storage.OciReference
import KServeLLM.Inference.Preloader
import KServeLLM.Inference.LoRACapacity
import KServeLLM.Inference.ResultChannels
import KServeLLM.Scheduler.DequeueOrder
import KServeLLM.Auth.RotationDeadline
import KServeLLM.AccessPlane.Catalog
import KServeLLM.Kernel.ModeHistory
import KServeLLM.Kernel.CacheDenial
import KServeLLM.Kernel.TierChanges
import KServeLLM.Kernel.LineageChain
import KServeLLM.Initializer.SkipChecksum
import KServeLLM.Storage.S3Listing
import KServeLLM.Evidence.Retention
import KServeLLM.Observability.HistoryCommitment
import KServeLLM.Controller.ActorReconciler
import KServeLLM.Airgap.LevelOrder
import KServeLLM.Governance.StatePlanes
import KServeLLM.Controller.LoraRegister
import KServeLLM.Controller.CacheEviction
import KServeLLM.Inference.AdaptiveTimeout
