import Ascos.Acceptance.Attainability
import Ascos.Authentication.Authority
import Ascos.CodingProviders.PatchPolicy
import Ascos.CodingReview.Model
import Ascos.CodingReview.Provider
import Ascos.CustomerAcceptance.Authority
import Ascos.CustomerEvidence.Reviews
import Ascos.CustomerPlanning.Files
import Ascos.CustomerPlanning.Records
import Ascos.CustomerPlanning.Requirements
import Ascos.CustomerPlanning.RequirementsAuthority
import Ascos.CustomerPlanning.RequirementsHistory
import Ascos.GitHubDelivery.Publication
import Ascos.Implementation.CommittedTree
import Ascos.Implementation.Gate
import Ascos.Implementation.Repository
import Ascos.Knowledge.Scanner
import Ascos.Library.Concurrency
import Ascos.Library.SharedFiles
import Ascos.Library.Tracking
import Ascos.ManagedExecution.Policy
import Ascos.ManagedProduct.Browser
import Ascos.ManagedProduct.BrowserStores
import Ascos.ManagedProduct.Commands
import Ascos.Orchestration.Plan
import Ascos.Outbox.Attempts
import Ascos.Outbox.Budget
import Ascos.Outbox.Interleaving
import Ascos.Outbox.Lifecycle
import Ascos.Outbox.ProviderEquivalence
import Ascos.Outbox.ReconciliationClaims
import Ascos.Outbox.Redispatch
import Ascos.Outbox.ResultHistory
import Ascos.Outbox.Rollback
import Ascos.Outbox.Serde
import Ascos.Persistence.CheckpointFiles
import Ascos.Persistence.EventStorage
import Ascos.Persistence.Isolation
import Ascos.Persistence.LeaseFencing
import Ascos.Persistence.Postgres
import Ascos.ProductDelivery.Intake
import Ascos.ProductDelivery.MergeGate
import Ascos.ProductPilot.Chain
import Ascos.ProjectManager.Soundness
import Ascos.Projects.Registry
import Ascos.Providers.Routing
import Ascos.Releases.Publication
import Ascos.Releases.Versions
import Ascos.Requirements.Immutability
import Ascos.Requirements.Validation
import Ascos.Runtime.Attempts
import Ascos.Runtime.Causation
import Ascos.Runtime.Checkpoints
import Ascos.Runtime.Delivery
import Ascos.Tasks.Atomicity
import Ascos.Tasks.Lifecycle
import Ascos.Tools.GitStatus
import Ascos.ProductPilot.Deployment
import Ascos.V1Hardening.Acceptance
