import Dcvp.Database
import Dcvp.Js
import Dcvp.Js.Number
import Dcvp.Js.Units
import Dcvp.Json
import Dcvp.Lib.Agreement
import Dcvp.Lib.AsyncCalls
import Dcvp.Lib.BinaryText
import Dcvp.Lib.ChangeLog
import Dcvp.Lib.CommandLine
import Dcvp.Lib.Delimited
import Dcvp.Lib.FixedWindow
import Dcvp.Lib.IpAddress
import Dcvp.Lib.JobQueue
import Dcvp.Lib.Link
import Dcvp.Lib.Lockout
import Dcvp.Lib.Machine
import Dcvp.Lib.OncePer
import Dcvp.Lib.OrderedMap
import Dcvp.Lib.Race
import Dcvp.Lib.Replacement
import Dcvp.Lib.RoutePath
import Dcvp.Lib.Slot
import Dcvp.Lib.StableSort
import Dcvp.Lib.Upsert
import Dcvp.Modules.AdminUsersController
import Dcvp.Modules.AiController
import Dcvp.Modules.AppModule
import Dcvp.Modules.ProctorGateway
import Dcvp.Proofs.AccountReads
import Dcvp.Proofs.AccountWorkflows
import Dcvp.Proofs.AuthSessionRegistry
import Dcvp.Proofs.BoundedResponse
import Dcvp.Proofs.CandidateProctorStream
import Dcvp.Proofs.CandidateSignals
import Dcvp.Proofs.CandidateStatus
import Dcvp.Proofs.CodeRunnerAdmission
import Dcvp.Proofs.CodeRunnerDocker
import Dcvp.Proofs.CodeRunnerOrder
import Dcvp.Proofs.ControllerStatements
import Dcvp.Proofs.Dashboard
import Dcvp.Proofs.DeviceDisconnects
import Dcvp.Proofs.EmailDelivery
import Dcvp.Proofs.EmailTemplate
import Dcvp.Proofs.EnvironmentCheckEvidence
import Dcvp.Proofs.EnvironmentDecision
import Dcvp.Proofs.ExamClock
import Dcvp.Proofs.ExamCompletion
import Dcvp.Proofs.ExamGate
import Dcvp.Proofs.ExamLock
import Dcvp.Proofs.ExamUpdate
import Dcvp.Proofs.GrantedRoles
import Dcvp.Proofs.HiddenTests
import Dcvp.Proofs.IdentityDecision
import Dcvp.Proofs.InitialAdmin
import Dcvp.Proofs.InvitationAcceptance
import Dcvp.Proofs.JoinOrigin
import Dcvp.Proofs.JudgeResults
import Dcvp.Proofs.LastOperator
import Dcvp.Proofs.LiveProctorDashboard
import Dcvp.Proofs.LoginLockout
import Dcvp.Proofs.LostUpdates
import Dcvp.Proofs.MemoryRecords
import Dcvp.Proofs.MemorySweep
import Dcvp.Proofs.OperationsReadiness
import Dcvp.Proofs.OperatorOrigin
import Dcvp.Proofs.OutboundConnections
import Dcvp.Proofs.PasswordKdf
import Dcvp.Proofs.PasswordUpgrade
import Dcvp.Proofs.PendingItems
import Dcvp.Proofs.PrivacyMasking
import Dcvp.Proofs.ProctorHistory
import Dcvp.Proofs.ProctorIceServers
import Dcvp.Proofs.ProctorRooms
import Dcvp.Proofs.ProctorSocket
import Dcvp.Proofs.RateLimit
import Dcvp.Proofs.RejectedCalls
import Dcvp.Proofs.ReportGeneration
import Dcvp.Proofs.ReportScores
import Dcvp.Proofs.RequestGuards
import Dcvp.Proofs.RequestReview
import Dcvp.Proofs.RiskScore
import Dcvp.Proofs.RoomMembership
import Dcvp.Proofs.SessionOrganizations
import Dcvp.Proofs.SessionRevocation
import Dcvp.Proofs.SignalScope
import Dcvp.Proofs.SignupApproval
import Dcvp.Proofs.StaleSessions
import Dcvp.Proofs.StaleSweep
import Dcvp.Proofs.StorableScores
import Dcvp.Proofs.StoreFrames
import Dcvp.Proofs.StoredRecords
import Dcvp.Proofs.SubmissionFaults
import Dcvp.Proofs.TenantPart
import Dcvp.Proofs.TenantProtection
import Dcvp.Proofs.TenantReads
import Dcvp.Proofs.Termination
import Dcvp.Proofs.TimeLimit
import Dcvp.Proofs.TypedCode
import Dcvp.Proofs.WorkspaceGate
import Dcvp.Services.AccountInput
import Dcvp.Services.AccountReads
import Dcvp.Services.AccountWorkflows
import Dcvp.Services.AdminUsers
import Dcvp.Services.AiEvaluation
import Dcvp.Services.AuthService
import Dcvp.Services.AuthSessionRegistry
import Dcvp.Services.BoundedResponse
import Dcvp.Services.CodeRunnerDocker
import Dcvp.Services.CodeRunnerJudge
import Dcvp.Services.EmailDelivery
import Dcvp.Services.EmailTemplate
import Dcvp.Services.IdentityVerification
import Dcvp.Services.InitialAdmin
import Dcvp.Services.LoginRateLimiter
import Dcvp.Services.OperationsReadiness
import Dcvp.Services.OrganizationInvitations
import Dcvp.Services.OrganizationRequests
import Dcvp.Services.OutboundHttpSecurity
import Dcvp.Services.PasswordHashText
import Dcvp.Services.PlatformStore.CandidateAdmin
import Dcvp.Services.PlatformStore.CandidatePortal
import Dcvp.Services.PlatformStore.CandidateWorkspace
import Dcvp.Services.PlatformStore.ExamAdmin
import Dcvp.Services.PlatformStore.ExamGate
import Dcvp.Services.PlatformStore.ExamUpdate
import Dcvp.Services.PlatformStore.Execution
import Dcvp.Services.PlatformStore.IdentityEnvironment
import Dcvp.Services.PlatformStore.Mappers
import Dcvp.Services.PlatformStore.Proctor
import Dcvp.Services.PlatformStore.Reads
import Dcvp.Services.PlatformStore.Records
import Dcvp.Services.PlatformStore.Report
import Dcvp.Services.PlatformStore.Service
import Dcvp.Services.PlatformStore.StoreDatabase
import Dcvp.Services.PlatformStore.StoreMethods
import Dcvp.Services.PlatformStore.StoreOperations
import Dcvp.Services.PublicUrlConfig
import Dcvp.Web.CandidateDraft
import Dcvp.Web.CandidateExamWorkspace
import Dcvp.Web.CandidateProctorStream
import Dcvp.Web.LiveProctorDashboard
import Dcvp.Web.PrivacyMasking
import Dcvp.Web.ProctorIceServers
import Dcvp.Web.ProctorSocket
