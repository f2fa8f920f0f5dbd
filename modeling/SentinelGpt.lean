import SentinelGpt.TransactionRuns
import SentinelGpt.FallbackTemplates
import SentinelGpt.AnalysisFailClosed
import SentinelGpt.Grounding
import SentinelGpt.HttpAnalysis
import SentinelGpt.UrlSplit
import SentinelGpt.ScanEdges
import SentinelGpt.LifecycleHistory
import SentinelGpt.RefreshSessions
import SentinelGpt.RefreshContract
import SentinelGpt.RefreshRuns
import SentinelGpt.ReuseDetection
import SentinelGpt.LogoutRevocation
import SentinelGpt.HttpContract
import SentinelGpt.HttpEngine
import SentinelGpt.FindingIdentity
import SentinelGpt.ScanAdmission
import SentinelGpt.ScanMoves
import SentinelGpt.ScanRequests
import SentinelGpt.ScanObligations
import SentinelGpt.RequestObligations
import SentinelGpt.ScanRuns
import SentinelGpt.ExecutionClosure
import SentinelGpt.AuditTrail
import SentinelGpt.ExecutionAuthorization
import SentinelGpt.ScanHandover
import SentinelGpt.ResultPublication
import SentinelGpt.ChainLaunches
import SentinelGpt.ScanCompletion
import SentinelGpt.ScanResults
import SentinelGpt.CallProgram
import SentinelGpt.SandboxPolicy
import SentinelGpt.ScanExecutor
import SentinelGpt.DockerSandbox
import SentinelGpt.SandboxSessions
import SentinelGpt.SandboxReaping
import SentinelGpt.PythonNumbers
import SentinelGpt.UrlJoin
import SentinelGpt.ExecFrames
import SentinelGpt.TargetNormalization
import SentinelGpt.MappedHosts
import SentinelGpt.CookieValues
import SentinelGpt.HttpTransport
import SentinelGpt.TransportWalks
import SentinelGpt.TransportSafety
import SentinelGpt.TransportReach
import SentinelGpt.TransportFailures
import SentinelGpt.AuditQuery
import SentinelGpt.FindingExplanation
import SentinelGpt.FallbackKeys
import SentinelGpt.TargetAcceptance
import SentinelGpt.TransportLoops
import SentinelGpt.UrlText
import SentinelGpt.RedirectGate
import SentinelGpt.RedirectResolution
import SentinelGpt.AddressTexts
import SentinelGpt.AddressAgreement
import SentinelGpt.NormalizedUrls
import SentinelGpt.NormalizationTwice
import SentinelGpt.TargetOrigins
import SentinelGpt.TargetIdentity
import SentinelGpt.LoopDict
import SentinelGpt.ReportAssembler
import SentinelGpt.ReportFaithfulness
import SentinelGpt.ScanComparison
import SentinelGpt.GraphSearch
import SentinelGpt.HttpWorkload
import SentinelGpt.JsonRoundTrip
import SentinelGpt.FrameRoundTrip
import SentinelGpt.CandidateGroups
import SentinelGpt.CursorCodec
import SentinelGpt.KeysetPages
import SentinelGpt.FingerprintPreimage
import SentinelGpt.ReferenceAccounting
import SentinelGpt.TargetPages
import SentinelGpt.EvidenceIdentity
import SentinelGpt.CookieAgreement
import SentinelGpt.EgressInstallation
import SentinelGpt.ReportExports
import SentinelGpt.TenancyChecks
import SentinelGpt.TenancyRecords
import SentinelGpt.JournalRuns
import SentinelGpt.UniqueRows
import SentinelGpt.AccountRuns
