import MysticAuth.Accounts.AccountSeparation
import MysticAuth.Authorization.GuardCache
import MysticAuth.Authorization.NoEscalation
import MysticAuth.Tokens.AccountPurge
import MysticAuth.Tokens.CredentialRevocation
import MysticAuth.Tokens.LineageRevocation
import MysticAuth.Tokens.LogoutRevocation
import MysticAuth.Tokens.ReuseDetection
import MysticAuth.Tokens.SingleUse
import MysticAuth.Authorization.ActionRevocation
import MysticAuth.Authorization.GuardedUpdates
import MysticAuth.Confirmation.MutualExclusion
import MysticAuth.OAuth.OAuth2Login
import MysticAuth.OAuth.StepUpStates
import MysticAuth.Authorization.SuperuserLockout
import MysticAuth.Confirmation.ResetLinks
import MysticAuth.Authorization.CacheCoherence
import MysticAuth.Tokens.VersionGrowth
import MysticAuth.Confirmation.StepUpFreshness
import MysticAuth.Authorization.AcceptedConditions
import MysticAuth.Authorization.BulkGrants
import MysticAuth.Accounts.RoleChange
import MysticAuth.Authorization.PolicyHistoryChain
import MysticAuth.Accounts.BaselinePolicy
import MysticAuth.Accounts.OutboxClaims
import MysticAuth.Browser.SessionDeath
import MysticAuth.Browser.RefreshLease
import MysticAuth.Tokens.RevokedRows
import MysticAuth.JavaScript.Number
import MysticAuth.Users.MatchingEmails
import MysticAuth.Users.SelectionShown
import MysticAuth.Users.ChunkedReports
import MysticAuth.Authorization.BulkRemovalAgreement
import MysticAuth.Authorization.RollbackExactness
import MysticAuth.Python.FloatText
import MysticAuth.Python.JsonText
import MysticAuth.Authorization.GrantCacheCodec
import MysticAuth.Authorization.ConditionLimits
import MysticAuth.Tokens.MirrorRows
import MysticAuth.Confirmation.ResetAtomicity
import MysticAuth.Security.CounterExpiry
import MysticAuth.Security.RefusedSignIns
import MysticAuth.Security.AccountBrake
import MysticAuth.SessionEvents.LeaseCaps
import MysticAuth.SessionEvents.Delivery
import MysticAuth.SessionEvents.Revocation
import MysticAuth.Security.ClientIp
import MysticAuth.Passkeys.Registration
import MysticAuth.Authorization.ChangeNotices
import MysticAuth.Policies.Grantability
import MysticAuth.Authorization.ConflictReport
import MysticAuth.Authorization.PermissionUsage
import MysticAuth.Users.PermissionFilter
import MysticAuth.Policies.ActionToggles
import MysticAuth.Policies.UnsavedEdits
import MysticAuth.Policies.OptimisticActivity
import MysticAuth.Browser.RotationWaits
import MysticAuth.Users.SearchText
import MysticAuth.RateLimiting.ScanPages
import MysticAuth.RateLimiting.KeyPatterns
import MysticAuth.Audit.Redaction
import MysticAuth.Audit.LoginTrend
import MysticAuth.Security.IpBuckets
import MysticAuth.Logging.PiiRedaction
import MysticAuth.Security.HashGate
import MysticAuth.Authorization.ContextClock
import MysticAuth.Users.UserExport
import MysticAuth.RateLimiting.IdentifierLabels
import MysticAuth.Policies.ShownGrants
import MysticAuth.Confirmation.DeletionLinks
import MysticAuth.Tokens.IdentifierMigration
import MysticAuth.Accounts.EventDelivery
