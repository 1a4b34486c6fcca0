import ElvishMail.Mailworker.Classification
import ElvishMail.Mailworker.Attempts
import ElvishMail.Mailops.Interleaving
import ElvishMail.Keyvault.Locking
import ElvishMail.Elvishserver.Submission
import ElvishMail.Mailapp.Opening
import ElvishMail.Mailapp.Routing
import ElvishMail.Mailapp.Shown
import ElvishMail.Dkim.Verifier
import ElvishMail.Maillinks.Views
import ElvishMail.Httpserver.Enrolment
import ElvishMail.Mailops.Expiry
import ElvishMail.Mailapp.FilterAgreement
import ElvishMail.Mailapp.FilterLedger
import ElvishMail.Mailpipe.Blindness
import ElvishMail.Mailmeta.Visibility
import ElvishMail.Elvishserver.PlatformMail
import ElvishMail.Mailworker.KeptCopies
import ElvishMail.Httpserver.CodeRuns
import ElvishMail.Session.Separation
import ElvishMail.Httpserver.Pages
import ElvishMail.Httpserver.Defaults
import ElvishMail.Httpserver.Sealing
import ElvishMail.Httpserver.DeletionRuns
import ElvishMail.Httpserver.FolderFlags
import ElvishMail.Mailworker.Backoff
import ElvishMail.Elvishserver.Lockout
import ElvishMail.Httpserver.HeldNames
import ElvishMail.Search.Identities
import ElvishMail.Search.Replies
import ElvishMail.Httpserver.Disposables
import ElvishMail.Dkim.Splitting
import ElvishMail.Httpserver.BodyLines
import ElvishMail.Httpserver.HeaderFields
import ElvishMail.Httpserver.KeyDirectory
import ElvishMail.Mailops.Undo
import ElvishMail.Mailworker.FromField
import ElvishMail.Relaykey.Sharing
import ElvishMail.Smtp.Transactions
import ElvishMail.Httpserver.DueBatch
import ElvishMail.Httpserver.Enumeration
import ElvishMail.Httpserver.LinkLifetime
import ElvishMail.Httpserver.RecipientSummary
import ElvishMail.Mailauth.Mechanisms
import ElvishMail.Mailauth.Tags
import ElvishMail.Mailops.Settings
import ElvishMail.Smtp.Replies
import ElvishMail.Keyvault.TrustedDevice
import ElvishMail.Pake.Exchange
import ElvishMail.Httpserver.WebFinger
import ElvishMail.Httpserver.AdminSenders
import ElvishMail.Keyserver.Confinement
import ElvishMail.Httpserver.RedirectPath
import ElvishMail.Ratelimit.Limiter
import ElvishMail.Mailapp.BulkActions
import ElvishMail.Mailapp.ReplyDraft
import ElvishMail.Httpserver.SenderIcon
