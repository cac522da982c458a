import MailTemplate.Json.Reader
import MailTemplate.Json.Writer
import MailTemplate.Block.Untyped
import MailTemplate.Block.Loose
import MailTemplate.Document.Stored
import MailTemplate.Service
import MailTemplate.Proofs.Html.Placeholders
import MailTemplate.Proofs.Session.Reachable
import MailTemplate.Proofs.Compiled
import MailTemplate.Proofs.Session.Refusals
import MailTemplate.Proofs.Document.RoundTrip
import MailTemplate.Proofs.Service
import MailTemplate.Proofs.Document.Repair
import MailTemplate.Proofs.Document.Update
import MailTemplate.Proofs.Document.Rebuilding
import MailTemplate.Proofs.Document.KeptContent
import MailTemplate.Proofs.Document.Reloading
import MailTemplate.Proofs.Document.Sizes
import MailTemplate.Proofs.Block.Shown
import MailTemplate.Proofs.Session.Travel
import MailTemplate.Proofs.Placeholder.Names
import MailTemplate.Proofs.Pixels
import MailTemplate.Proofs.PlainText
import MailTemplate.Proofs.Recompiling
