import LinkPreview.Amqp.Holder
import LinkPreview.Http.Site
import LinkPreview.Proofs.Amqp.Closing
import LinkPreview.Proofs.Amqp.Publishing
import LinkPreview.Proofs.Amqp.Settling
import LinkPreview.Proofs.Amqp.Single
import LinkPreview.Proofs.Decoding
import LinkPreview.Proofs.Entrances
import LinkPreview.Proofs.Fetch
import LinkPreview.Proofs.Html.Building
import LinkPreview.Proofs.Html.Change
import LinkPreview.Proofs.Html.DocumentOrder
import LinkPreview.Proofs.Html.Formatting
import LinkPreview.Proofs.Html.Inserting
import LinkPreview.Proofs.Html.Reading
import LinkPreview.Proofs.Html.Rules
import LinkPreview.Proofs.Html.Title
import LinkPreview.Proofs.Html.TitleTag
import LinkPreview.Proofs.Html.Tree
import LinkPreview.Proofs.Html.Written
import LinkPreview.Proofs.Html.WrittenTag
import LinkPreview.Proofs.Html.WrittenTitle
import LinkPreview.Proofs.Http.Endpoint
import LinkPreview.Proofs.Http.Form
import LinkPreview.Proofs.Http.Head
import LinkPreview.Proofs.Http.Preview
import LinkPreview.Proofs.Json.Document
import LinkPreview.Proofs.Json.Meaning
import LinkPreview.Proofs.Json.Members
import LinkPreview.Proofs.Json.Text
import LinkPreview.Proofs.Json.Value
import LinkPreview.Proofs.Json.Words
import LinkPreview.Proofs.Message
import LinkPreview.Proofs.Moment.Clock
import LinkPreview.Proofs.Moment.Instant
import LinkPreview.Proofs.Moment.Reading
import LinkPreview.Proofs.Outcome
import LinkPreview.Proofs.Page.DocumentTitle
import LinkPreview.Proofs.Page.Fields
import LinkPreview.Proofs.Page.FirstIcon
import LinkPreview.Proofs.Page.IconAddress
import LinkPreview.Proofs.Page.WrittenFields
import LinkPreview.Proofs.Queue.Attempts
import LinkPreview.Proofs.Queue.Cancellation
import LinkPreview.Proofs.Queue.Chronicle
import LinkPreview.Proofs.Queue.Completion
import LinkPreview.Proofs.Queue.Feedback
import LinkPreview.Proofs.Queue.History
import LinkPreview.Proofs.Queue.Intake
import LinkPreview.Proofs.Queue.Order
import LinkPreview.Proofs.Queue.Outcomes
import LinkPreview.Proofs.Queue.Pool
import LinkPreview.Proofs.Queue.Prefetch
import LinkPreview.Proofs.Queue.Sequence
import LinkPreview.Proofs.Queue.Sessions
import LinkPreview.Proofs.Queue.Settlements
import LinkPreview.Proofs.Queue.Transition
import LinkPreview.Proofs.Queue.Turns
import LinkPreview.Proofs.Redirects
import LinkPreview.Proofs.Settings
import LinkPreview.Proofs.Settings.File
import LinkPreview.Proofs.Text.Blank
import LinkPreview.Proofs.Text.Character
import LinkPreview.Proofs.Text.Numeral
import LinkPreview.Proofs.Text.Utf8
import LinkPreview.Proofs.Url.Acceptance
import LinkPreview.Proofs.Url.BeforePath
import LinkPreview.Proofs.Url.Percent
import LinkPreview.Proofs.Url.UserInfo
import LinkPreview.Proofs.Url.WrittenHost
import LinkPreview.Queue.Report
import LinkPreview.Queue.Schedule
import LinkPreview.Service.Run
import LinkPreview.Settings.File
