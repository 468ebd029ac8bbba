import ReviewRouter.Page
import ReviewRouter.Proofs.Percent
import ReviewRouter.Session.Scripted
import ReviewRouter.Session.Server
import ReviewRouter.Shell
import ReviewRouter.View.Record
import ReviewRouter.Proofs.Segment
import ReviewRouter.Proofs.Pattern.Ends
import ReviewRouter.Proofs.Pattern.Row
import ReviewRouter.Proofs.Pattern.Spelling
import ReviewRouter.Proofs.Pattern.Only
import ReviewRouter.Proofs.Pattern.Parts
import ReviewRouter.Proofs.Pattern.Always
import ReviewRouter.Proofs.Route.Shape
import ReviewRouter.Proofs.Route.Dispatch
import ReviewRouter.Proofs.Route.Comma
import ReviewRouter.Proofs.Handling
import ReviewRouter.Proofs.Handlers
import ReviewRouter.Proofs.Exchanges
import ReviewRouter.Proofs.Navigation
import ReviewRouter.Proofs.Route.Fallback
import ReviewRouter.Proofs.Numeral
import ReviewRouter.Proofs.ChangePath
import ReviewRouter.Proofs.ChangeTail
import ReviewRouter.Proofs.Query
import ReviewRouter.Proofs.RoundTrip.Basic
import ReviewRouter.Proofs.RoundTrip.Change
import ReviewRouter.Proofs.RoundTrip.File
import ReviewRouter.Proofs.RoundTrip.Offset
import ReviewRouter.Proofs.RoundTrip.Search
import ReviewRouter.Proofs.RoundTrip.ListTail
import ReviewRouter.Proofs.RoundTrip.Administration
import ReviewRouter.Proofs.RoundTrip.Dashboard
import ReviewRouter.Proofs.RoundTrip.Names
import ReviewRouter.Proofs.RoundTrip.Comment
import ReviewRouter.Proofs.Redirect.Leads
import ReviewRouter.Proofs.Redirect.Path
import ReviewRouter.Proofs.PlainNames
import ReviewRouter.Proofs.Redirect.Collapse
import ReviewRouter.Proofs.Redirect.Outdated
import ReviewRouter.Proofs.Redirect.Weight
import ReviewRouter.Proofs.Redirect.Chain
import ReviewRouter.Proofs.Redirect.LegacyLink
import ReviewRouter.Proofs.Redirect.Endless
import ReviewRouter.Proofs.Access
import ReviewRouter.Proofs.Failures
import ReviewRouter.Proofs.Alike
import ReviewRouter.Proofs.Respelled
import ReviewRouter.Proofs.Presented
import ReviewRouter.Proofs.Redirect.Arrival
import ReviewRouter.Proofs.Canonical.Listings
import ReviewRouter.Proofs.Canonical.Inside
import ReviewRouter.Proofs.Canonical.Pages
import ReviewRouter.Proofs.Canonical.Ranges
import ReviewRouter.Proofs.Canonical.Changes
import ReviewRouter.Proofs.Canonical.Groups
import ReviewRouter.Proofs.Canonical.UserDashboard
import ReviewRouter.Proofs.Shell.Steps
import ReviewRouter.Proofs.Shell.LastWins
import ReviewRouter.Proofs.Shell.Window
import ReviewRouter.Proofs.Redirect.SignIn
import ReviewRouter.Proofs.Session.Memory
import ReviewRouter.Proofs.Session.Overlap
import ReviewRouter.Proofs.Records
import ReviewRouter.Proofs.ChangeNumber
import ReviewRouter.Proofs.Told
import ReviewRouter.Proofs.Redirect.OwnerSearch
import ReviewRouter.Proofs.Redirect.BareRepository
import ReviewRouter.Proofs.Redirect.ProjectLink
import ReviewRouter.Proofs.Redirect.Registration
import ReviewRouter.Proofs.Redirect.LegacyQuery
import ReviewRouter.Proofs.Redirect.LegacyLine
import ReviewRouter.Proofs.Redirect.LegacyTail
import ReviewRouter.Proofs.RoundTrip.Settings
import ReviewRouter.Proofs.Delimiters
import ReviewRouter.Proofs.JoinedQueries
import ReviewRouter.Proofs.ReservedNames
import ReviewRouter.Proofs.Settling
import ReviewRouter.Proofs.Spelled
import ReviewRouter.Proofs.RoundTrip.EmptyFilter
