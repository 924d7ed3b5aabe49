import EntrySearch.CommandLine.Run
import EntrySearch.Exchange.Session
import EntrySearch.Proofs.CommandLine.AllOrNothing
import EntrySearch.Proofs.CommandLine.Connection
import EntrySearch.Proofs.CommandLine.Failures
import EntrySearch.Proofs.CommandLine.Preview
import EntrySearch.Proofs.CommandLine.PrintedHits
import EntrySearch.Proofs.Exchange.Patience
import EntrySearch.Proofs.Journal.LastSetup
import EntrySearch.Proofs.Search.Account
import EntrySearch.Proofs.Search.Batches
import EntrySearch.Proofs.Search.CalendarTexts
import EntrySearch.Proofs.Search.CanonicalTerms
import EntrySearch.Proofs.Search.Flags
import EntrySearch.Proofs.Search.JoinedTexts
import EntrySearch.Proofs.Search.Matching
import EntrySearch.Proofs.Search.NormalForm
import EntrySearch.Proofs.Search.PageSize
import EntrySearch.Proofs.Search.PatternRoundTrip
import EntrySearch.Proofs.Search.PropertySegments
import EntrySearch.Proofs.Search.QueryString
import EntrySearch.Proofs.Search.Rendering
import EntrySearch.Proofs.Search.Responses
import EntrySearch.Proofs.Search.Spelling
import EntrySearch.Proofs.Search.TimestampOrder
import EntrySearch.Proofs.Search.Uses
import EntrySearch.Proofs.Search.WellFormed
import EntrySearch.Proofs.Settings.Depth
import EntrySearch.Proofs.Settings.Layering
import EntrySearch.Proofs.Settings.Loading
import EntrySearch.Proofs.Settings.Refusals
