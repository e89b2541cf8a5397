import Placeholders.Json.Writer
import Placeholders.Main
import Placeholders.Proofs.Pattern.Literal
import Placeholders.Proofs.Resolver.Leftover
import Placeholders.Proofs.Resolver.Queue
import Placeholders.Proofs.Template
import Placeholders.Proofs.Resolver.Outcome
import Placeholders.Proofs.Resolver.Policy
import Placeholders.Proofs.Resolver.Words
import Placeholders.Proofs.Text.Chunk
import Placeholders.Proofs.Resolver.Simultaneous
import Placeholders.Proofs.Resolver.FirstLeftover
import Placeholders.Proofs.Resolver.Session
import Placeholders.Proofs.RuleTable.History
import Placeholders.Proofs.Resolver.Bulk
import Placeholders.Proofs.Render.Override
import Placeholders.Proofs.Pattern.Front
import Placeholders.Proofs.Resolver.Untouched
import Placeholders.Proofs.Resolver.Settled
import Placeholders.Proofs.Config.Build
import Placeholders.Proofs.Resolver.ReadBack
import Placeholders.Proofs.FileSystem
import Placeholders.Proofs.Host
import Placeholders.Proofs.Render.OneShot
import Placeholders.Proofs.Render.Trace
import Placeholders.Proofs.Template.Segments
import Placeholders.Proofs.Filter.Sequence
import Placeholders.Proofs.Pattern.Splice
import Placeholders.Proofs.Filter.Splitting
import Placeholders.Proofs.Filter.Joining
import Placeholders.Proofs.Filter.RoundTrip
import Placeholders.Proofs.Config.Check
import Placeholders.Proofs.Config.RoundTrip
import Placeholders.Proofs.Listing
