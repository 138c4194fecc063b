import PromptStudio.Config
import PromptStudio.Prompt.Lint
import PromptStudio.Proofs.Admission.Run
import PromptStudio.Remote.Script
import PromptStudio.Remote.Wire
import PromptStudio.Service.Serve
import PromptStudio.Proofs.Admission.Windows
import PromptStudio.Proofs.Admission.Pruning
import PromptStudio.Proofs.Project.Shelf
import PromptStudio.Proofs.Service.Run
import PromptStudio.Proofs.Project.Isolation
import PromptStudio.Proofs.Cache.Run
import PromptStudio.Proofs.Lookup.Origin
import PromptStudio.Proofs.Lookup.Keys
import PromptStudio.Proofs.Lookup.Address
import PromptStudio.Proofs.Service.Stores
import PromptStudio.Proofs.Prompt.RoundTrip
import PromptStudio.Proofs.Cache.Holdings
import PromptStudio.Proofs.Lookup.Turns
import PromptStudio.Proofs.Lookup.Policies
import PromptStudio.Proofs.Lookup.Misses
import PromptStudio.Proofs.Lookup.Schedules
import PromptStudio.Proofs.Service.Counting
import PromptStudio.Proofs.Admission.Budgets
import PromptStudio.Proofs.Admission.Bursts
import PromptStudio.Proofs.Project.History
import PromptStudio.Proofs.Lookup.Parameters
import PromptStudio.Proofs.Service.Egress
import PromptStudio.Proofs.Lookup.Ranking
import PromptStudio.Proofs.Service.Rejected
import PromptStudio.Proofs.Lookup.Failures
import PromptStudio.Proofs.Service.Answers
import PromptStudio.Proofs.Lookup.Absorption
import PromptStudio.Proofs.Text.Splitting
import PromptStudio.Proofs.Binary64.Order
import PromptStudio.Proofs.Prompt.Weights
import PromptStudio.Proofs.Prompt.Composition
import PromptStudio.Proofs.Prompt.Content
import PromptStudio.Proofs.Text.Lowering
import PromptStudio.Proofs.Prompt.Phrases
import PromptStudio.Proofs.Prompt.Cues
import PromptStudio.Proofs.Prompt.SmallLetters
import PromptStudio.Proofs.Prompt.Additions
import PromptStudio.Proofs.Prompt.Redundancy
import PromptStudio.Proofs.Cache.Overwriting
import PromptStudio.Proofs.Text.Decimals
import PromptStudio.Proofs.Lookup.AllOrNothing
import PromptStudio.Proofs.Cache.Damage
import PromptStudio.Proofs.Lookup.Spellings
import PromptStudio.Proofs.Service.Repeats
import PromptStudio.Proofs.Project.Listing
import PromptStudio.Proofs.Project.Rows
import PromptStudio.Proofs.Lookup.Segments
import PromptStudio.Proofs.Remote.Target
import PromptStudio.Proofs.Prompt.Shapes
import PromptStudio.Proofs.Lookup.Codes
import PromptStudio.Proofs.Service.Results
import PromptStudio.Proofs.Service.Clients
import PromptStudio.Proofs.Instant
