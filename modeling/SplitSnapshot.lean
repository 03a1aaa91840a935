import SplitSnapshot.Memory.Channel
import SplitSnapshot.Postgres.Connection
import SplitSnapshot.Session.Conversation
import SplitSnapshot.Session.Run
import SplitSnapshot.Proofs.Read.Bracket
import SplitSnapshot.Proofs.Read.Rows
import SplitSnapshot.Proofs.Read.Failures
import SplitSnapshot.Proofs.Read.EarlierMarks
import SplitSnapshot.Proofs.Read.Window
import SplitSnapshot.Proofs.Read.Words
import SplitSnapshot.Proofs.Memory.ChainScan
import SplitSnapshot.Proofs.Postgres.Discipline
import SplitSnapshot.Proofs.Postgres.Refusals
import SplitSnapshot.Proofs.Query.Refinement
import SplitSnapshot.Proofs.Documents.Events
import SplitSnapshot.Proofs.Postgres.Batches
import SplitSnapshot.Proofs.Shared.Channel
import SplitSnapshot.Proofs.Shared.Counters
import SplitSnapshot.Proofs.Decimal.Order
import SplitSnapshot.Proofs.Memory.Range
import SplitSnapshot.Proofs.Offset.Counting
import SplitSnapshot.Proofs.Table.RowRecord
import SplitSnapshot.Proofs.Postgres.Nulls
import SplitSnapshot.Proofs.Read.RowCounts
import SplitSnapshot.Proofs.Read.Cancellation
import SplitSnapshot.Proofs.Read.Pace
import SplitSnapshot.Proofs.Lsn
import SplitSnapshot.Proofs.Documents.Splits
import SplitSnapshot.Proofs.Split.Validity
import SplitSnapshot.Proofs.Postgres.ScanCalls
import SplitSnapshot.Proofs.Key.Numbers
import SplitSnapshot.Proofs.Postgres.Locators
import SplitSnapshot.Proofs.Table.Reading
