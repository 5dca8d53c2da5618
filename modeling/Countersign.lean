import Countersign.Text.Blank
import Countersign.Text.Numeral
import Countersign.Text.Quoted
import Countersign.Decimal.Shortest
import Countersign.Json.Reader
import Countersign.Json.Writer
import Countersign.Base64
import Countersign.Keyed
import Countersign.Record
import Countersign.Oracle.Extract
import Countersign.Oracle.Wire
import Countersign.Oracle.Relay
import Countersign.Message.Basic
import Countersign.Proposal.Status
import Countersign.Proposal.Threshold
import Countersign.Proposal.Decision
import Countersign.Proposal.Resolution
import Countersign.Multisig.Call
import Countersign.Node.Dialogue
import Countersign.Multisig.Run
import Countersign.Node.Chain
import Countersign.Url.Basic
import Countersign.Feed.Settings
import Countersign.Logging
import Countersign.Feed.Hub
import Countersign.Feed.Consumer
import Countersign.Feed.Frame
import Countersign.Node.Gateway
import Countersign.Command.Line
import Countersign.Command.Basic
import Countersign.Command.Report
import Countersign.Command.Job
import Countersign.Main
import Countersign.Proofs.RunSafety
import Countersign.Proofs.AcceptedRun
import Countersign.Proofs.LostNumbers
import Countersign.Proofs.ExactPayloads
import Countersign.Proofs.ReferenceDecision
import Countersign.Proofs.RecentProposals
import Countersign.Proofs.Ballots
import Countersign.Proofs.Quorum
import Countersign.Proofs.DispatchErrors
import Countersign.Proofs.DryRun
import Countersign.Proofs.Inspection
import Countersign.Proofs.DeliveryWindow
import Countersign.Proofs.Grouping
import Countersign.Proofs.Transmissions
import Countersign.Proofs.InnerTexts
import Countersign.Proofs.ReceiptShapes
import Countersign.Proofs.Connection
import Countersign.Proofs.Backoff
import Countersign.Proofs.Frames
import Countersign.Proofs.Agreement
import Countersign.Proofs.Registry
import Countersign.Proofs.Failures
import Countersign.Proofs.Metrics
import Countersign.Proofs.Stability
import Countersign.Proofs.Incomparable
import Countersign.Proofs.FrameShapes
import Countersign.Proofs.AnsweredId
import Countersign.Proofs.LostFields
import Countersign.Proofs.Selection
import Countersign.Proofs.ReceiptEvents
import Countersign.Proofs.RelayedIds
import Countersign.Proofs.EncodedJson
import Countersign.Proofs.Cursors
import Countersign.Proofs.Percentages
import Countersign.Proofs.PageSizes
import Countersign.Proofs.Circles
import Countersign.Proofs.Extractions
import Countersign.Proofs.WireRecords
import Countersign.Proofs.Unwrapping
