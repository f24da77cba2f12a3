import ChainCheckpoints.Blueprint
import ChainCheckpoints.Chain.Format
import ChainCheckpoints.Json.Writer
import ChainCheckpoints.Session
import ChainCheckpoints.Proofs.Tracker.Repetition
import ChainCheckpoints.Proofs.Tracker.History
import ChainCheckpoints.Proofs.Session.FreeTracker
import ChainCheckpoints.Proofs.Session.Node
import ChainCheckpoints.Proofs.Store.Index
import ChainCheckpoints.Proofs.Session.Views
import ChainCheckpoints.Proofs.Session.Forks
import ChainCheckpoints.Proofs.Verdict
import ChainCheckpoints.Proofs.Tracker.Order
import ChainCheckpoints.Proofs.Guard.Faults
import ChainCheckpoints.Proofs.Chain.Ancestors
import ChainCheckpoints.Proofs.Script.Positions
import ChainCheckpoints.Proofs.Chain.Commitment
import ChainCheckpoints.Proofs.Guard.Survey
import ChainCheckpoints.Proofs.Verdict.Lasting
import ChainCheckpoints.Proofs.Tracker.Ascent
import ChainCheckpoints.Proofs.Tracker.Failure
import ChainCheckpoints.Proofs.Tracker.Retry
import ChainCheckpoints.Proofs.Guard.Completeness
import ChainCheckpoints.Proofs.Chain.Merkle
import ChainCheckpoints.Proofs.Guard.Pins
import ChainCheckpoints.Proofs.Store.Reconnect
import ChainCheckpoints.Proofs.Store.Side
import ChainCheckpoints.Proofs.Script.Pushes
import ChainCheckpoints.Proofs.Digest.Reading
import ChainCheckpoints.Proofs.Guard.Entries
import ChainCheckpoints.Proofs.Store.Served
import ChainCheckpoints.Proofs.Blueprint
