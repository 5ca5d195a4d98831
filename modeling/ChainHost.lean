import ChainHost.Application.Scripted
import ChainHost.Lifecycle.Crowd
import ChainHost.Lifecycle.Scenario
import ChainHost.Main
import ChainHost.Merkle.Verifier
import ChainHost.Proofs.Lifecycle.Linearization
import ChainHost.Proofs.Lifecycle.Recovery
import ChainHost.Proofs.Message.Layout
import ChainHost.Proofs.Message.RoundTrip
import ChainHost.Proofs.Session.Order
import ChainHost.Proofs.Store.Authenticity
import ChainHost.Proofs.Store.Digest
import ChainHost.Proofs.Store.History
import ChainHost.Serving.Launch
import ChainHost.Session.Pipeline
import ChainHost.Proofs.Query.Window
import ChainHost.Proofs.Lifecycle.Requests
import ChainHost.Proofs.Query.Committed
import ChainHost.Proofs.Store.Retention
import ChainHost.Proofs.Session.Completion
import ChainHost.Proofs.Store.Irrelevance
import ChainHost.Proofs.Store.Hint
import ChainHost.Proofs.Store.Mirror
import ChainHost.Proofs.Session.Stream
import ChainHost.Proofs.Frame.Stream
import ChainHost.Proofs.Lifecycle.Failure
import ChainHost.Proofs.Host.Fidelity
import ChainHost.Proofs.Host.Faults
import ChainHost.Proofs.Session.Prompt
import ChainHost.Proofs.Merkle.Arithmetic
import ChainHost.Proofs.Store.Grammar
import ChainHost.Proofs.Endpoint.RoundTrip
import ChainHost.Proofs.Serving.Rollback
import ChainHost.Proofs.Validators
