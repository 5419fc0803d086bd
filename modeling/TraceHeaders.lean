import TraceHeaders.Proofs.Chain.Agreement
import TraceHeaders.Proofs.Format.TraceContext.Forgery
import TraceHeaders.Proofs.Format.TraceContext.RoundTrip
import TraceHeaders.Propagator
import TraceHeaders.Settings.Document
import TraceHeaders.Proofs.Text.Utf8
import TraceHeaders.Proofs.Format.Baggage
import TraceHeaders.Proofs.Text.FormCoding
import TraceHeaders.Proofs.Format.Datadog.RoundTrip
import TraceHeaders.Proofs.Format.Datadog.Session
import TraceHeaders.Proofs.Format.Datadog.Forwarding
import TraceHeaders.Proofs.Format.Found
import TraceHeaders.Proofs.Chain.Hops
import TraceHeaders.Proofs.Format.Relevance
import TraceHeaders.Proofs.Chain.Order
import TraceHeaders.Proofs.Chain.Isolation
import TraceHeaders.Proofs.Chain.Delivery
import TraceHeaders.Proofs.Chain.WellFormed
import TraceHeaders.Proofs.Format.Baggage.Mapping
import TraceHeaders.Proofs.Format.Xray.Forgery
import TraceHeaders.Proofs.Format.Haystack.Takeover
import TraceHeaders.Proofs.Chain.Footprint
import TraceHeaders.Proofs.Propagator
import TraceHeaders.Proofs.Configuration.HeaderTags
import TraceHeaders.Proofs.Settings.Document
import TraceHeaders.Proofs.HeaderValue
import TraceHeaders.Proofs.Format.TraceContext.Decision
import TraceHeaders.Proofs.Format.TraceContext.Limits
import TraceHeaders.Proofs.Format.TraceContext.Acceptance
import TraceHeaders.Proofs.Format.TraceContext.SampledFlag
import TraceHeaders.Proofs.Format.Datadog.Validation
import TraceHeaders.Proofs.Format.Xray.Limit
import TraceHeaders.Proofs.Format.Identifiers
import TraceHeaders.Proofs.Format.Cuts
import TraceHeaders.Proofs.HeaderValue.Escapes
