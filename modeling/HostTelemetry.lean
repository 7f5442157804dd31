import HostTelemetry.Keyed
import HostTelemetry.Text.Blank
import HostTelemetry.Text.Slug
import HostTelemetry.Text.Utf8
import HostTelemetry.Text.Quoted
import HostTelemetry.Decimal.Shortest
import HostTelemetry.Decimal.Fixed
import HostTelemetry.Decimal.Rounding
import HostTelemetry.Decimal.Numeral
import HostTelemetry.Json.Value
import HostTelemetry.Json.Printer
import HostTelemetry.Sample.Fault
import HostTelemetry.Reading.Extract
import HostTelemetry.Sensor
import HostTelemetry.Sampler
import HostTelemetry.Registry
import HostTelemetry.Command
import HostTelemetry.Record.Reader
import HostTelemetry.Toml.Document
import HostTelemetry.Settings.Load
import HostTelemetry.Action
import HostTelemetry.Remote.Ssh
import HostTelemetry.Remote.Script
import HostTelemetry.Publish.Queue
import HostTelemetry.Poll.Loop
import HostTelemetry.Stream.Session
import HostTelemetry.Api.Respond
import HostTelemetry.Proofs.Entity.Ownership
import HostTelemetry.Proofs.Keyed
import HostTelemetry.Proofs.Sampler.Claiming
import HostTelemetry.Proofs.Sampler.History
import HostTelemetry.Proofs.Snapshot.Flattening
import HostTelemetry.Proofs.Poll.Discovery
import HostTelemetry.Proofs.Poll.Isolation
import HostTelemetry.Proofs.Json.Braces
import HostTelemetry.Proofs.Reading.Extraction
import HostTelemetry.Proofs.Api.Orders
import HostTelemetry.Proofs.Api.Secrecy
import HostTelemetry.Poll.Setup
import HostTelemetry.Proofs.Poll.Subjects
import HostTelemetry.Proofs.Publish.Identity
import HostTelemetry.Proofs.Publish.Naming
import HostTelemetry.Proofs.Poll.Outcome
import HostTelemetry.Proofs.Store.Calls
import HostTelemetry.Proofs.Counter.Energy
import HostTelemetry.Proofs.Poll.Delivery
import HostTelemetry.Proofs.Publish.Capacity
import HostTelemetry.Proofs.Poll.Arrivals
import HostTelemetry.Proofs.Poll.Cadence
import HostTelemetry.Proofs.Counter.Rates
import HostTelemetry.Proofs.Counter.Totals
import HostTelemetry.Proofs.Sensor.Flattening
import HostTelemetry.Proofs.Sampler.LeastFree
import HostTelemetry.Proofs.Remote.Sampling
import HostTelemetry.Proofs.Settings.Soundness
import HostTelemetry.Proofs.Reading.Fields
import HostTelemetry.Proofs.Reading.Integers
import HostTelemetry.Proofs.Registry.History
import HostTelemetry.Proofs.Sampler.Naming
