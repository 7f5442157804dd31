import HostTelemetry.Command
import HostTelemetry.Host
import HostTelemetry.Publish.Sink
import HostTelemetry.Registry
import HostTelemetry.Sampler
import HostTelemetry.Store.Basic
import HostTelemetry.Stream.Channel

namespace HostTelemetry.Poll

-- How hosts are sampled. Times are in milliseconds.
structure Plan where
  timeout : Nat
  command : String
  disabled : List String

structure Call where
  host : String
  command : String
  timeout : Nat
  start : Nat

inductive Event where
  | announce (host : String) (category : Category) (keys : List String) (ok : Bool)
  | publish (host : String) (payload : Keyed Json) (ok : Bool)

-- What one tick meets: when it starts, what time it is stamped with, what each
-- host's command comes to, and where saving the records breaks off, if it does.
structure Input where
  start : Nat
  timestamp : Int
  answers : List (Host × Command.Reply)
  interruption : Option Files.Interruption

structure State (σ : Type) where
  sampler : Sampler
  registry : Registry
  sink : σ
  store : Store
  files : Files
  channel : Stream.Channel Report
  ticks : Nat

-- The part of the state that changes from host to host, and what the tick has
-- produced so far.
structure Pass (σ : Type) where
  sampler : Sampler
  registry : Registry
  sink : σ
  records : List Record
  events : List Event

variable {σ : Type}

-- A sample is stamped with the arrival of its own output.
def sample (plan : Plan) (start : Nat) (s : Sampler) (host : String) (reply : Command.Reply) :
    Except SampleFault Snapshot × Sampler :=
  match reply.text plan.timeout with
  | .error e => (.error e, s)
  | .ok stdout => s.normalize host stdout (Time.seconds (start + reply.delay))

def enabledKeys (plan : Plan) (category : Category) (ids : List String) : List String :=
  (ids.flatMap category.entityKeys).filter (· ∉ plan.disabled)

-- Identifiers count as announced once the sink has taken all their keys; those it
-- refused come back with the next tick.
def announce (plan : Plan) (sink : Publish.Sink σ) (host : String) (snapshot : Snapshot)
    (p : Pass σ) (category : Category) : Pass σ :=
  let ids := p.registry.peek host category (snapshot.ids category)
  let keys := enabledKeys plan category ids
  if keys.isEmpty then { p with registry := p.registry.record host category ids }
  else
    let (outcome, s) := sink.announce host category keys p.sink
    let ok := Publish.succeeded outcome
    { p with
      sink := s
      registry := if ok then p.registry.record host category ids else p.registry
      events := p.events ++ [.announce host category keys ok] }

-- A fallback shows nothing but the metrics.
def shownCategories (sampled : Bool) : List Category :=
  if sampled then Category.all else [.metric]

def publish (plan : Plan) (sink : Publish.Sink σ) (host : String) (values : Keyed Json)
    (p : Pass σ) : Pass σ :=
  let payload := values.without plan.disabled
  let (outcome, s) := sink.publish host payload p.sink
  { p with
    sink := s
    events := p.events ++ [.publish host payload (Publish.succeeded outcome)] }

def settle (outcome : Except SampleFault Snapshot) : Snapshot × Option SampleFault :=
  match outcome with
  | .ok snapshot => (snapshot, none)
  | .error e => (Snapshot.fallback, some e)

def recordOf (host : String) (timestamp : Int) (snapshot : Snapshot)
    (fault : Option SampleFault) : Record where
  name := host
  available := fault.isNone
  error := fault.map (·.message)
  timestamp := timestamp
  values := snapshot.values

def visit (plan : Plan) (sink : Publish.Sink σ) (input : Input) (p : Pass σ)
    (answer : Host × Command.Reply) : Pass σ :=
  let host := answer.1.name
  let (outcome, sampler) := sample plan input.start p.sampler host answer.2
  let (snapshot, fault) := settle outcome
  let p := (shownCategories fault.isNone).foldl (announce plan sink host snapshot)
    { p with sampler := sampler }
  let p := publish plan sink host snapshot.values p
  { p with records := p.records ++ [recordOf host input.timestamp snapshot fault] }

structure Tick where
  report : Report
  events : List Event
  calls : List Call
  finish : Nat
  saved : Except Store.Fault Unit

-- All hosts are asked at once, so a tick takes as long as the slowest.
def duration (plan : Plan) (answers : List (Host × Command.Reply)) : Nat :=
  (answers.map fun answer => answer.2.elapsed plan.timeout).foldl max 0

def calls (plan : Plan) (input : Input) : List Call :=
  input.answers.map fun answer => ⟨answer.1.name, plan.command, plan.timeout, input.start⟩

def pass (plan : Plan) (sink : Publish.Sink σ) (input : Input) (s : State σ) : Pass σ :=
  input.answers.foldl (visit plan sink input) ⟨s.sampler, s.registry, s.sink, [], []⟩

-- Samples every host, publishes and stores what came of it in the order of the
-- hosts, and passes the report on. Neither the sink nor the file can stop it.
def tick (plan : Plan) (sink : Publish.Sink σ) (input : Input) (s : State σ) : Tick × State σ :=
  let p := pass plan sink input s
  let report : Report := ⟨input.timestamp, p.records⟩
  let store := s.store.update p.records
  let (saved, files) := store.persist input.interruption s.files
  (⟨report, p.events, calls plan input, input.start + duration plan input.answers, saved⟩,
   { sampler := p.sampler
     registry := p.registry
     sink := p.sink
     store := store
     files := files
     channel := s.channel.send report
     ticks := s.ticks + 1 })

def State.start (sink : σ) (store : Store) (files : Files) (channel : Stream.Channel Report) :
    State σ :=
  ⟨Sampler.empty, [], sink, store, files, channel, 0⟩

end HostTelemetry.Poll
