import HostTelemetry.Json.Printer
import HostTelemetry.Record.Basic
import HostTelemetry.Stream.Channel

namespace HostTelemetry.Stream

inductive Frame where
  | ping
  | records (text : String)

-- Times are in milliseconds.
def pingInterval : Nat := 30000

def sendTimeout : Nat := 10000

def headerSize (length : Nat) : Nat :=
  if length < 126 then 2 else if length < 65536 then 4 else 10

def Frame.size : Frame → Nat
  | ping => headerSize 0
  | records text => headerSize text.utf8ByteSize + text.utf8ByteSize

def Frame.ofReport (r : Report) : Frame :=
  .records (Json.list (r.hosts.map Record.toJson)).render

-- A frame that did not fit into the pipe yet.
structure Sending where
  frame : Frame
  left : Nat
  deadline : Nat

-- One client's stream. Whole frames wait in `piped` until the client reads them;
-- `used` counts all bytes in the pipe.
structure Session where
  room : Nat
  inbox : List Report
  nextPing : Nat
  piped : List Frame
  used : Nat
  sending : Option Sending
  isServed : Bool
  isGone : Bool
  sawEnd : Bool

namespace Session

def start (room now : Nat) : Session :=
  ⟨room, [], now, [], 0, none, true, false, false⟩

def stop (s : Session) : Session :=
  { s with isServed := false, sending := none }

-- A client that is reading takes a frame at once. Otherwise what fits goes into
-- the pipe and the rest has to wait.
def send (reading : Bool) (now : Nat) (frame : Frame) (s : Session) : Session :=
  if s.isGone then s.stop
  else if reading then { s with piped := s.piped ++ [frame] }
  else if s.used + frame.size ≤ s.room then
    { s with piped := s.piped ++ [frame], used := s.used + frame.size }
  else
    { s with
      used := s.room
      sending := some ⟨frame, s.used + frame.size - s.room, now + sendTimeout⟩ }

@[simp] theorem send_inbox (reading : Bool) (now : Nat) (frame : Frame) (s : Session) :
    (s.send reading now frame).inbox = s.inbox := by
  unfold send
  split
  · rfl
  · split
    · rfl
    · split <;> rfl

@[simp] theorem send_nextPing (reading : Bool) (now : Nat) (frame : Frame) (s : Session) :
    (s.send reading now frame).nextPing = s.nextPing := by
  unfold send
  split
  · rfl
  · split
    · rfl
    · split <;> rfl

-- Pings keep their rhythm; those that were missed are left out.
def pingAfter (due now : Nat) : Nat :=
  due + pingInterval * ((now - due) / pingInterval + 1)

theorem lt_pingAfter (due now : Nat) : due < pingAfter due now := by
  unfold pingAfter pingInterval
  omega

-- Serves a client from `now` to `finish`. A frame that cannot be sent in time ends
-- the stream.
def run (reading : Bool) (finish now : Nat) (s : Session) : Session :=
  if !s.isServed then s
  else
    match s.sending with
    | some sending => if sending.deadline ≤ finish then s.stop else s
    | none =>
        match _h : s.inbox with
        | report :: rest =>
            run reading finish now
              ({ s with inbox := rest }.send reading now (.ofReport report))
        | [] =>
            if s.nextPing ≤ finish then
              let due := max now s.nextPing
              run reading finish due
                ({ s with nextPing := pingAfter s.nextPing due }.send reading due .ping)
            else s
  termination_by s.inbox.length + (finish + 1 - s.nextPing)
  decreasing_by
    · simp [_h]
    · have := lt_pingAfter s.nextPing (max now s.nextPing)
      simp only [send_inbox, send_nextPing, _h, List.length_nil]
      omega

-- A client that starts to read empties the pipe, and what was waiting goes through.
def resume (s : Session) : Session :=
  match s.sending with
  | none => { s with used := 0 }
  | some sending => { s with used := 0, piped := s.piped ++ [sending.frame], sending := none }

def leave (s : Session) : Session :=
  let s := { s with isGone := true }
  if s.sending.isSome then s.stop else s

def receive (capacity : Nat) (reports : List Report) (s : Session) : Session :=
  if s.isServed then
    { s with
      inbox := reports.foldl (fun inbox r => Channel.keepLast capacity (inbox ++ [r])) s.inbox }
  else s

-- Lets a session go on until `finish`. A client that reads takes everything at that
-- moment, and notices the end of the stream once.
def pass (reading : Bool) (finish now : Nat) (s : Session) : (List Frame × Bool) × Session :=
  let s := s.run false finish now
  if reading && !s.isGone then
    let s := s.resume.run true finish finish
    ((s.piped, !s.isServed && !s.sawEnd), { s with piped := [], used := 0, sawEnd := !s.isServed })
  else (([], false), s)

end Session

-- All sessions of a server, in the order in which the clients came.
structure Server where
  capacity : Nat
  now : Nat
  sessions : List Session

namespace Server

def ofCapacity (capacity : Nat) : Server := ⟨Channel.roundUp capacity, 0, []⟩

inductive Step where
  | connect (room : Nat)
  | send (reports : List Report)
  | advance (ms : Nat)
  | leave (client : Nat)

def apply (s : Server) : Step → Server
  | .connect room => { s with sessions := s.sessions ++ [Session.start room s.now] }
  | .send reports => { s with sessions := s.sessions.map (Session.receive s.capacity reports) }
  | .advance _ => s
  | .leave client => { s with sessions := s.sessions.modify client Session.leave }

def elapsed : Step → Nat
  | .advance ms => ms
  | _ => 0

-- What each client got since the step before, and whether its stream ended.
def step (s : Server) (silent : List Nat) (x : Step) : List (List Frame × Bool) × Server :=
  let s := s.apply x
  let finish := s.now + elapsed x
  let passed := s.sessions.mapIdx fun client session =>
    session.pass (!silent.contains client) finish s.now
  (passed.map Prod.fst, { s with now := finish, sessions := passed.map Prod.snd })

def connections (s : Server) : Nat :=
  s.sessions.countP (·.isServed)

end Server

end HostTelemetry.Stream
