import Remap.Log.Call
import Remap.Settings.Logging

/-!
# Log sessions

A session is a log that has been set up: records below its level are dropped, the others go to each
output whose level they reach, and a record that is emitted while a file is bound names it. What the
outputs have been given is kept in the order in which it was given.

A run is made of what callers ask for: to bind a file, to bind none, and to log an event.
-/

namespace Remap

/-- A record given to an output, which has a place among the outputs. -/
structure Delivery where
  place : Nat
  output : LogOutput
  record : Record

structure Session where
  settings : LogSettings
  bound : BoundFile := none
  deliveries : List Delivery := []

namespace Session

/-- The least severity that an output takes. -/
def levelOf (settings : LogSettings) (output : LogOutput) : Severity :=
  output.level.getD settings.level

/-- The levels of the outputs, in their order. -/
def outputLevels (session : Session) : List Severity :=
  session.settings.outputs.map (levelOf session.settings)

def bind (session : Session) (file : String) : Session := { session with bound := some file }

def clear (session : Session) : Session := { session with bound := none }

/-- What a record makes of the outputs, one copy for each that takes it. -/
def deliver (settings : LogSettings) (record : Record) : List Delivery :=
  if record.severity.rank < settings.level.rank then []
  else
    let takers := settings.outputs.zipIdx.filter fun (output, _) =>
      (levelOf settings output).rank ≤ record.severity.rank
    takers.map fun (output, place) => ⟨place, output, record⟩

def emit (session : Session) (record : Record) : Session :=
  let record := record.withFile session.bound
  { session with deliveries := session.deliveries ++ deliver session.settings record }

/-- What a call makes of a session, if it is not refused: a call below the level of the log makes
nothing of it. -/
def log (session : Session) (call : LogCall) : Except CallError Session := do
  match ← call.record? session.settings.level with
  | some record => return session.emit record
  | none => return session

/-- Emits events in their order. -/
def report (session : Session) (events : List Event) : Session :=
  events.foldl (fun session event => session.emit event.record) session

/-- What the output at a place has been given. -/
def received (session : Session) (place : Nat) : List Record :=
  (session.deliveries.filter (·.place = place)).map Delivery.record

/-- What has been written to a destination, by all of its outputs. -/
def writtenTo (session : Session) (destination : Destination) : List Delivery :=
  session.deliveries.filter (·.output.destination = destination)

/-! ## Runs -/

inductive Step where
  | bind (file : String)
  | clear
  | log (call : LogCall)

/-- A step of a run. A call that is refused leaves the session as it is. -/
def step (session : Session) : Step → Session
  | .bind file => session.bind file
  | .clear => session.clear
  | .log call => match session.log call with
    | .ok next => next
    | .error _ => session

def run (session : Session) (steps : List Step) : Session := steps.foldl step session

end Session

end Remap
