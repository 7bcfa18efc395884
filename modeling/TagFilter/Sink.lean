import TagFilter.Limit
import TagFilter.Log
import TagFilter.Text.Utf8

namespace TagFilter

inductive WriteError
  | full
  | flushRefused
  deriving DecidableEq

def WriteError.message : WriteError → Text
  | .full => "sink full".toList
  | .flushRefused => "flush refused".toList

structure Sink where
  room? : Option Nat := none
  refusesFlush : Bool := false
  accepted : Bytes := []
  deriving DecidableEq

namespace Sink

def fitting (sink : Sink) (bytes : Bytes) : Bytes :=
  match sink.room? with
  | none => bytes
  | some room => bytes.take (room - sink.accepted.length)

/-- What fits is kept, also when not all of it fits. -/
def write (sink : Sink) (bytes : Bytes) : Except WriteError Unit × Sink :=
  let kept := sink.fitting bytes
  (if kept.length < bytes.length then .error .full else .ok (),
    { sink with accepted := sink.accepted ++ kept })

def writeAll (sink : Sink) : List Bytes → Except WriteError Unit × Sink
  | [] => (.ok (), sink)
  | piece :: rest =>
    match sink.write piece with
    | (.ok (), sink) => writeAll sink rest
    | (.error error, sink) => (.error error, sink)

def flush (sink : Sink) : Except WriteError Unit :=
  if sink.refusesFlush then .error .flushRefused else .ok ()

end Sink

inductive Failure
  | expression (conflict : Conflict)
  | settings (unknown : UnknownLevel)
  | output (error : WriteError)
  deriving DecidableEq

def Failure.message : Failure → Text
  | .expression conflict => "invalid tag expression: ".toList ++ conflict.message
  | .settings unknown => "invalid configuration: ".toList ++ unknown.message
  | .output error => "I/O error: ".toList ++ error.message

end TagFilter
