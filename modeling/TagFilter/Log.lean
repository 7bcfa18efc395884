import TagFilter.Text.Escape
import TagFilter.Text.LowerCase

namespace TagFilter

inductive Level
  | trace | debug | info | warn | error
  deriving DecidableEq

structure UnknownLevel where
  word : Text
  deriving DecidableEq

def UnknownLevel.message (unknown : UnknownLevel) : Text :=
  "unknown log level '".toList ++ unknown.word
    ++ "', expected one of: trace, debug, info, warn, error".toList

namespace Level

def severity : Level → Nat
  | .trace => 0
  | .debug => 1
  | .info => 2
  | .warn => 3
  | .error => 4

def isShownAt (threshold level : Level) : Bool := threshold.severity ≤ level.severity

def name : Level → Text
  | .trace => "trace".toList
  | .debug => "debug".toList
  | .info => "info".toList
  | .warn => "warn".toList
  | .error => "error".toList

def label : Level → Text
  | .trace => "TRACE".toList
  | .debug => "DEBUG".toList
  | .info => "INFO".toList
  | .warn => "WARN".toList
  | .error => "ERROR".toList

def words : List (Text × Level) :=
  [("trace".toList, .trace), ("debug".toList, .debug), ("info".toList, .info),
    ("warn".toList, .warn), ("warning".toList, .warn), ("error".toList, .error)]

/-- Reads a word in any case. Blanks around it are not taken off, and a refused word is reported
as it was written. -/
def read (word : Text) : Except UnknownLevel Level :=
  match words.lookup (Text.lowerCase word) with
  | some level => .ok level
  | none => .error ⟨word⟩

theorem eq_of_read_eq_error {word : Text} {unknown : UnknownLevel}
    (h : read word = .error unknown) : unknown = ⟨word⟩ := by
  rw [read] at h
  split at h
  · cases h
  · exact (Except.error.inj h).symm

end Level

structure Record where
  level : Level
  origin : Text
  message : Text
  field? : Option (Text × Text) := none
  deriving DecidableEq

namespace Record

/-- The line of the log that shows the record. The message is tamed, the named value is not. -/
def render (record : Record) : Text :=
  record.level.label ++ [' '] ++ record.origin ++ ": ".toList ++ Text.tame record.message
    ++ match record.field? with
      | none => []
      | some (name, value) => [' '] ++ name ++ ['='] ++ value

def shownAt (threshold : Level) (records : List Record) : List Record :=
  records.filter (threshold.isShownAt ·.level)

end Record

end TagFilter
