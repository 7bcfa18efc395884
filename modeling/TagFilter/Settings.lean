import TagFilter.Log
import TagFilter.Text.Utf8

namespace TagFilter

structure Environment where
  level? : Option RawText := none
  expressions? : Option RawText := none

namespace Environment

def levelVariable : String := "SCENARIO_TAGS_LOG_LEVEL"

def expressionsVariable : String := "SCENARIO_TAGS_EXPRESSIONS"

end Environment

structure Settings where
  level : Level := .warn
  expressions : List Text := []
  deriving DecidableEq

namespace Settings

def readExpressions (value : Text) : List Text :=
  ((value.splitOn ';').map Text.trim).filter (· ≠ [])

/-- A value that is not UTF-8 counts as not set. -/
def ofEnvironment (environment : Environment) : Except UnknownLevel Settings :=
  let expressions := ((environment.expressions?.bind RawText.text?).map readExpressions).getD []
  match environment.level?.bind RawText.text? with
  | none => .ok { expressions }
  | some word => (Level.read word).map fun level => { level, expressions }

/-- A list of expressions replaces the one before as a whole, and the empty list replaces
nothing. -/
def override (settings : Settings) (level? : Option Level) (expressions : List Text) : Settings :=
  { level := level?.getD settings.level
    expressions := if expressions.isEmpty then settings.expressions else expressions }

def setLevel (settings : Settings) (level : Level) : Settings := { settings with level }

inductive Change
  | override (word? : Option Text) (expressions : List Text)
  | level (word : Text)
  | reset

/-- A change whose word names no level is refused as a whole. -/
def apply (settings : Settings) : Change → Except UnknownLevel Settings
  | .override none expressions => .ok (settings.override none expressions)
  | .override (some word) expressions =>
    (Level.read word).map fun level => settings.override (some level) expressions
  | .level word => (Level.read word).map settings.setLevel
  | .reset => .ok {}

def outcomes (settings : Settings) : List Change → List (Except UnknownLevel Settings)
  | [] => []
  | change :: rest =>
    match settings.apply change with
    | .ok next => .ok next :: outcomes next rest
    | .error unknown => .error unknown :: outcomes settings rest

def applyAll (settings : Settings) : List Change → Settings
  | [] => settings
  | change :: rest =>
    match settings.apply change with
    | .ok next => applyAll next rest
    | .error _ => applyAll settings rest

end Settings

end TagFilter
