import TagFilter.CommandLine.Argument

/-!
Reading the command line. Options may stand before, between and after the tags. Arguments are read
from left to right, and an occurrence of an option is taken over only when the next occurrence
begins. Until then an argument that fits nowhere is complained about first.
-/

namespace TagFilter.CommandLine

structure Invocation where
  expressions : List Text := []
  level? : Option Level := none
  showLimits : Bool := false
  tags : List Tag := []
  deriving DecidableEq

inductive Request
  | check (invocation : Invocation)
  | answer (inquiry : Inquiry)
  deriving DecidableEq

/-- What was read and not yet taken over. -/
inductive Pending
  | nothing
  | option (key : Key) (value? : Option RawText)
  | tags (values : List RawText)

def wellFormed (raw : RawText) : Except UsageError Text :=
  match raw.text? with
  | some text => .ok text
  | none => .error .illFormed

namespace Invocation

def addTags (invocation : Invocation) : List RawText → Except UsageError Invocation
  | [] => .ok invocation
  | raw :: rest =>
    match wellFormed raw with
    | .error error => .error error
    | .ok tag => addTags { invocation with tags := invocation.tags ++ [tag] } rest

/-- Takes over an option with its value. The level can be given once, whatever the values are. -/
def addOption (invocation : Invocation) (key : Key) (value : RawText) :
    Except UsageError Invocation :=
  match key with
  | .tags =>
    (wellFormed value).map fun expression =>
      { invocation with expressions := invocation.expressions ++ [expression] }
  | .logLevel =>
    if invocation.level?.isSome then .error (.repeated (.key .logLevel))
    else
      match wellFormed value with
      | .error error => .error error
      | .ok word =>
        match Level.read word with
        | .error unknown => .error (.unknownLevel unknown)
        | .ok level => .ok { invocation with level? := some level }

def settle (invocation : Invocation) : Pending → Except UsageError Invocation
  | .nothing => .ok invocation
  | .option key none => .error (.missingValue key)
  | .option key (some value) => invocation.addOption key value
  | .tags values => invocation.addTags values

end Invocation

def shownShort (first : Option Char) (others : RawText) : Text :=
  match first with
  | some letter => ['-', letter]
  | none => '-' :: RawText.lossy (none :: others)

namespace Request

def readTags (invocation : Invocation) (pending : Pending) (values : List RawText) :
    Except UsageError Request := do
  let invocation ← invocation.settle pending
  return .check (← invocation.addTags values)

def answerAfter (invocation : Invocation) (pending : Pending) (inquiry : Inquiry) :
    Except UsageError Request :=
  (invocation.settle pending).map fun _ => .answer inquiry

def readFrom (invocation : Invocation) (pending : Pending) :
    List RawText → Except UsageError Request
  | [] => return .check (← invocation.settle pending)
  | argument :: rest =>
    match Argument.ofRaw argument with
    | .separator => readTags invocation pending rest
    | .plain value =>
      match pending with
      | .option key none => readFrom invocation (.option key (some value)) rest
      | .tags values => readFrom invocation (.tags (values ++ [value])) rest
      | pending => do
        let invocation ← invocation.settle pending
        readFrom invocation (.tags [value]) rest
    | .short first others =>
      match Inquiry.ofLetter? first with
      | none => .error (.unexpectedArgument (shownShort first others))
      | some inquiry => answerAfter invocation pending inquiry
    | .long name value? =>
      match Choice.ofName? name, value? with
      | none, _ => .error (.unexpectedArgument ("--".toList ++ name.lossy))
      | some (.key key), none => do
        let invocation ← invocation.settle pending
        readFrom invocation (.option key none) rest
      | some (.key key), some value => do
        let invocation ← invocation.settle pending
        let invocation ← invocation.addOption key value
        readFrom invocation .nothing rest
      | some option, some value => .error (.unexpectedValue value.lossy option)
      | some .limits, none => do
        let invocation ← invocation.settle pending
        if invocation.showLimits then .error (.repeated .limits)
        else readFrom { invocation with showLimits := true } .nothing rest
      | some (.inquiry inquiry), none => answerAfter invocation pending inquiry

def read (arguments : List RawText) : Except UsageError Request :=
  readFrom {} .nothing arguments

end Request

end TagFilter.CommandLine
