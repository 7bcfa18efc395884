import TagFilter.CommandLine.Request
import TagFilter.Report

/-!
The program: a command line and an environment in, an exit status, a report and a log out. The
status is 0 when the tags match, 1 when they do not, and 2 when there is no answer.
-/

namespace TagFilter

namespace Program

structure Outcome where
  status : Nat
  stdout : Sink
  usageError? : Option CommandLine.UsageError := none
  log : List Record := []

def failureRecord (message : Text) (failure : Failure) : Record :=
  { level := .error
    origin := "scenario_tags".toList
    message
    field? := some ("error".toList, failure.message) }

def status : Except Failure Bool → Nat
  | .ok true => 0
  | .ok false => 1
  | .error _ => 2

def records (report : Report) : List Record :=
  report.records ++
    match report.result with
    | .ok _ => []
    | .error failure => [failureRecord "tag filtering failed".toList failure]

/-- The environment comes first and is overridden. A level in it that is none is a failure even
when the command line gives another, and is logged at the default level. -/
def check (invocation : CommandLine.Invocation) (environment : Environment) (stdout : Sink) :
    Outcome :=
  match Settings.ofEnvironment environment with
  | .error unknown =>
    let failure := failureRecord "invalid configuration".toList (.settings unknown)
    { status := 2, stdout, log := Record.shownAt ({} : Settings).level [failure] }
  | .ok settings =>
    let settings := settings.override invocation.level? invocation.expressions
    let report := Report.write settings invocation.tags invocation.showLimits stdout
    { status := status report.result
      stdout := report.sink
      log := Record.shownAt settings.level (records report) }

def run (arguments : List RawText) (environment : Environment) (stdout : Sink := {}) : Outcome :=
  match CommandLine.Request.read arguments with
  | .error error => { status := 2, stdout, usageError? := some error }
  | .ok (.answer inquiry) =>
    { status := 0, stdout := (stdout.write (Utf8.encode inquiry.answer)).2 }
  | .ok (.check invocation) => check invocation environment stdout

end Program

end TagFilter
