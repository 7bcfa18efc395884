import TagFilter.Expression
import TagFilter.Settings
import TagFilter.Sink

namespace TagFilter

namespace Report

def verdictLine (matched : Bool) : Text :=
  if matched then "match\n".toList else "no match\n".toList

def limitLine (entry : Text × Limit) : Text := entry.1 ++ ['='] ++ entry.2.render ++ ['\n']

def lines (matched showLimits : Bool) (limits : LimitTable) : List Text :=
  verdictLine matched :: if showLimits then limits.toList.map limitLine else []

def introduction (expression : Expression) : Record :=
  if expression.isEmpty then
    { level := .info
      origin := "scenario_tags_cli::report".toList
      message := "no tag expressions supplied; every tag set matches".toList }
  else
    { level := .debug
      origin := "scenario_tags_cli::report".toList
      message := "compiled tag expression".toList
      field? := some ("expression".toList, expression.render) }

end Report

structure Report where
  result : Except Failure Bool
  sink : Sink
  records : List Record

namespace Report

def send (sink : Sink) (text : List Text) : Except WriteError Unit × Sink :=
  match sink.writeAll (text.map Utf8.encode) with
  | (.ok (), sink) => (sink.flush, sink)
  | (.error error, sink) => (.error error, sink)

def write (settings : Settings) (tags : List Tag) (showLimits : Bool) (sink : Sink) : Report :=
  let compilation := Expression.compilation settings.expressions
  let notices := compilation.notices.map Notice.record
  match compilation.result with
  | .error conflict => { result := .error (.expression conflict), sink, records := notices }
  | .ok expression =>
    let matched := expression.accepts tags
    let (sent, sink) := send sink (lines matched showLimits expression.limits)
    { result := (sent.mapError Failure.output).map fun _ => matched
      sink
      records := notices ++ [introduction expression] ++ expression.verdictRecords tags }

end Report

end TagFilter
