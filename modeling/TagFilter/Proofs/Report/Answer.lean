import TagFilter.Proofs.Sink
import TagFilter.Report

namespace TagFilter.Report

def text (matched showLimits : Bool) (limits : LimitTable) : Text :=
  (lines matched showLimits limits).flatten

theorem text_eq (matched showLimits : Bool) (limits : LimitTable) :
    text matched showLimits limits =
      (if matched then "match\n".toList else "no match\n".toList) ++
        if showLimits then limits.toList.flatMap limitLine else [] := by
  rw [text, lines, List.flatten_cons, verdictLine]
  cases showLimits <;> rfl

theorem send_eq_send_flatten (sink : Sink) (lines : List Text) :
    send sink lines = send sink [lines.flatten] := by
  rw [send, send, Sink.writeAll_eq_write, Sink.writeAll_eq_write, List.map_singleton,
    List.flatten_singleton, Utf8.encode_flatten]

def answer (report : Report) : Except Failure Bool × Sink := (report.result, report.sink)

theorem answer_write_of_error {settings : Settings} {conflict : Conflict}
    (h : Expression.compile settings.expressions = .error conflict) (tags : List Tag)
    (showLimits : Bool) (sink : Sink) :
    (write settings tags showLimits sink).answer = (.error (.expression conflict), sink) := by
  rw [Expression.compile] at h
  simp [answer, write, h]

theorem answer_write_of_ok {settings : Settings} {expression : Expression}
    (h : Expression.compile settings.expressions = .ok expression) (tags : List Tag)
    (showLimits : Bool) (sink : Sink) :
    (write settings tags showLimits sink).answer =
      let sent := send sink (lines (expression.accepts tags) showLimits expression.limits)
      ((sent.1.mapError Failure.output).map fun _ => expression.accepts tags, sent.2) := by
  rw [Expression.compile] at h
  simp [answer, write, h]

theorem answer_write_congr {first second : Settings}
    (h : Expression.compile first.expressions = Expression.compile second.expressions)
    (tags : List Tag) (showLimits : Bool) (sink : Sink) :
    (write first tags showLimits sink).answer = (write second tags showLimits sink).answer := by
  cases hsecond : Expression.compile second.expressions with
  | error conflict =>
    rw [answer_write_of_error (h.trans hsecond), answer_write_of_error hsecond]
  | ok expression => rw [answer_write_of_ok (h.trans hsecond), answer_write_of_ok hsecond]

theorem write_eq_of_expressions {first second : Settings}
    (h : first.expressions = second.expressions) (tags : List Tag) (showLimits : Bool)
    (sink : Sink) : write first tags showLimits sink = write second tags showLimits sink := by
  rw [write, write, h]

theorem send_unbounded (lines : List Text) :
    send {} lines = (.ok (), { accepted := Utf8.encode lines.flatten }) := by
  rw [send_eq_send_flatten]
  simp [send, Sink.writeAll, Sink.write, Sink.fitting, Sink.flush]

theorem answer_write_unbounded {settings : Settings} {expression : Expression}
    (h : Expression.compile settings.expressions = .ok expression) (tags : List Tag)
    (showLimits : Bool) :
    (write settings tags showLimits {}).answer =
      (.ok (expression.accepts tags),
        { accepted :=
            Utf8.encode (text (expression.accepts tags) showLimits expression.limits) }) := by
  rw [answer_write_of_ok h, send_unbounded]
  rfl

end TagFilter.Report
