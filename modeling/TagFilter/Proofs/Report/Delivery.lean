import TagFilter.Proofs.Report.Answer

namespace TagFilter

namespace Written

def report (matched showLimits : Bool) (limits : List (Text × Limit)) : Text :=
  (if matched then "match\n".toList else "no match\n".toList) ++
    if showLimits then
      limits.flatMap fun entry => entry.1 ++ ['='] ++ Nat.toDigits 10 entry.2.toNat ++ ['\n']
    else []

end Written

namespace Sink

variable {room : Nat} {refusesFlush : Bool} {bytes : Bytes}

theorem write_of_length_le (h : bytes.length ≤ room) :
    ({ room? := some room, refusesFlush } : Sink).write bytes =
      (.ok (), { room? := some room, refusesFlush, accepted := bytes }) := by
  simp [write, fitting, List.take_of_length_le h]

theorem write_of_lt_length (h : room < bytes.length) :
    ({ room? := some room, refusesFlush } : Sink).write bytes =
      (.error .full, { room? := some room, refusesFlush, accepted := bytes.take room }) := by
  have hkept : (bytes.take room).length < bytes.length := by
    rw [List.length_take]
    omega
  simp only [write, fitting, List.length_nil, Nat.sub_zero, hkept, if_true, List.nil_append]

end Sink

namespace Report

theorem text_eq_report (matched showLimits : Bool) (limits : LimitTable) :
    text matched showLimits limits = Written.report matched showLimits limits.toList :=
  text_eq matched showLimits limits

section Room

variable {settings : Settings} {expression : Expression}
  (h : Expression.compile settings.expressions = .ok expression) (tags : List Tag)
  (showLimits : Bool) {bytes : Bytes}
  (hbytes : bytes =
    Utf8.encode (Written.report (expression.accepts tags) showLimits expression.limits.toList))
include h hbytes

theorem answer_write_eq_write (sink : Sink) :
    (write settings tags showLimits sink).answer =
      match sink.write bytes with
      | (.ok (), after) =>
        ((after.flush.mapError Failure.output).map fun _ => expression.accepts tags, after)
      | (.error error, after) => (.error (.output error), after) := by
  have hflatten :
      ((lines (expression.accepts tags) showLimits expression.limits).map Utf8.encode).flatten =
        bytes := by
    rw [hbytes, ← Utf8.encode_flatten, ← text_eq_report, text]
  rw [answer_write_of_ok h, send, Sink.writeAll_eq_write, hflatten]
  cases sink.write bytes with
  | mk result after => cases result <;> rfl

theorem answer_write_of_length_le {room : Nat} (hroom : bytes.length ≤ room)
    (refusesFlush : Bool) :
    (write settings tags showLimits { room? := some room, refusesFlush }).answer =
      (if refusesFlush then .error (.output .flushRefused) else .ok (expression.accepts tags),
        { room? := some room, refusesFlush, accepted := bytes }) := by
  rw [answer_write_eq_write h tags showLimits hbytes, Sink.write_of_length_le hroom]
  cases refusesFlush <;> rfl

theorem answer_write_of_lt_length {room : Nat} (hroom : room < bytes.length)
    (refusesFlush : Bool) :
    (write settings tags showLimits { room? := some room, refusesFlush }).answer =
      (.error (.output .full),
        { room? := some room, refusesFlush, accepted := bytes.take room }) := by
  rw [answer_write_eq_write h tags showLimits hbytes, Sink.write_of_lt_length hroom]

end Room

/-- Strings that do not compile leave the sink untouched. Otherwise the sink takes the first bytes
of the report, as many as there is room for, and the verdict is the result when it took them all and
could be flushed. It is the same however the report is cut into pieces and offered. -/
theorem delivery_within_room (settings : Settings) (tags : List Tag) (showLimits : Bool)
    (room : Nat) (refusesFlush : Bool) :
    let sink : Sink := { room? := some room, refusesFlush }
    let report := write settings tags showLimits sink
    (∀ conflict, Expression.compile settings.expressions = .error conflict →
      report.result = .error (.expression conflict) ∧ report.sink = sink) ∧
    ∀ expression, Expression.compile settings.expressions = .ok expression →
      let matched := expression.accepts tags
      let bytes := Utf8.encode (Written.report matched showLimits expression.limits.toList)
      (expression.limits.toList.Pairwise fun a b => a.1 < b.1) ∧
      report.sink = { sink with accepted := bytes.take (min room bytes.length) } ∧
      (report.result = .ok matched ↔ bytes.length ≤ room ∧ refusesFlush = false) ∧
      (room < bytes.length → report.result = .error (.output .full)) ∧
      (bytes.length ≤ room → refusesFlush = true →
        report.result = .error (.output .flushRefused)) ∧
      ∀ pieces : List Bytes, pieces.flatten = bytes →
        sink.offerEach pieces =
          (if room < bytes.length then .error .full else .ok (), report.sink) := by
  intro sink report
  refine ⟨fun conflict h => ?_, ?_⟩
  · exact Prod.mk.inj (answer_write_of_error h tags showLimits sink)
  intro expression h matched bytes
  refine ⟨expression.limits.toList_pairwise_lt, ?_⟩
  by_cases hroom : bytes.length ≤ room
  · obtain ⟨hresult, hsink⟩ : report.result = _ ∧ report.sink = _ :=
      Prod.mk.inj (answer_write_of_length_le h tags showLimits rfl hroom refusesFlush)
    refine ⟨?_, ?_, fun hlt => absurd hroom (Nat.not_le_of_lt hlt), fun _ hflush => ?_,
      fun pieces hpieces => ?_⟩
    · rw [hsink, Nat.min_eq_right hroom, List.take_length]
    · rw [hresult]
      cases refusesFlush <;> simp [hroom, matched]
    · rw [hresult, if_pos hflush]
    · rw [Sink.offerEach_eq_write, hpieces, Sink.write_of_length_le hroom, hsink,
        if_neg (Nat.not_lt_of_le hroom)]
  · have hlt := Nat.lt_of_not_le hroom
    obtain ⟨hresult, hsink⟩ : report.result = _ ∧ report.sink = _ :=
      Prod.mk.inj (answer_write_of_lt_length h tags showLimits rfl hlt refusesFlush)
    refine ⟨?_, ?_, fun _ => hresult, fun hle => absurd hle hroom, fun pieces hpieces => ?_⟩
    · rw [hsink, Nat.min_eq_left (Nat.le_of_lt hlt)]
    · rw [hresult]
      simp [hroom]
    · rw [Sink.offerEach_eq_write, hpieces, Sink.write_of_lt_length hlt, hsink, if_pos hlt]

theorem delivery_within_room_inside_character :
    let settings : Settings := { expressions := ["~@é:7,a:10".toList] }
    let clashing : Settings := { expressions := ["a:10".toList, "~@b,@a:7".toList] }
    let sink : Nat → Bool → Sink := fun room refusesFlush => { room? := some room, refusesFlush }
    let run := fun room refusesFlush => write settings ["é".toList] true (sink room refusesFlush)
    let bytes := Utf8.encode "no match\na=10\né=7\n".toList
    bytes.length = 19 ∧
    (run 15 false).result = .error (.output .full) ∧
      (run 15 false).sink.accepted = Utf8.encode "no match\na=10\n".toList ++ [0xC3] ∧
    (run 18 true).result = .error (.output .full) ∧
    (run 19 false).result = .ok false ∧ (run 19 false).sink.accepted = bytes ∧
    (run 19 true).result = .error (.output .flushRefused) ∧
    (sink 15 true).offerEach (bytes.map fun byte => [byte]) = (.error .full, (run 15 true).sink) ∧
    (write clashing [] true (sink 1 true)).result =
      .error (.expression ⟨"a".toList, 10, 7⟩) ∧
    (write clashing [] true (sink 1 true)).sink = sink 1 true := by
  intro settings clashing sink run bytes
  let expression : Expression :=
    { clauses := [⟨[⟨"@é".toList, true⟩, ⟨"a".toList, false⟩]⟩]
      limits := ⟨[("a".toList, 10), ("é".toList, 7)], by decide⟩ }
  have hcompile : Expression.compile settings.expressions = .ok expression := rfl
  have hclash : Expression.compile clashing.expressions = .error ⟨"a".toList, 10, 7⟩ := rfl
  have hrun := fun room refusesFlush =>
    (delivery_within_room settings ["é".toList] true room refusesFlush).2 expression hcompile
  have hlength : bytes.length = 19 := by decide
  obtain ⟨_, hshort, _, hfull, _, _⟩ := hrun 15 false
  obtain ⟨_, _, _, hfull', _, _⟩ := hrun 18 true
  obtain ⟨_, hexact, hok, _, _, _⟩ := hrun 19 false
  obtain ⟨_, _, _, _, hflush, _⟩ := hrun 19 true
  obtain ⟨_, _, _, _, _, hpieces⟩ := hrun 15 true
  obtain ⟨hresult, hsink⟩ :=
    (delivery_within_room clashing [] true 1 true).1 ⟨"a".toList, 10, 7⟩ hclash
  refine ⟨hlength, hfull (by decide), ?_, hfull' (by decide), hok.2 ⟨by decide, rfl⟩, ?_,
    hflush (by decide) rfl, ?_, hresult, hsink⟩
  · exact (congrArg Sink.accepted hshort).trans (by decide)
  · exact (congrArg Sink.accepted hexact).trans (by decide)
  · exact hpieces _ (by decide)

end Report

end TagFilter
