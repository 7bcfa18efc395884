import TagFilter.Program
import TagFilter.Proofs.Expression.Compiled
import TagFilter.Proofs.Report.Answer
import TagFilter.Proofs.Settings.Environment

namespace TagFilter

namespace Program

open CommandLine

variable {arguments : List RawText} {environment : Environment} {invocation : Invocation}

theorem run_of_check (h : Request.read arguments = .ok (.check invocation))
    (environment : Environment) (stdout : Sink) :
    run arguments environment stdout = check invocation environment stdout := by
  rw [run, h]

theorem run_of_levelUnknown (h : Request.read arguments = .ok (.check invocation))
    (hlevel : environment.LevelUnknown) (stdout : Sink) :
    (run arguments environment stdout).status = 2 ∧
      (run arguments environment stdout).stdout = stdout := by
  obtain ⟨unknown, herror⟩ := Settings.ofEnvironment_of_levelUnknown hlevel
  rw [run_of_check h, check, herror]
  exact ⟨rfl, rfl⟩

/-- The arguments and the environment are read, and with `level` in force they ask whether `inputs`
accept `tags`. -/
def Asks (arguments : List RawText) (environment : Environment) (inputs : List Text)
    (tags : List Tag) (showLimits : Bool) (level : Level) : Prop :=
  ∃ invocation settings,
    Request.read arguments = .ok (.check invocation) ∧
    Settings.ofEnvironment environment = .ok settings ∧
    environment.inForce invocation.expressions = inputs ∧
    invocation.tags = tags ∧
    invocation.showLimits = showLimits ∧
    invocation.level?.getD settings.level = level

theorem exists_asks (h : Request.read arguments = .ok (.check invocation))
    (hlevel : ¬ environment.LevelUnknown) :
    ∃ level, Asks arguments environment (environment.inForce invocation.expressions)
      invocation.tags invocation.showLimits level := by
  obtain ⟨_, hsettings⟩ := Settings.ofEnvironment_of_not_levelUnknown hlevel
  exact ⟨_, invocation, _, h, hsettings, rfl, rfl, rfl, rfl⟩

section Asks

variable {inputs : List Text} {tags : List Tag} {showLimits : Bool} {level : Level}
  (h : Asks arguments environment inputs tags showLimits level)
include h

theorem run_of_asks (stdout : Sink) :
    run arguments environment stdout =
      let report := Report.write { expressions := inputs } tags showLimits stdout
      { status := status report.result
        stdout := report.sink
        log := Record.shownAt level (records report) } := by
  obtain ⟨invocation, settings, hread, hsettings, hinputs, htags, hlimits, hlevel⟩ := h
  have hreport : Report.write (settings.override invocation.level? invocation.expressions)
      invocation.tags invocation.showLimits stdout =
        Report.write { expressions := inputs } tags showLimits stdout := by
    rw [htags, hlimits]
    apply Report.write_eq_of_expressions
    rw [Settings.expressions_override, Settings.expressions_of_ofEnvironment hsettings, ← hinputs,
      Environment.inForce]
  rw [run_of_check hread, check, hsettings, ← hlevel]
  simp only [hreport]
  rfl

theorem answer_run_of_asks (stdout : Sink) :
    let outcome := run arguments environment stdout
    let answer := (Report.write { expressions := inputs } tags showLimits stdout).answer
    outcome.status = status answer.1 ∧ outcome.stdout = answer.2 := by
  rw [run_of_asks h]
  exact ⟨rfl, rfl⟩

theorem run_of_compile_error {conflict : Conflict}
    (hcompile : Expression.compile inputs = .error conflict) (stdout : Sink) :
    (run arguments environment stdout).status = 2 ∧
      (run arguments environment stdout).stdout = stdout := by
  have hanswer := answer_run_of_asks h stdout
  rwa [Report.answer_write_of_error hcompile] at hanswer

theorem run_of_compile_ok {expression : Expression}
    (hcompile : Expression.compile inputs = .ok expression) :
    (run arguments environment).status = (if expression.accepts tags then 0 else 1) ∧
      (run arguments environment).stdout.accepted =
        Utf8.encode (Report.text (expression.accepts tags) showLimits expression.limits) := by
  obtain ⟨hstatus, hstdout⟩ := answer_run_of_asks h {}
  rw [hstatus, hstdout, Report.answer_write_unbounded hcompile]
  refine ⟨?_, rfl⟩
  cases expression.accepts tags <;> rfl

end Asks

theorem status_eq_two_iff (h : Request.read arguments = .ok (.check invocation))
    (environment : Environment) :
    (run arguments environment).status = 2 ↔
      environment.LevelUnknown ∨
        ∃ conflict,
          Expression.compile (environment.inForce invocation.expressions) = .error conflict := by
  by_cases hlevel : environment.LevelUnknown
  · simp [hlevel, (run_of_levelUnknown h hlevel {}).1]
  · obtain ⟨level, hasks⟩ := exists_asks h hlevel
    cases hcompile : Expression.compile (environment.inForce invocation.expressions) with
    | error conflict => simp [(run_of_compile_error hasks hcompile {}).1]
    | ok expression =>
      rw [(run_of_compile_ok hasks hcompile).1]
      cases expression.accepts invocation.tags <;> simp [hlevel]

theorem run_of_expressions_ne_nil (h : Request.read arguments = .ok (.check invocation))
    (hne : invocation.expressions ≠ []) (environment : Environment)
    (expressions? : Option RawText) (stdout : Sink) :
    run arguments { environment with expressions? } stdout =
      run arguments environment stdout := by
  have hoverride (level : Level) (before : List Text) :
      ({ level, expressions := before } : Settings).override invocation.level?
          invocation.expressions =
        ({ level } : Settings).override invocation.level? invocation.expressions := by
    simp [Settings.override, hne]
  simp only [run_of_check h, check, Settings.ofEnvironment]
  cases environment.level?.bind RawText.text? with
  | none => simp only [hoverride]
  | some word =>
    cases hread : Level.read word with
    | error unknown => simp only [hread, Except.map]
    | ok level => simp only [hread, Except.map, hoverride]

/-- A run is settled by the level of the environment and by the strings in force. Its status is 2
when one of them is at fault. Otherwise the status and the first line give the verdict, and the
limits that are asked for follow in the order of their names. -/
theorem outcome_of_check (h : Request.read arguments = .ok (.check invocation))
    (environment : Environment) :
    let inputs := environment.inForce invocation.expressions
    let outcome := run arguments environment
    (environment.LevelUnknown → outcome.status = 2 ∧ outcome.stdout.accepted = []) ∧
      (¬ environment.LevelUnknown →
        (∀ conflict, Expression.compile inputs = .error conflict →
          outcome.status = 2 ∧ outcome.stdout.accepted = []) ∧
        ∀ expression, Expression.compile inputs = .ok expression →
          outcome.status = (if expression.accepts invocation.tags then 0 else 1) ∧
          ∃ listing : List (Text × Limit),
            (listing.Pairwise fun a b => a.1 < b.1) ∧
            (∀ entry, entry ∈ listing ↔ entry ∈ Written.declarations inputs) ∧
            outcome.stdout.accepted = Utf8.encode
              ((if expression.accepts invocation.tags then "match\n".toList
                else "no match\n".toList) ++
              if invocation.showLimits then
                listing.flatMap fun entry =>
                  entry.1 ++ ['='] ++ Nat.toDigits 10 entry.2.toNat ++ ['\n']
              else [])) ∧
      (outcome.status = 2 ↔
        environment.LevelUnknown ∨ ∃ conflict, Expression.compile inputs = .error conflict) ∧
      (invocation.expressions ≠ [] → ∀ expressions?,
        run arguments { environment with expressions? } = outcome) := by
  intro inputs outcome
  refine ⟨?_, ?_, status_eq_two_iff h environment, ?_⟩
  · intro hlevel
    obtain ⟨hstatus, hstdout⟩ := run_of_levelUnknown h hlevel {}
    exact ⟨hstatus, congrArg Sink.accepted hstdout⟩
  · intro hlevel
    obtain ⟨level, hasks⟩ := exists_asks h hlevel
    constructor
    · intro conflict hconflict
      obtain ⟨hstatus, hstdout⟩ := run_of_compile_error hasks hconflict {}
      exact ⟨hstatus, congrArg Sink.accepted hstdout⟩
    · intro expression hexpression
      obtain ⟨hstatus, hstdout⟩ := run_of_compile_ok hasks hexpression
      refine ⟨hstatus, expression.limits.toList, expression.limits.toList_pairwise_lt,
        Expression.mem_limits_of_compile hexpression, ?_⟩
      rw [hstdout, Report.text_eq]
      rfl
  · intro hne expressions?
    exact run_of_expressions_ne_nil h hne environment expressions? {}

theorem outcome_of_check_blank_expression :
    let arguments := ["-", "--tags=~@b:2,c:1", "--limits", "--log-level", "ERROR", "--tags", "",
      "--", "@b"].map fun argument => RawText.ofText argument.toList
    let invocation : Invocation :=
      { expressions := ["~@b:2,c:1".toList, []], level? := some .error, showLimits := true
        tags := ["-".toList, "@b".toList] }
    let expression : Expression :=
      { clauses := [⟨[⟨"@b".toList, true⟩, ⟨"c".toList, false⟩]⟩]
        limits := ⟨[("b".toList, 2), ("c".toList, 1)], by decide⟩ }
    let clashing : Environment := { expressions? := some (RawText.ofText "a:1;a:2".toList) }
    let loud : Environment := { level? := some (RawText.ofText "loud".toList) }
    Request.read arguments = .ok (.check invocation) ∧
      ¬ clashing.LevelUnknown ∧
      Expression.compile (clashing.inForce invocation.expressions) = .ok expression ∧
      (run arguments clashing).status = 1 ∧
      (run arguments clashing).stdout.accepted = Utf8.encode "no match\nb=2\nc=1\n".toList ∧
      run arguments {} = run arguments clashing ∧
      loud.LevelUnknown ∧ (run arguments loud).status = 2 ∧
      (run arguments loud).stdout.accepted = [] := by
  intro arguments invocation expression clashing loud
  have hread : Request.read arguments = .ok (.check invocation) := rfl
  have hcompile : Expression.compile (clashing.inForce invocation.expressions) =
      .ok expression := rfl
  have hknown : ¬ clashing.LevelUnknown :=
    Settings.not_levelUnknown_of_ofEnvironment
      (show Settings.ofEnvironment clashing = .ok ⟨.warn, ["a:1".toList, "a:2".toList]⟩ from rfl)
  have hloud : loud.LevelUnknown := by
    refine ⟨"loud".toList, rfl, fun level h => ?_⟩
    have herror : Level.read "loud".toList = .error ⟨"loud".toList⟩ := rfl
    cases herror.symm.trans h
  obtain ⟨_, hanswer, _, hsame⟩ := outcome_of_check hread clashing
  obtain ⟨hstatus, _⟩ := (hanswer hknown).2 expression hcompile
  have hfault := (outcome_of_check hread loud).1 hloud
  exact ⟨hread, hknown, hcompile, hstatus, rfl, hsame (by decide) none, hloud, hfault⟩

end Program

end TagFilter
