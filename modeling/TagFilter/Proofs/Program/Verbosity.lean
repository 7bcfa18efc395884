import TagFilter.Proofs.Program.Outcome

namespace TagFilter

namespace Record

/-- The lines of some records, each with its level. Those of the most verbose level are left out. -/
def lines (records : List Record) : List (Level × Text) :=
  (records.filter (·.level ≠ .trace)).map fun record => (record.level, record.render)

theorem isShownAt_of_severity_le {first second level : Level}
    (h : first.severity ≤ second.severity) (hshown : second.isShownAt level = true) :
    first.isShownAt level = true := by
  rw [Level.isShownAt, decide_eq_true_eq] at hshown ⊢
  exact h.trans hshown

theorem shownAt_shownAt {first second : Level} (h : first.severity ≤ second.severity)
    (records : List Record) :
    shownAt second (shownAt first records) = shownAt second records := by
  rw [shownAt, shownAt, List.filter_filter, shownAt]
  apply List.filter_congr
  intro record _
  cases hshown : second.isShownAt record.level with
  | true => rw [isShownAt_of_severity_le h hshown]; rfl
  | false => rfl

theorem lines_shownAt (level : Level) (records : List Record) :
    lines (shownAt level records) =
      (lines records).filter fun line => level.severity ≤ line.1.severity := by
  rw [lines, lines, shownAt, List.filter_map, List.filter_filter, List.filter_filter]
  congr 1
  apply List.filter_congr
  intro record _
  exact Bool.and_comm _ _

end Record

namespace Program

/-- Whichever levels are in force, the answer is the same, and a more severe level leaves those
lines of the log that are severe enough for it. -/
theorem run_at_two_levels {firstArguments secondArguments : List RawText}
    {firstEnvironment secondEnvironment : Environment} {inputs : List Text} {tags : List Tag}
    {showLimits : Bool} {first second : Level}
    (hfirst : Asks firstArguments firstEnvironment inputs tags showLimits first)
    (hsecond : Asks secondArguments secondEnvironment inputs tags showLimits second)
    (stdout : Sink) :
    let verbose := run firstArguments firstEnvironment stdout
    let terse := run secondArguments secondEnvironment stdout
    verbose.status = terse.status ∧
      verbose.stdout = terse.stdout ∧
      (first.severity ≤ second.severity →
        Record.lines terse.log =
          (Record.lines verbose.log).filter fun line => second.severity ≤ line.1.severity) := by
  intro verbose terse
  have hverbose : verbose = _ := run_of_asks hfirst stdout
  have hterse : terse = _ := run_of_asks hsecond stdout
  rw [hverbose, hterse]
  refine ⟨rfl, rfl, fun hle => ?_⟩
  rw [← Record.lines_shownAt, Record.shownAt_shownAt hle]

theorem run_at_two_levels_conflict :
    let inputs := ["~:3,@a:x".toList, "b:1,@b:2".toList]
    let arguments (level : String) := ["--log-level", level, "--tags=~:3,@a:x", "--tags=b:1,@b:2",
      "@a"].map fun argument => RawText.ofText argument.toList
    let environment : Environment := { level? := some (RawText.ofText "Info".toList) }
    let verbose := run (arguments "debug") environment
    let terse := run (arguments "ERROR") {}
    Asks (arguments "debug") environment inputs ["@a".toList] false .debug ∧
      Asks (arguments "ERROR") {} inputs ["@a".toList] false .error ∧
      verbose.status = 2 ∧ terse.status = 2 ∧
      verbose.log.map (·.level) = [.debug, .warn, .warn, .debug, .error] ∧
      Record.lines terse.log =
        (Record.lines verbose.log).filter fun line =>
          Level.error.severity ≤ line.1.severity := by
  intro inputs arguments environment verbose terse
  have hverbose : Asks (arguments "debug") environment inputs ["@a".toList] false .debug :=
    ⟨_, _, rfl, rfl, rfl, rfl, rfl, rfl⟩
  have hterse : Asks (arguments "ERROR") {} inputs ["@a".toList] false .error :=
    ⟨_, _, rfl, rfl, rfl, rfl, rfl, rfl⟩
  obtain ⟨hstatus, _, hlines⟩ := run_at_two_levels hverbose hterse {}
  have hfailed : verbose.status = 2 := rfl
  exact ⟨hverbose, hterse, hfailed, hstatus.symm.trans hfailed, rfl, hlines (by decide)⟩

end Program

end TagFilter
