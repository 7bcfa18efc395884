import TagFilter.Proofs.Expression.Heads
import TagFilter.Proofs.Report.Answer
import TagFilter.Proofs.Settings.Environment

namespace TagFilter

namespace Written

theorem pieces_trim (input : Text) : pieces input.trim = pieces input := by
  rw [pieces_eq_map_trim, pieces_eq_map_trim, Text.trim_trim]

theorem heads_trim (input : Text) : heads input.trim = heads input := by
  rw [heads, heads, pieces_trim]

theorem declared_trim (input : Text) : declared input.trim = declared input := by
  rw [declared, declared, ordered, ordered, pieces_trim]

theorem declarations_map_trim (inputs : List Text) :
    declarations (inputs.map Text.trim) = declarations inputs := by
  induction inputs with
  | nil => rfl
  | cons input inputs ih =>
    rw [List.map_cons, declarations_cons, declarations_cons, declared_trim, ih]

theorem clauses_map_trim (inputs : List Text) :
    clauses (inputs.map Text.trim) = clauses inputs := by
  apply clauses_congr
  rw [List.map_map]
  apply List.map_congr_left
  intro input _
  exact heads_trim input

theorem declarations_filter_ne_nil (inputs : List Text) :
    declarations (inputs.filter (· ≠ [])) = declarations inputs := by
  induction inputs with
  | nil => rfl
  | cons input inputs ih =>
    cases input with
    -- The empty string has one piece, and that declares nothing.
    | nil => exact ih
    | cons c rest => exact congrArg (declared (c :: rest) ++ ·) ih

theorem clauses_filter_ne_nil (inputs : List Text) :
    clauses (inputs.filter (· ≠ [])) = clauses inputs := by
  induction inputs with
  | nil => rfl
  | cons input inputs ih =>
    cases input with
    | nil => exact ih
    | cons c rest =>
      rw [List.filter_cons_of_pos (by simp), clauses_cons, clauses_cons, ih]

end Written

namespace Expression

theorem compile_map_trim (inputs : List Text) :
    compile (inputs.map Text.trim) = compile inputs := by
  rw [compile_eq, compile_eq, Written.declarations_map_trim, Written.clauses_map_trim]

theorem compile_filter_ne_nil (inputs : List Text) :
    compile (inputs.filter (· ≠ [])) = compile inputs := by
  rw [compile_eq, compile_eq, Written.declarations_filter_ne_nil, Written.clauses_filter_ne_nil]

theorem compile_readExpressions (value : Text) :
    compile (Settings.readExpressions value) = compile (value.splitOn ';') := by
  rw [Settings.readExpressions, compile_filter_ne_nil, compile_map_trim]

theorem compile_readExpressions_join {inputs : List Text} (h : ∀ input ∈ inputs, ';' ∉ input) :
    compile (Settings.readExpressions (Text.join [';'] inputs)) = compile inputs := by
  cases inputs with
  -- Nothing joined is the empty value, which has one blank piece.
  | nil => rfl
  | cons input inputs =>
    rw [compile_readExpressions, Text.join, List.splitOn_intercalate ';' h (List.cons_ne_nil _ _)]

end Expression

namespace Report

/-- Strings without semicolons have one answer, whether they are joined in the environment or
override the default settings. Any value of the environment compiles as its pieces do. -/
theorem answer_from_either_source :
    (∀ (inputs : List Text) (environment : Environment),
        (∀ input ∈ inputs, ';' ∉ input) →
        environment.expressions? = some (RawText.ofText (Text.join [';'] inputs)) →
        ¬ environment.LevelUnknown →
          ∃ settings, Settings.ofEnvironment environment = .ok settings ∧
            ∀ (level? : Option Level) (tags : List Tag) (showLimits : Bool) (sink : Sink),
              (write settings tags showLimits sink).answer =
                (write (({} : Settings).override level? inputs) tags showLimits sink).answer) ∧
      ∀ value : Text,
        Expression.compile (Settings.readExpressions value) =
          Expression.compile (value.splitOn ';') := by
  refine ⟨?_, Expression.compile_readExpressions⟩
  intro inputs environment hinputs hvalue hlevel
  obtain ⟨level, hsettings⟩ := Settings.ofEnvironment_of_not_levelUnknown hlevel
  refine ⟨_, hsettings, fun level? tags showLimits sink => ?_⟩
  apply answer_write_congr
  have hstrings : environment.strings = Settings.readExpressions (Text.join [';'] inputs) := by
    rw [Environment.strings, hvalue, ← Written.strings_eq_readExpressions]
    simp
  have hoverride : (({} : Settings).override level? inputs).expressions = inputs := by
    rw [Settings.expressions_override]
    cases inputs <;> rfl
  rw [hoverride]
  exact (congrArg Expression.compile hstrings).trans
    (Expression.compile_readExpressions_join hinputs)

theorem answer_from_either_source_blank_strings :
    let inputs := [" , ".toList, [], " ~@b:2,@c".toList, "~:1".toList]
    let environment : Environment :=
      { level? := some (RawText.ofText "Warning".toList)
        expressions? := some (RawText.ofText " , ;; ~@b:2,@c;~:1".toList) }
    let settings : Settings :=
      { expressions := [",".toList, "~@b:2,@c".toList, "~:1".toList] }
    let room : Sink := { room? := some 9 }
    (∀ input ∈ inputs, ';' ∉ input) ∧ ¬ environment.LevelUnknown ∧
      Settings.ofEnvironment environment = .ok settings ∧ settings.expressions ≠ inputs ∧
      (write settings ["b".toList] true room).answer =
        (write (({} : Settings).override (some .trace) inputs) ["b".toList] true room).answer ∧
      Expression.compile (Settings.readExpressions " @a:1;; ~a:2 ".toList) =
        Expression.compile (" @a:1;; ~a:2 ".toList.splitOn ';') := by
  intro inputs environment settings room
  have hsettings : Settings.ofEnvironment environment = .ok settings := rfl
  have hinputs : ∀ input ∈ inputs, ';' ∉ input := by decide
  have hlevel := Settings.not_levelUnknown_of_ofEnvironment hsettings
  obtain ⟨other, hother, hanswer⟩ :=
    answer_from_either_source.1 inputs environment hinputs rfl hlevel
  obtain rfl := Except.ok.inj (hsettings.symm.trans hother)
  exact ⟨hinputs, hlevel, hsettings, by decide, hanswer _ _ _ _, answer_from_either_source.2 _⟩

end Report

end TagFilter
