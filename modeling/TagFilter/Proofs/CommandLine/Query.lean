import TagFilter.Proofs.Program.Outcome

namespace TagFilter

namespace CommandLine

def ofQuery (expressions : List Text) (tags : List Tag) (showLimits : Bool) : List RawText :=
  expressions.map (fun expression => RawText.ofText ("--tags=".toList ++ expression)) ++
    ((if showLimits then [RawText.ofText "--limits".toList] else []) ++
      RawText.ofText "--".toList :: tags.map RawText.ofText)

theorem wellFormed_ofText (text : Text) : wellFormed (RawText.ofText text) = .ok text := by
  rw [wellFormed, RawText.text?_ofText]

namespace Invocation

theorem addTags_map_ofText (invocation : Invocation) (tags : List Tag) :
    invocation.addTags (tags.map RawText.ofText) =
      .ok { invocation with tags := invocation.tags ++ tags } := by
  induction tags generalizing invocation with
  | nil => simp [addTags]
  | cons tag tags ih => simp [addTags, wellFormed_ofText, ih]

theorem addOption_tags (invocation : Invocation) (expression : Text) :
    invocation.addOption .tags (RawText.ofText expression) =
      .ok { invocation with expressions := invocation.expressions ++ [expression] } := by
  rw [addOption, wellFormed_ofText]
  rfl

end Invocation

/-- What is assumed of a reader that takes arguments on top of an invocation. A value after the
first `=` is one occurrence of its option and is taken whole, `--limits` takes no value, and behind
`--` nothing is an option. -/
structure ParsingRules (readOn : Invocation → List RawText → Except UsageError Request) :
    Prop where
  option : ∀ {invocation after : Invocation} {name : Text} {key : Key} (value : RawText)
    (rest : List RawText), (name, Choice.key key) ∈ Choice.names →
    invocation.addOption key value = .ok after →
    readOn invocation ((RawText.ofText ("--".toList ++ name ++ ['=']) ++ value) :: rest) =
      readOn after rest
  flag : ∀ {invocation : Invocation} (rest : List RawText), invocation.showLimits = false →
    readOn invocation (RawText.ofText "--limits".toList :: rest) =
      readOn { invocation with showLimits := true } rest
  separator : ∀ {invocation after : Invocation} {values : List RawText},
    invocation.addTags values = .ok after →
    readOn invocation (RawText.ofText "--".toList :: values) = .ok (.check after)

namespace ParsingRules

variable {readOn : Invocation → List RawText → Except UsageError Request}

theorem read_tags (rules : ParsingRules readOn) (invocation : Invocation) (expression : Text)
    (rest : List RawText) :
    readOn invocation (RawText.ofText ("--tags=".toList ++ expression) :: rest) =
      readOn { invocation with expressions := invocation.expressions ++ [expression] } rest := by
  have hargument : RawText.ofText ("--tags=".toList ++ expression) =
      RawText.ofText ("--".toList ++ "tags".toList ++ ['=']) ++ RawText.ofText expression := rfl
  rw [hargument]
  exact rules.option _ rest (by decide) (invocation.addOption_tags expression)

theorem read_map_tags (rules : ParsingRules readOn) (invocation : Invocation)
    (expressions : List Text) (rest : List RawText) :
    readOn invocation
        (expressions.map (fun expression => RawText.ofText ("--tags=".toList ++ expression)) ++
          rest) =
      readOn { invocation with expressions := invocation.expressions ++ expressions } rest := by
  induction expressions generalizing invocation with
  | nil => simp
  | cons expression expressions ih =>
    rw [List.map_cons, List.cons_append, rules.read_tags, ih]
    simp

theorem read_ofQuery (rules : ParsingRules readOn) (expressions : List Text) (tags : List Tag)
    (showLimits : Bool) :
    readOn {} (ofQuery expressions tags showLimits) =
      .ok (.check { expressions, showLimits, tags }) := by
  rw [ofQuery, rules.read_map_tags]
  cases showLimits with
  | true =>
    rw [if_pos rfl, List.singleton_append, rules.flag _ rfl]
    exact rules.separator (Invocation.addTags_map_ofText _ tags)
  | false =>
    simp only [Bool.false_eq_true, if_false, List.nil_append]
    exact rules.separator (Invocation.addTags_map_ofText _ tags)

end ParsingRules

theorem Choice.ofName?_ofText {name : Text} {choice : Choice} (h : (name, choice) ∈ names) :
    ofName? (RawText.ofText name) = some choice := by
  simp only [names, List.mem_cons, Prod.mk.injEq, List.not_mem_nil, or_false] at h
  rcases h with ⟨rfl, rfl⟩ | ⟨rfl, rfl⟩ | ⟨rfl, rfl⟩ | ⟨rfl, rfl⟩ | ⟨rfl, rfl⟩ <;> rfl

theorem Argument.ofRaw_value {name : Text} {choice : Choice} (h : (name, choice) ∈ Choice.names)
    (value : RawText) :
    ofRaw (RawText.ofText ("--".toList ++ name ++ ['=']) ++ value) =
      .long (RawText.ofText name) (some value) := by
  simp only [Choice.names, List.mem_cons, Prod.mk.injEq, List.not_mem_nil, or_false] at h
  rcases h with ⟨rfl, _⟩ | ⟨rfl, _⟩ | ⟨rfl, _⟩ | ⟨rfl, _⟩ | ⟨rfl, _⟩ <;> rfl

namespace Request

theorem readFrom_parsingRules :
    ParsingRules fun invocation => readFrom invocation .nothing where
  option {invocation after name key} value rest hname hadd := by
    rw [readFrom, Argument.ofRaw_value hname]
    simp [Choice.ofName?_ofText hname, Invocation.settle, bind, Except.bind, hadd]
  flag {invocation} rest h := by
    have hraw : Argument.ofRaw (RawText.ofText "--limits".toList) =
        .long (RawText.ofText "limits".toList) none := rfl
    have hname : ("limits".toList, Choice.limits) ∈ Choice.names := by decide
    rw [readFrom, hraw]
    simp only [Choice.ofName?_ofText hname, Invocation.settle]
    simp [bind, Except.bind, h]
  separator {invocation after values} h := by
    have hraw : Argument.ofRaw (RawText.ofText "--".toList) = .separator := rfl
    rw [readFrom, hraw]
    simp [readTags, Invocation.settle, h, bind, Except.bind, pure, Except.pure]

theorem read_ofQuery (expressions : List Text) (tags : List Tag) (showLimits : Bool) :
    read (ofQuery expressions tags showLimits) =
      .ok (.check { expressions, showLimits, tags }) :=
  readFrom_parsingRules.read_ofQuery expressions tags showLimits

end Request

end CommandLine

namespace Program

open CommandLine

/-- A query on the command line is answered as by a report on its strings and tags, and on the
strings of the environment when it has none. -/
theorem run_ofQuery (expressions : List Text) (tags : List Tag) (showLimits : Bool)
    {environment : Environment} (h : ¬ environment.LevelUnknown) (stdout : Sink) :
    Request.read (ofQuery expressions tags showLimits) =
        .ok (.check { expressions, level? := none, showLimits, tags }) ∧
      ∀ level,
        let outcome := run (ofQuery expressions tags showLimits) environment stdout
        let report := Report.write { level, expressions := environment.inForce expressions } tags
          showLimits stdout
        outcome.usageError? = none ∧
          outcome.status = status report.result ∧
          outcome.stdout = report.sink := by
  have hread := Request.read_ofQuery expressions tags showLimits
  refine ⟨hread, fun level => ?_⟩
  intro outcome report
  obtain ⟨other, hasks⟩ := exists_asks hread h
  have houtcome : outcome = _ := run_of_asks hasks stdout
  have hreport : report = Report.write { expressions := environment.inForce expressions } tags
      showLimits stdout := Report.write_eq_of_expressions rfl tags showLimits stdout
  rw [houtcome, hreport]
  exact ⟨rfl, rfl, rfl⟩

theorem run_ofQuery_hostile_texts :
    let expressions := ["--help".toList, "=,~@a:2".toList, "--limits".toList]
    let tags := ["--".toList, "--tags=x".toList, "-h".toList, [], "@--help".toList]
    let arguments := ["--tags=--help", "--tags==,~@a:2", "--tags=--limits", "--limits", "--", "--",
      "--tags=x", "-h", "", "@--help"].map fun argument => RawText.ofText argument.toList
    let environment : Environment :=
      { level? := some (RawText.ofText "ERROR".toList)
        expressions? := some (RawText.ofText "x;y".toList) }
    ofQuery expressions tags true = arguments ∧
      ¬ environment.LevelUnknown ∧
      Request.read arguments =
        .ok (.check { expressions, level? := none, showLimits := true, tags }) ∧
      (run arguments environment).status = 1 ∧
      (run arguments environment).stdout.accepted = Utf8.encode "no match\na=2\n".toList ∧
      (run (ofQuery [] ["y".toList] false) environment { room? := some 4 }).status = 2 := by
  intro expressions tags arguments environment
  have hknown : Settings.ofEnvironment environment = .ok ⟨.error, ["x".toList, "y".toList]⟩ := rfl
  have hlevel := Settings.not_levelUnknown_of_ofEnvironment hknown
  obtain ⟨hread, hanswer⟩ := run_ofQuery expressions tags true hlevel {}
  obtain ⟨_, hstatus, hstdout⟩ := hanswer .warn
  obtain ⟨_, hfull, _⟩ := (run_ofQuery [] ["y".toList] false hlevel { room? := some 4 }).2 .warn
  exact ⟨rfl, hlevel, hread, hstatus, congrArg Sink.accepted hstdout, hfull⟩

end Program

end TagFilter
