import TagFilter.Proofs.Text.Trim
import TagFilter.Settings

namespace TagFilter

namespace Written

def strings (value : Text) : List Text :=
  ((value.splitOn ';').map fun piece =>
    (piece.dropWhile Text.isBlank).rdropWhile Text.isBlank).filter (· ≠ [])

theorem strings_eq_readExpressions (value : Text) :
    strings value = Settings.readExpressions value := by
  rw [strings, Settings.readExpressions]
  congr 2
  funext piece
  exact (Text.trim_eq_rdropWhile piece).symm

end Written

namespace Environment

/-- The variable for the level is set to a text, and that is no word for a level. -/
def LevelUnknown (environment : Environment) : Prop :=
  ∃ word, environment.level? = some (RawText.ofText word) ∧
    ∀ level, Level.read word ≠ .ok level

def strings (environment : Environment) : List Text :=
  ((environment.expressions?.bind RawText.text?).map Written.strings).getD []

/-- The strings that are in force when the command line gives some: these, if there are any. -/
def inForce (environment : Environment) (given : List Text) : List Text :=
  if given = [] then environment.strings else given

theorem bind_text?_eq_some_iff {raw? : Option RawText} {text : Text} :
    raw?.bind RawText.text? = some text ↔ raw? = some (RawText.ofText text) := by
  rw [Option.bind_eq_some_iff]
  constructor
  · rintro ⟨raw, hraw, htext⟩
    rw [hraw, RawText.text?_eq_some_iff.1 htext]
  · intro h
    exact ⟨_, h, RawText.text?_ofText text⟩

end Environment

namespace Settings

variable {environment : Environment}

theorem ofEnvironment_of_levelUnknown (h : environment.LevelUnknown) :
    ∃ unknown, ofEnvironment environment = .error unknown := by
  obtain ⟨word, hword, hunknown⟩ := h
  rw [← Environment.bind_text?_eq_some_iff] at hword
  cases hread : Level.read word with
  | ok level => exact absurd hread (hunknown level)
  | error unknown => exact ⟨unknown, by simp [ofEnvironment, hword, hread, Except.map]⟩

theorem ofEnvironment_of_not_levelUnknown (h : ¬ environment.LevelUnknown) :
    ∃ level, ofEnvironment environment = .ok { level, expressions := environment.strings } := by
  have hstrings : ((environment.expressions?.bind RawText.text?).map readExpressions).getD [] =
      environment.strings := by
    rw [Environment.strings, funext Written.strings_eq_readExpressions]
  cases hlevel : environment.level?.bind RawText.text? with
  | none => exact ⟨.warn, by rw [ofEnvironment, hlevel, hstrings]⟩
  | some word =>
    cases hread : Level.read word with
    | ok level =>
      refine ⟨level, ?_⟩
      rw [ofEnvironment, hlevel, hstrings]
      simp only [hread]
      rfl
    | error unknown =>
      refine absurd ⟨word, Environment.bind_text?_eq_some_iff.1 hlevel, fun level => ?_⟩ h
      simp [hread]

theorem not_levelUnknown_of_ofEnvironment {settings : Settings}
    (h : ofEnvironment environment = .ok settings) : ¬ environment.LevelUnknown := by
  intro hunknown
  obtain ⟨unknown, herror⟩ := ofEnvironment_of_levelUnknown hunknown
  cases h.symm.trans herror

theorem expressions_of_ofEnvironment {settings : Settings}
    (h : ofEnvironment environment = .ok settings) :
    settings.expressions = environment.strings := by
  obtain ⟨level, hlevel⟩ :=
    ofEnvironment_of_not_levelUnknown (not_levelUnknown_of_ofEnvironment h)
  rw [Except.ok.inj (h.symm.trans hlevel)]

theorem expressions_override (settings : Settings) (level? : Option Level) (given : List Text) :
    (settings.override level? given).expressions =
      if given = [] then settings.expressions else given := by
  cases given <;> rfl

end Settings

end TagFilter
