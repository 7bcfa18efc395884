import TagFilter.Proofs.Text.LowerCase
import TagFilter.Proofs.Text.Trim
import TagFilter.Sink

namespace TagFilter

def Text.SameUpToCase (first second : Text) : Prop :=
  first.map Char.toLower = second.map Char.toLower
  deriving Decidable

theorem Text.isBlank_of_isAlpha {c : Char} (h : c.isAlpha = true) : Text.isBlank c = false := by
  rw [isAlpha_iff_toNat] at h
  exact Text.isBlank_of_lt_of_lt (by omega) (by omega)

theorem Failure.message_settings (word : Text) :
    (Failure.settings ⟨word⟩).message =
      "invalid configuration: unknown log level '".toList ++ word ++
        "', expected one of: trace, debug, info, warn, error".toList := by
  have hstart : "invalid configuration: unknown log level '".toList =
      "invalid configuration: ".toList ++ "unknown log level '".toList := by simp
  calc
    (Failure.settings ⟨word⟩).message =
        "invalid configuration: ".toList ++ ("unknown log level '".toList ++ word ++
          "', expected one of: trace, debug, info, warn, error".toList) := rfl
    _ = _ := by rw [hstart, List.append_assoc, List.append_assoc, List.append_assoc]

namespace Level

variable {word : Text} {level : Level}

theorem lookup_words_eq_some_iff {text : Text} :
    words.lookup text = some level ↔ (text, level) ∈ words := by
  constructor
  · intro h
    obtain ⟨before, after, hsplit, _⟩ := List.lookup_eq_some_iff.1 h
    simp [hsplit]
  · intro h
    simp only [words, List.mem_cons, Prod.mk.injEq, List.not_mem_nil, or_false] at h
    rcases h with ⟨rfl, rfl⟩ | ⟨rfl, rfl⟩ | ⟨rfl, rfl⟩ | ⟨rfl, rfl⟩ | ⟨rfl, rfl⟩ | ⟨rfl, rfl⟩ <;>
      rfl

theorem read_eq_ok_iff_mem_words :
    read word = .ok level ↔ (Text.lowerCase word, level) ∈ words := by
  rw [← lookup_words_eq_some_iff, read]
  cases words.lookup (Text.lowerCase word) <;> simp

theorem isLower_of_mem_words {spelled : Text} (h : (spelled, level) ∈ words) :
    (∀ c ∈ spelled, c.isLower = true) ∧ 'k' ∉ spelled := by
  have hall : words.all (fun entry => entry.1.all Char.isLower && !entry.1.contains 'k') = true :=
    rfl
  simpa using List.all_eq_true.1 hall _ h

theorem read_eq_ok_iff_map_toLower :
    read word = .ok level ↔ (word.map Char.toLower, level) ∈ words := by
  have hplain {spelled : Text} (h : (spelled, level) ∈ words) :
      Text.lowerCase word = spelled ↔ word.map Char.toLower = spelled := by
    obtain ⟨hlower, hk⟩ := isLower_of_mem_words h
    exact Text.lowerCase_eq_iff
      (fun c hc => Text.isAscii_of_isAlpha (Bool.or_eq_true_iff.2 (.inr (hlower c hc)))) hk
  rw [read_eq_ok_iff_mem_words]
  constructor
  · intro h
    rwa [(hplain h).1 rfl]
  · intro h
    rwa [(hplain h).2 rfl]

theorem isAlpha_of_read_eq_ok (h : read word = .ok level) : ∀ c ∈ word, c.isAlpha = true := by
  intro c hc
  rw [read_eq_ok_iff_map_toLower] at h
  exact Text.isAlpha_of_isLower_toLower ((isLower_of_mem_words h).1 _ (List.mem_map_of_mem hc))

def spellings : List (String × Level) :=
  [("trace", .trace), ("debug", .debug), ("info", .info), ("warn", .warn), ("warning", .warn),
    ("error", .error)]

theorem mem_words_iff {text : Text} :
    (text, level) ∈ words ↔ ∃ spelled, (spelled, level) ∈ spellings ∧ spelled.toList = text := by
  have hwords : words = spellings.map fun entry => (entry.1.toList, entry.2) := rfl
  simp [hwords]

theorem map_toLower_of_mem_spellings {spelled : String} (h : (spelled, level) ∈ spellings) :
    spelled.toList.map Char.toLower = spelled.toList := by
  have hall : spellings.all
      (fun entry => entry.1.toList.map Char.toLower == entry.1.toList) = true := by decide +kernel
  simpa using List.all_eq_true.1 hall _ h

theorem read_eq_ok_iff_spelled :
    read word = .ok level ↔
      ∃ spelled, (spelled, level) ∈ spellings ∧ Text.SameUpToCase word spelled.toList := by
  rw [read_eq_ok_iff_map_toLower, mem_words_iff]
  apply exists_congr
  intro spelled
  rw [and_congr_right_iff]
  intro h
  rw [Text.SameUpToCase, map_toLower_of_mem_spellings h, eq_comm]

/-- A word names a level exactly when it has the letters of one of six words, in any case, and
nothing else. Any other is refused, and complained about as it was written. -/
theorem read_eq_ok_iff_sameUpToCase (word : Text) :
    (∀ level, read word = .ok level ↔
        ∃ spelled, (spelled, level) ∈ spellings ∧
          word.length = spelled.toList.length ∧ Text.SameUpToCase word spelled.toList) ∧
      (∀ level, read word = .ok level →
        ∀ c ∈ word, Text.isAscii c = true ∧ Text.isBlank c = false) ∧
      ((∀ level, read word ≠ .ok level) →
        read word = .error ⟨word⟩ ∧
          (Failure.settings ⟨word⟩).message =
            "invalid configuration: unknown log level '".toList ++ word ++
              "', expected one of: trace, debug, info, warn, error".toList) := by
  refine ⟨fun level => ?_, fun level h c hc => ?_, fun h => ?_⟩
  · rw [read_eq_ok_iff_spelled]
    constructor
    · rintro ⟨spelled, hmem, hsame⟩
      exact ⟨spelled, hmem, by simpa using congrArg List.length hsame, hsame⟩
    · rintro ⟨spelled, hmem, _, hsame⟩
      exact ⟨spelled, hmem, hsame⟩
  · have halpha := isAlpha_of_read_eq_ok h c hc
    exact ⟨Text.isAscii_of_isAlpha halpha, Text.isBlank_of_isAlpha halpha⟩
  · cases hread : read word with
    | ok level => exact (h level hread).elim
    | error unknown =>
      rw [eq_of_read_eq_error hread]
      exact ⟨rfl, Failure.message_settings word⟩

theorem read_eq_ok_iff_sameUpToCase_beyond_ascii :
    let dotted := "İNFO".toList
    let blank := "info ".toList
    read "WaRnInG".toList = .ok .warn ∧
      Text.lowerCase dotted = "i\u0307nfo".toList ∧
      read dotted = .error ⟨dotted⟩ ∧
      (Failure.settings ⟨dotted⟩).message =
        "invalid configuration: unknown log level '".toList ++ dotted ++
          "', expected one of: trace, debug, info, warn, error".toList ∧
      read blank = .error ⟨blank⟩ := by
  intro dotted blank
  have hwarn := ((read_eq_ok_iff_sameUpToCase "WaRnInG".toList).1 .warn).2
    ⟨"warning", by decide, by decide, by decide⟩
  obtain ⟨_, hplain, hrefused⟩ := read_eq_ok_iff_sameUpToCase dotted
  obtain ⟨hread, hmessage⟩ := hrefused fun level h => by
    have hascii := (hplain level h 'İ' (by decide)).1
    cases hascii
  obtain ⟨_, hplain, hrefused⟩ := read_eq_ok_iff_sameUpToCase blank
  obtain ⟨hblank, _⟩ := hrefused fun level h => by
    have hspace := (hplain level h ' ' (by decide)).2
    cases hspace
  exact ⟨hwarn, by decide +kernel, hread, hmessage, hblank⟩

end Level

end TagFilter
