import Mathlib.Data.List.DropRight
import TagFilter.Proofs.Settings.Environment

namespace TagFilter

/-- The level that an environment brings along: the one it names, or the default when it names
none. -/
def Environment.GivesLevel (environment : Environment) (level : Level) : Prop :=
  match environment.level?.bind RawText.text? with
  | none => level = .warn
  | some word => Level.read word = .ok level

namespace Settings

namespace Change

def word? : Change → Option Text
  | .override word? _ => word?
  | .level word => some word
  | .reset => none

def isApplied (change : Change) : Bool := change.word?.all fun word => (Level.read word).isOk

def isReset : Change → Bool
  | .reset => true
  | _ => false

def level? (change : Change) : Option Level :=
  change.word?.bind fun word => (Level.read word).toOption

def strings? : Change → Option (List Text)
  | .override _ expressions => if expressions = [] then none else some expressions
  | _ => none

/-- The changes that were applied after the last reset. -/
def recent (changes : List Change) : List Change :=
  (changes.filter isApplied).rtakeWhile (!·.isReset)

def last? {α : Type} (given : Change → Option α) (changes : List Change) : Option α :=
  ((recent changes).filterMap given).getLast?

variable {change : Change} {α : Type} {given : Change → Option α}

theorem isApplied_of_isReset (h : change.isReset = true) : change.isApplied = true := by
  cases change with
  | reset => rfl
  | override => cases h
  | level => cases h

theorem last?_concat_of_refused (h : change.isApplied = false) (changes : List Change) :
    last? given (changes ++ [change]) = last? given changes := by
  have hfilter : (changes ++ [change]).filter isApplied = changes.filter isApplied := by simp [h]
  rw [last?, recent, hfilter]
  rfl

theorem last?_concat_of_isReset (h : change.isReset = true) (changes : List Change) :
    last? given (changes ++ [change]) = none := by
  have hfilter : (changes ++ [change]).filter isApplied = changes.filter isApplied ++ [change] := by
    simp [isApplied_of_isReset h]
  rw [last?, recent, hfilter, List.rtakeWhile_concat_neg _ _ _ (by simp [h])]
  rfl

theorem last?_concat_of_isApplied (h : change.isApplied = true) (hreset : change.isReset = false)
    (changes : List Change) :
    last? given (changes ++ [change]) = (given change).or (last? given changes) := by
  have hfilter : (changes ++ [change]).filter isApplied = changes.filter isApplied ++ [change] := by
    simp [h]
  rw [last?, recent, hfilter, List.rtakeWhile_concat_pos _ _ _ (by simp [hreset]),
    List.filterMap_append, List.getLast?_append]
  cases hgiven : given change with
  | none => simp [hgiven, last?, recent]
  | some value => simp [hgiven]

def applyTo (change : Change) (settings : Settings) : Settings :=
  let kept := if change.isReset then {} else settings
  { level := change.level?.getD kept.level
    expressions := change.strings?.getD kept.expressions }

end Change

open Change

variable {settings : Settings} {change : Change} {changes : List Change}

theorem exists_read_eq_ok {word : Text} (h : change.isApplied = true)
    (hword : change.word? = some word) : ∃ level, Level.read word = .ok level := by
  rw [isApplied, hword, Option.all_some] at h
  cases hread : Level.read word with
  | ok level => exact ⟨level, rfl⟩
  | error unknown =>
    rw [hread] at h
    cases h

theorem apply_of_isApplied (h : change.isApplied = true) (settings : Settings) :
    settings.apply change = .ok (change.applyTo settings) := by
  cases change with
  | reset => rfl
  | level word =>
    obtain ⟨level, hread⟩ := exists_read_eq_ok h rfl
    simp only [apply, applyTo, level?, word?, Option.bind_some, hread]
    rfl
  | override word? expressions =>
    have hgiven (level? : Option Level) : settings.override level? expressions =
        { level := level?.getD settings.level
          expressions := (strings? (.override word? expressions)).getD settings.expressions } := by
      cases expressions <;> rfl
    cases word? with
    | none => exact congrArg Except.ok (hgiven none)
    | some word =>
      obtain ⟨level, hread⟩ := exists_read_eq_ok h rfl
      simp only [apply, applyTo, level?, word?, Option.bind_some, hread, Except.map, hgiven]
      rfl

theorem exists_apply_eq_error (h : change.isApplied = false) (settings : Settings) :
    ∃ word, change.word? = some word ∧ settings.apply change = .error ⟨word⟩ := by
  cases hword : change.word? with
  | none => simp [isApplied, hword] at h
  | some word =>
    refine ⟨word, rfl, ?_⟩
    rw [isApplied, hword, Option.all_some] at h
    cases hread : Level.read word with
    | ok level =>
      rw [hread] at h
      cases h
    | error unknown =>
      rw [← Level.eq_of_read_eq_error hread]
      cases change with
      | reset => cases hword
      | level other =>
        cases hword
        rw [apply, hread]
        rfl
      | override other? expressions =>
        cases hword
        rw [apply, hread]
        rfl

theorem applyAll_append (settings : Settings) (changes next : List Change) :
    settings.applyAll (changes ++ next) = (settings.applyAll changes).applyAll next := by
  induction changes generalizing settings with
  | nil => rfl
  | cons change changes ih =>
    rw [List.cons_append, applyAll, applyAll]
    cases settings.apply change with
    | ok after => exact ih after
    | error unknown => exact ih settings

theorem outcomes_append (settings : Settings) (changes next : List Change) :
    settings.outcomes (changes ++ next) =
      settings.outcomes changes ++ (settings.applyAll changes).outcomes next := by
  induction changes generalizing settings with
  | nil => rfl
  | cons change changes ih =>
    rw [List.cons_append, outcomes, outcomes, applyAll]
    cases settings.apply change with
    | ok after => simp [ih after]
    | error unknown => simp [ih settings]

theorem applyAll_concat_of_isApplied (h : change.isApplied = true) (settings : Settings)
    (changes : List Change) :
    settings.applyAll (changes ++ [change]) = change.applyTo (settings.applyAll changes) := by
  rw [applyAll_append, applyAll, apply_of_isApplied h]
  rfl

theorem applyAll_cons_of_refused (h : change.isApplied = false) (settings : Settings)
    (changes : List Change) :
    settings.applyAll (change :: changes) = settings.applyAll changes := by
  obtain ⟨word, _, herror⟩ := exists_apply_eq_error h settings
  rw [applyAll, herror]

theorem applyAll_eq (settings : Settings) (changes : List Change) :
    settings.applyAll changes =
      let kept := if changes.any isReset then {} else settings
      { level := (last? level? changes).getD kept.level
        expressions := (last? strings? changes).getD kept.expressions } := by
  -- The last change decides about what all before it gave, so it is taken off at the end.
  induction changes using List.reverseRecOn with
  | nil => rfl
  | append_singleton changes change ih =>
    cases happlied : change.isApplied with
    | false =>
      have hreset : change.isReset = false := by
        rw [Bool.eq_false_iff]
        intro hreset
        rw [isApplied_of_isReset hreset] at happlied
        cases happlied
      rw [applyAll_append, applyAll_cons_of_refused happlied, applyAll, ih,
        last?_concat_of_refused happlied, last?_concat_of_refused happlied]
      simp [hreset]
    | true =>
      rw [applyAll_concat_of_isApplied happlied, ih]
      cases hreset : change.isReset with
      | true =>
        rw [last?_concat_of_isReset hreset, last?_concat_of_isReset hreset]
        cases change with
        | reset => simp [applyTo, isReset, level?, word?, strings?]
        | override => cases hreset
        | level => cases hreset
      | false =>
        rw [last?_concat_of_isApplied happlied hreset, last?_concat_of_isApplied happlied hreset]
        simp [applyTo, hreset, Option.getD_or]

theorem length_outcomes (settings : Settings) (changes : List Change) :
    (settings.outcomes changes).length = changes.length := by
  induction changes generalizing settings with
  | nil => rfl
  | cons change changes ih =>
    rw [outcomes]
    cases settings.apply change with
    | ok after => simp [ih after]
    | error unknown => simp [ih settings]

theorem getElem?_outcomes (settings : Settings) (earlier later : List Change) (change : Change) :
    (settings.outcomes (earlier ++ change :: later))[earlier.length]? =
      some ((settings.applyAll earlier).apply change) := by
  rw [outcomes_append, List.getElem?_append_right (by rw [length_outcomes]), length_outcomes,
    Nat.sub_self, outcomes]
  cases (settings.applyAll earlier).apply change <;> rfl

theorem applyAll_of_refused (h : change.isApplied = false) (settings : Settings)
    (earlier later : List Change) :
    settings.applyAll (earlier ++ change :: later) = settings.applyAll (earlier ++ later) := by
  rw [applyAll_append, applyAll_append, applyAll_cons_of_refused h]

theorem exists_override_of_last? {given : List Text} (h : last? strings? changes = some given) :
    ∃ word?, .override word? given ∈ changes := by
  obtain ⟨change, hrecent, hgiven⟩ := List.mem_filterMap.1 (List.mem_of_getLast? h)
  have hmem : change ∈ changes :=
    (List.mem_filter.1 ((List.rtakeWhile_suffix _ _).mem hrecent)).1
  cases change with
  | reset => cases hgiven
  | level word => cases hgiven
  | override word? expressions =>
    rw [strings?] at hgiven
    split at hgiven
    · cases hgiven
    · obtain rfl := Option.some.inj hgiven
      exact ⟨word?, hmem⟩

theorem expressions_applyAll (settings : Settings) (changes : List Change) :
    (settings.applyAll changes).expressions =
      (last? strings? changes).getD (if changes.any isReset then [] else settings.expressions) := by
  rw [applyAll_eq]
  cases changes.any isReset <;> rfl

theorem level_applyAll (settings : Settings) (changes : List Change) :
    (settings.applyAll changes).level =
      (last? level? changes).getD (if changes.any isReset then .warn else settings.level) := by
  rw [applyAll_eq]
  cases changes.any isReset <;> rfl

theorem expressions_concat_override_nil (settings : Settings) (changes : List Change)
    (word? : Option Text) :
    (settings.applyAll (changes ++ [.override word? []])).expressions =
      (settings.applyAll changes).expressions := by
  cases happlied : (Change.override word? []).isApplied with
  | true => rw [applyAll_concat_of_isApplied happlied]; rfl
  | false => rw [applyAll_of_refused happlied, List.append_nil]

theorem givesLevel_of_ofEnvironment {environment : Environment}
    (h : ofEnvironment environment = .ok settings) : environment.GivesLevel settings.level := by
  rw [ofEnvironment] at h
  rw [Environment.GivesLevel]
  cases hlevel : environment.level?.bind RawText.text? with
  | none =>
    rw [hlevel] at h
    rw [← Except.ok.inj h]
  | some word =>
    rw [hlevel] at h
    cases hread : Level.read word with
    | ok level =>
      simp only [hread] at h
      rw [← Except.ok.inj h]
      exact hread
    | error unknown =>
      simp only [hread] at h
      cases h

/-- After any changes each setting is the last that an applied change gave since the last reset,
for itself: the level may come from another change than the strings. Without one it is the default
after a reset, and what the environment brought along otherwise. -/
theorem applyAll_eq_last_given {environment : Environment}
    (h : ofEnvironment environment = .ok settings) (changes : List Change) :
    let after := settings.applyAll changes
    (∃ level, environment.GivesLevel level ∧
        after.level =
          (last? level? changes).getD (if changes.any isReset then .warn else level)) ∧
      after.expressions =
        (last? strings? changes).getD
          (if changes.any isReset then [] else environment.strings) ∧
      (∀ earlier change later, changes = earlier ++ change :: later →
        (settings.outcomes changes)[earlier.length]? =
            some ((settings.applyAll earlier).apply change) ∧
          (change.isApplied = false →
            (∃ word, change.word? = some word ∧
              (settings.applyAll earlier).apply change = .error ⟨word⟩) ∧
            after = settings.applyAll (earlier ++ later))) ∧
      (∀ word?, (settings.applyAll (changes ++ [.override word? []])).expressions =
        after.expressions) ∧
      (after.expressions = [] ∨ after.expressions = environment.strings ∨
        ∃ word?, .override word? after.expressions ∈ changes) := by
  intro after
  have hexpressions : after.expressions = (last? strings? changes).getD
      (if changes.any isReset then [] else environment.strings) := by
    rw [← expressions_of_ofEnvironment h]
    exact expressions_applyAll settings changes
  refine ⟨⟨settings.level, givesLevel_of_ofEnvironment h, level_applyAll settings changes⟩,
    hexpressions, ?_, expressions_concat_override_nil settings changes, ?_⟩
  · rintro earlier change later rfl
    exact ⟨getElem?_outcomes settings earlier later change, fun hrefused =>
      ⟨exists_apply_eq_error hrefused _, applyAll_of_refused hrefused settings earlier later⟩⟩
  · rw [hexpressions]
    cases hlast : last? strings? changes with
    | some given => exact .inr (.inr (exists_override_of_last? hlast))
    | none =>
      cases changes.any isReset with
      | true => exact .inl rfl
      | false => exact .inr (.inl rfl)

theorem applyAll_eq_last_given_refused_override :
    let environment : Environment :=
      { level? := some (RawText.ofText "Info".toList)
        expressions? := some (RawText.ofText " @a ; ;b:2".toList) }
    let settings : Settings := { level := .info, expressions := ["@a".toList, "b:2".toList] }
    let refused : Change := .override (some "warn ".toList) ["lost".toList]
    let earlier : List Change :=
      [.override (some "TRACE".toList) ["x".toList], .reset,
        .override none ["y".toList, "z".toList], .level "ErroR".toList]
    let changes := earlier ++ [refused, .override none []]
    ofEnvironment environment = .ok settings ∧
      (settings.applyAll changes).level = .error ∧
      (settings.applyAll changes).expressions = ["y".toList, "z".toList] ∧
      (settings.outcomes changes)[4]? = some (.error ⟨"warn ".toList⟩) ∧
      settings.applyAll changes = settings.applyAll (earlier ++ [.override none []]) ∧
      (settings.applyAll [refused]).level = .info ∧
      (settings.applyAll [.reset, refused]).expressions = [] := by
  intro environment settings refused earlier changes
  have hsettings : ofEnvironment environment = .ok settings := rfl
  obtain ⟨⟨_, _, hlevel⟩, hexpressions, hsteps, _⟩ := applyAll_eq_last_given hsettings changes
  obtain ⟨houtcome, hrefused⟩ := hsteps earlier refused _ rfl
  obtain ⟨⟨word, hword, herror⟩, hwithout⟩ := hrefused rfl
  rw [herror, ← Option.some.inj hword] at houtcome
  obtain ⟨⟨level, hgiven, hstart⟩, _⟩ := applyAll_eq_last_given hsettings [refused]
  obtain ⟨_, hreset, _⟩ := applyAll_eq_last_given hsettings [.reset, refused]
  have hinfo : level = .info := (Except.ok.inj hgiven).symm
  exact ⟨hsettings, hlevel, hexpressions, houtcome, hwithout, hstart.trans hinfo, hreset⟩

end Settings

end TagFilter
