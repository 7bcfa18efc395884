import Mathlib.Data.Finset.Card
import TagFilter.Proofs.Limit.History
import TagFilter.Proofs.Written

namespace TagFilter

def Written.firstNumber? (attempts : List (Tag × Limit)) (name : Text) : Option Limit :=
  (attempts.find? fun attempt => Written.bare attempt.1 = name).map Prod.snd

namespace LimitTable

open Written

def attempt (table : LimitTable) (declaration : Tag × Limit) : LimitTable :=
  match table.declare declaration.1 declaration.2 with
  | .ok after => after
  | .error _ => table

def attemptAll (table : LimitTable) (attempts : List (Tag × Limit)) : LimitTable :=
  attempts.foldl attempt table

/-- One of the declarations that were tried was accepted in its turn. -/
def Accepted (table : LimitTable) (attempts : List (Tag × Limit)) (declaration : Tag × Limit) :
    Prop :=
  ∃ earlier later, attempts = earlier ++ declaration :: later ∧
    ∃ after, (table.attemptAll earlier).declare declaration.1 declaration.2 = .ok after

variable {table : LimitTable} {history : History} {attempts earlier later : List (Tag × Limit)}
  {tag : Tag} {name : Text} {limit : Limit} {conflict : Conflict}

def tried (attempts : List (Tag × Limit)) : History :=
  attempts.map fun declaration => (declaration.1.name, declaration.2)

theorem lookup_tried (attempts : List (Tag × Limit)) (name : Text) :
    (tried attempts).lookup name = firstNumber? attempts name := by
  induction attempts with
  | nil => rfl
  | cons first rest ih =>
    rw [firstNumber?] at ih
    rw [tried, List.map_cons, lookup_cons_eq, firstNumber?, List.find?_cons, bare_eq_name, ← tried]
    by_cases h : first.1.name = name
    · simp [h]
    · simpa [h, Ne.symm h] using ih

theorem firstNumber?_append (name : Text) :
    firstNumber? (earlier ++ later) name =
      (firstNumber? earlier name).or (firstNumber? later name) := by
  rw [← lookup_tried, tried, List.map_append, List.lookup_append, ← tried, ← tried, lookup_tried,
    lookup_tried]

theorem firstNumber?_cons_self (name : Text) (h : bare tag = name) :
    firstNumber? ((tag, limit) :: later) name = some limit := by
  simp [firstNumber?, h]

theorem records_attempt (h : table.Records history) (declaration : Tag × Limit) :
    (table.attempt declaration).Records (history ++ tried [declaration]) := by
  obtain ⟨tag, limit⟩ := declaration
  change (table.attempt (tag, limit)).Records (history ++ [(tag.name, limit)])
  rw [attempt, declare_eq_record]
  by_cases hfirst : (history ++ [(tag.name, limit)]).lookup tag.name = some limit
  · obtain ⟨after, hafter, hrecords⟩ := record_eq_ok h hfirst
    rwa [hafter]
  · cases hn : history.lookup tag.name with
    | none => exact absurd (by rw [lookup_concat, hn, if_pos rfl, Option.none_or]) hfirst
    | some existing =>
      have hne : limit ≠ existing := by
        rintro rfl
        exact hfirst (by rw [lookup_concat, hn, Option.some_or])
      rw [record_eq_error h hn hne]
      -- The table is as it was, and its name had a number before.
      intro other
      rw [h other, lookup_concat]
      by_cases ho : other = tag.name
      · rw [ho, hn, Option.some_or]
      · rw [if_neg ho, Option.or_none]

theorem records_attemptAll (h : table.Records history) (attempts : List (Tag × Limit)) :
    (table.attemptAll attempts).Records (history ++ tried attempts) := by
  induction attempts generalizing table history with
  | nil =>
    rw [tried, List.map_nil, List.append_nil]
    exact h
  | cons first rest ih =>
    have := ih (records_attempt h first)
    rwa [List.append_assoc, tried, tried, ← List.map_append] at this

theorem lookup_attemptAll (attempts : List (Tag × Limit)) (name : Text) :
    (attemptAll {} attempts).entries.lookup name = firstNumber? attempts name := by
  have h : Records {} [] := fun _ => rfl
  rw [records_attemptAll h attempts name, List.nil_append, lookup_tried]

theorem get?_attemptAll (attempts : List (Tag × Limit)) (tag : Tag) :
    (attemptAll {} attempts).get? tag = firstNumber? attempts (bare tag) := by
  rw [get?, lookup_attemptAll, bare_eq_name]

theorem declare_attemptAll_eq_error_iff :
    (attemptAll {} attempts).declare tag limit = .error conflict ↔
      ∃ existing, firstNumber? attempts (bare tag) = some existing ∧ existing ≠ limit ∧
        conflict = ⟨bare tag, existing, limit⟩ := by
  rw [declare, get?_attemptAll, bare_eq_name]
  cases firstNumber? attempts tag.name with
  | none => simp
  | some existing => by_cases h : existing = limit <;> simp [h, @eq_comm Conflict conflict]

theorem attemptAll_concat_of_error
    (h : (attemptAll {} attempts).declare tag limit = .error conflict) :
    attemptAll {} (attempts ++ [(tag, limit)]) = attemptAll {} attempts := by
  rw [attemptAll, List.foldl_append]
  change attempt (attemptAll {} attempts) (tag, limit) = _
  rw [attempt, h]

theorem firstNumber?_of_accepted {declaration : Tag × Limit}
    (h : Accepted {} attempts declaration) :
    firstNumber? attempts (bare declaration.1) = some declaration.2 := by
  obtain ⟨earlier, later, rfl, after, hok⟩ := h
  rw [firstNumber?_append]
  cases hfirst : firstNumber? earlier (bare declaration.1) with
  | none => exact firstNumber?_cons_self _ rfl
  | some existing =>
    by_contra hne
    have hrefused := declare_attemptAll_eq_error_iff.2
      ⟨existing, hfirst, fun heq => hne (congrArg some heq), rfl⟩
    cases hok.symm.trans hrefused

theorem exists_accepted_of_firstNumber? (h : firstNumber? attempts name = some limit) :
    ∃ tag, bare tag = name ∧ Accepted {} attempts (tag, limit) := by
  obtain ⟨⟨tag, _⟩, hfind, rfl⟩ := Option.map_eq_some_iff.1 h
  obtain ⟨hname, earlier, later, hsplit, hearlier⟩ := List.find?_eq_some_iff_append.1 hfind
  simp only [decide_eq_true_eq] at hname
  refine ⟨tag, hname, earlier, later, hsplit, ?_⟩
  cases hdeclare : (attemptAll {} earlier).declare tag _ with
  | ok after => exact ⟨after, rfl⟩
  | error conflict =>
    obtain ⟨existing, hfirst, _⟩ := declare_attemptAll_eq_error_iff.1 hdeclare
    have hnone : firstNumber? earlier (bare tag) = none := by
      rw [hname, firstNumber?, List.find?_eq_none.2 (by simpa using hearlier), Option.map_none]
    cases hfirst.symm.trans hnone

theorem exists_conflict_iff :
    (∃ conflict, (attemptAll {} attempts).declare tag limit = .error conflict) ↔
      ∃ other, Accepted {} attempts other ∧ bare other.1 = bare tag ∧ other.2 ≠ limit := by
  constructor
  · rintro ⟨conflict, h⟩
    obtain ⟨existing, hfirst, hne, _⟩ := declare_attemptAll_eq_error_iff.1 h
    obtain ⟨other, hname, haccepted⟩ := exists_accepted_of_firstNumber? hfirst
    exact ⟨(other, existing), haccepted, hname, hne⟩
  · rintro ⟨other, haccepted, hname, hne⟩
    have hfirst := firstNumber?_of_accepted haccepted
    rw [hname] at hfirst
    exact ⟨_, declare_attemptAll_eq_error_iff.2 ⟨other.2, hfirst, hne, rfl⟩⟩

theorem exists_firstNumber?_iff :
    (∃ limit, firstNumber? attempts name = some limit) ↔
      name ∈ attempts.map fun declaration => bare declaration.1 := by
  simp only [firstNumber?, ← Option.isSome_iff_exists, Option.isSome_map, List.find?_isSome,
    decide_eq_true_eq, List.mem_map]

theorem nodup_names (table : LimitTable) : (table.toList.map Prod.fst).Nodup := by
  rw [List.nodup_iff_pairwise_ne, List.pairwise_map]
  refine table.toList_pairwise_lt.imp fun hlt heq => ?_
  rw [heq] at hlt
  exact List.lt_irrefl _ hlt

theorem size_attemptAll (attempts : List (Tag × Limit)) :
    (attemptAll {} attempts).size =
      (attempts.map fun declaration => bare declaration.1).toFinset.card := by
  have hnames : ((attemptAll {} attempts).toList.map Prod.fst).toFinset =
      (attempts.map fun declaration => bare declaration.1).toFinset := by
    ext name
    rw [List.mem_toFinset, List.mem_toFinset, ← exists_firstNumber?_iff]
    simp [toList, mem_entries_iff_lookup, lookup_attemptAll]
  rw [← hnames, List.toFinset_card_of_nodup (nodup_names _), List.length_map]
  rfl

/-- Whatever was tried before, a declaration is refused exactly when one that was accepted gave its
name another number. The conflict names that number, and the table stays as it was. A table that
was filled in this way has, for each name, the number that was declared first, and it lists the
names once, in their order. -/
theorem attemptAll_keeps_first (attempts : List (Tag × Limit)) :
    let table := attemptAll {} attempts
    let names := attempts.map fun declaration => bare declaration.1
    (∀ tag limit,
      ((∃ conflict, table.declare tag limit = .error conflict) ↔
        ∃ other, Accepted {} attempts other ∧ bare other.1 = bare tag ∧ other.2 ≠ limit) ∧
      ∀ conflict, table.declare tag limit = .error conflict →
        attemptAll {} (attempts ++ [(tag, limit)]) = table ∧
          conflict.name = bare tag ∧ conflict.requested = limit ∧
          firstNumber? attempts (bare tag) = some conflict.existing ∧
          ∀ other, Accepted {} attempts other → bare other.1 = bare tag →
            other.2 = conflict.existing) ∧
      (∀ tag, table.get? tag = firstNumber? attempts (bare tag) ∧
        (table.get? tag = none ↔ bare tag ∉ names) ∧
        (table.contains tag = true ↔ ∃ limit, table.get? tag = some limit)) ∧
      table.size = names.toFinset.card ∧
      (∀ name limit, (name, limit) ∈ table.toList ↔ firstNumber? attempts name = some limit) ∧
      (table.toList.map Prod.fst).Pairwise (· < ·) ∧ (table.toList.map Prod.fst).Nodup := by
  intro table names
  refine ⟨fun tag limit => ⟨exists_conflict_iff, ?_⟩,
    fun tag => ⟨get?_attemptAll attempts tag, ?_, ?_⟩,
    size_attemptAll attempts, ?_, List.pairwise_map.2 table.toList_pairwise_lt, nodup_names table⟩
  · intro conflict h
    obtain ⟨existing, hfirst, _, rfl⟩ := declare_attemptAll_eq_error_iff.1 h
    refine ⟨attemptAll_concat_of_error h, rfl, rfl, hfirst, fun other haccepted hname => ?_⟩
    have hother := firstNumber?_of_accepted haccepted
    rw [hname, hfirst] at hother
    exact (Option.some.inj hother).symm
  · rw [get?_attemptAll, ← exists_firstNumber?_iff, ← Option.ne_none_iff_exists', not_not]
  · rw [contains, Option.isSome_iff_exists]
  · intro name limit
    rw [toList, mem_entries_iff_lookup, lookup_attemptAll]

theorem attemptAll_keeps_first_after_refusal :
    let attempts : List (Tag × Limit) :=
      [("@a".toList, 3), ("a".toList, 4), ("@@a".toList, 5), ("@".toList, 7), ("a".toList, 3),
        ("".toList, 8)]
    let table := attemptAll {} attempts
    let conflict : Conflict := ⟨"a".toList, 3, 4⟩
    table.declare "@a".toList 4 = .error conflict ∧
      attemptAll {} (attempts ++ [("@a".toList, 4)]) = table ∧
      firstNumber? attempts "a".toList = some 3 ∧ table.get? "@@a".toList = some 5 ∧
      table.get? [] = some 7 ∧ table.size = 3 ∧ ("a".toList, 4) ∉ table.toList := by
  intro attempts table conflict
  have hrefused : table.declare "@a".toList 4 = .error conflict := rfl
  obtain ⟨hdeclare, hget, hsize, hlist, _⟩ := attemptAll_keeps_first attempts
  obtain ⟨hsame, _, _, hfirst, _⟩ := (hdeclare _ _).2 conflict hrefused
  exact ⟨hrefused, hsame, hfirst, (hget _).1, (hget _).1, hsize, fun hmem =>
    absurd ((hlist _ _).1 hmem) (by decide)⟩

end LimitTable

end TagFilter
