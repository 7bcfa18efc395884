import Mathlib.Data.List.Sort
import TagFilter.Limit

/-!
Recording numbers one after another. What a table becomes, or where it stops, is read off the
history of all that was to be recorded: the first number of a name stands, and the first entry
that asks for another number is the conflict.
-/

namespace TagFilter

abbrev History := List (Text × Limit)

namespace History

variable {history next earlier later : History} {name : Text} {limit : Limit}

def Consistent (history : History) : Prop :=
  ∀ a ∈ history, ∀ b ∈ history, a.1 = b.1 → a.2 = b.2

/-- The conflict is raised by the earliest entry that differs from the first of its name. -/
def FirstConflict (history : History) (conflict : Conflict) : Prop :=
  ∃ earlier later, history = earlier ++ (conflict.name, conflict.requested) :: later ∧
    history.lookup conflict.name = some conflict.existing ∧
    conflict.requested ≠ conflict.existing ∧
    ∀ entry ∈ earlier, history.lookup entry.1 = some entry.2

theorem mem_of_lookup (h : history.lookup name = some limit) : (name, limit) ∈ history := by
  obtain ⟨before, after, hsplit, _⟩ := List.lookup_eq_some_iff.1 h
  simp [hsplit]

theorem lookup_isSome_of_mem {entry : Text × Limit} (h : entry ∈ history) :
    (history.lookup entry.1).isSome := by
  rw [List.lookup_isSome_iff]
  exact ⟨entry, h, by simp⟩

theorem lookup_append_of_mem {entry : Text × Limit} (h : entry ∈ earlier) :
    (earlier ++ later).lookup entry.1 = earlier.lookup entry.1 := by
  rw [List.lookup_append, Option.or_of_isSome (lookup_isSome_of_mem h)]

theorem consistent_iff_lookup :
    Consistent history ↔ ∀ entry ∈ history, history.lookup entry.1 = some entry.2 := by
  constructor
  · intro h entry hentry
    obtain ⟨first, hfirst⟩ := Option.isSome_iff_exists.1 (lookup_isSome_of_mem hentry)
    rw [hfirst, h entry hentry _ (mem_of_lookup hfirst) rfl]
  · intro h a ha b hb hab
    have := h a ha
    rw [hab, h b hb] at this
    exact (Option.some.inj this).symm

theorem Consistent.lookup_iff (h : Consistent history) :
    history.lookup name = some limit ↔ (name, limit) ∈ history :=
  ⟨mem_of_lookup, consistent_iff_lookup.1 h (name, limit)⟩

theorem Consistent.mono (h : Consistent history) (hsub : ∀ entry ∈ next, entry ∈ history) :
    Consistent next :=
  fun a ha b hb => h a (hsub a ha) b (hsub b hb)

theorem FirstConflict.not_consistent {conflict : Conflict} (h : FirstConflict history conflict) :
    ¬ Consistent history := by
  intro hc
  obtain ⟨earlier, later, hsplit, hfirst, hne, _⟩ := h
  have := consistent_iff_lookup.1 hc (conflict.name, conflict.requested) (by simp [hsplit])
  rw [hfirst] at this
  exact hne (Option.some.inj this).symm

theorem consistent_or_firstConflict (history : History) :
    Consistent history ∨ ∃ conflict, FirstConflict history conflict := by
  cases hf : history.find? (fun entry => history.lookup entry.1 ≠ some entry.2) with
  | none =>
    left
    rw [consistent_iff_lookup]
    simpa using List.find?_eq_none.1 hf
  | some entry =>
    right
    obtain ⟨hne, earlier, later, hsplit, hearlier⟩ := List.find?_eq_some_iff_append.1 hf
    obtain ⟨existing, hfirst⟩ :=
      Option.isSome_iff_exists.1 (lookup_isSome_of_mem (List.mem_of_find?_eq_some hf))
    refine ⟨⟨entry.1, existing, entry.2⟩, earlier, later, hsplit, hfirst, ?_, ?_⟩
    · intro heq
      simp only at heq
      simp [hfirst, heq] at hne
    · simpa using hearlier

end History

namespace LimitTable

open History

variable {table after : LimitTable} {history next : History} {name : Text} {limit : Limit}

def record (table : LimitTable) (name : Text) (limit : Limit) : Except Conflict LimitTable :=
  match table.entries.lookup name with
  | none => .ok (table.insert name limit)
  | some existing => if existing = limit then .ok table else .error ⟨name, existing, limit⟩

theorem declare_eq_record (table : LimitTable) (tag : Tag) (limit : Limit) :
    table.declare tag limit = table.record tag.name limit := rfl

def recordAll (table : LimitTable) (history : History) : Except Conflict LimitTable :=
  history.foldlM (fun table entry => table.record entry.1 entry.2) table

/-- The table holds the first number of every name in the history, and nothing else. -/
def Records (table : LimitTable) (history : History) : Prop :=
  ∀ name, table.entries.lookup name = history.lookup name

theorem recordAll_append (table : LimitTable) (history next : History) :
    table.recordAll (history ++ next) = (table.recordAll history).bind (·.recordAll next) :=
  List.foldlM_append

theorem recordAll_singleton (table : LimitTable) (entry : Text × Limit) :
    table.recordAll [entry] = table.record entry.1 entry.2 := by
  rw [recordAll, List.foldlM_cons]
  cases table.record entry.1 entry.2 <;> rfl

theorem lookup_concat (history : History) (name other : Text) (limit : Limit) :
    (history ++ [(name, limit)]).lookup other =
      (history.lookup other).or (if other = name then some limit else none) := by
  rw [List.lookup_append, lookup_cons_eq, List.lookup_nil]

theorem record_eq_ok (h : table.Records history)
    (hfirst : (history ++ [(name, limit)]).lookup name = some limit) :
    ∃ after, table.record name limit = .ok after ∧ after.Records (history ++ [(name, limit)]) := by
  rw [lookup_concat, if_pos rfl] at hfirst
  cases hn : history.lookup name with
  | none =>
    refine ⟨table.insert name limit, by rw [record, h name, hn], ?_⟩
    intro other
    rw [insert, lookup_insertEntry ((h name).trans hn), h other, lookup_concat]
    by_cases ho : other = name <;> simp [ho, hn]
  | some existing =>
    obtain rfl : existing = limit := by simpa [hn] using hfirst
    refine ⟨table, by rw [record, h name, hn]; exact if_pos rfl, ?_⟩
    intro other
    rw [h other, lookup_concat]
    by_cases ho : other = name <;> simp [ho, hn]

theorem record_eq_error {existing : Limit} (h : table.Records history)
    (hfirst : history.lookup name = some existing) (hne : limit ≠ existing) :
    table.record name limit = .error ⟨name, existing, limit⟩ := by
  rw [record, h name, hfirst]
  exact if_neg hne.symm

theorem recordAll_eq_ok (h : table.Records history)
    (hfirst : ∀ entry ∈ next, (history ++ next).lookup entry.1 = some entry.2) :
    ∃ after, table.recordAll next = .ok after ∧ after.Records (history ++ next) := by
  -- The table changes from entry to entry; that it records the history so far is what stays.
  induction next generalizing table history with
  | nil => exact ⟨table, rfl, by simpa using h⟩
  | cons entry next ih =>
    have hsplit : history ++ entry :: next = history ++ [entry] ++ next := by simp
    rw [hsplit] at hfirst ⊢
    have hentry := hfirst entry (by simp)
    rw [lookup_append_of_mem (by simp)] at hentry
    obtain ⟨middle, hrecord, hmiddle⟩ := record_eq_ok h hentry
    obtain ⟨after, hall, hafter⟩ := ih hmiddle fun entry he => hfirst entry (by simp [he])
    refine ⟨after, ?_, hafter⟩
    rw [recordAll, List.foldlM_cons, hrecord]
    exact hall

theorem recordAll_of_consistent (h : Consistent history) :
    ∃ after, recordAll {} history = .ok after ∧ after.Records history :=
  recordAll_eq_ok (show Records {} [] from fun _ => rfl) (consistent_iff_lookup.1 h)

theorem recordAll_of_firstConflict {conflict : Conflict} (h : FirstConflict history conflict) :
    recordAll {} history = .error conflict := by
  obtain ⟨earlier, later, hsplit, hfirst, hne, hearlier⟩ := h
  have hagree : ∀ entry ∈ earlier, earlier.lookup entry.1 = some entry.2 := by
    intro entry he
    rw [← hearlier entry he, hsplit, lookup_append_of_mem he]
  obtain ⟨after, hall, hafter⟩ := recordAll_of_consistent (consistent_iff_lookup.2 hagree)
  -- The number that stands was recorded before the one that is refused.
  have hexisting : earlier.lookup conflict.name = some conflict.existing := by
    rw [hsplit, List.lookup_append] at hfirst
    cases hn : earlier.lookup conflict.name with
    | none => simp [hn, hne] at hfirst
    | some existing => simpa [hn] using hfirst
  rw [hsplit, recordAll_append, hall]
  change (after.record conflict.name conflict.requested).bind _ = _
  rw [record_eq_error hafter hexisting hne]
  rfl

theorem recordAll_eq_error_iff {conflict : Conflict} :
    recordAll {} history = .error conflict ↔ FirstConflict history conflict := by
  refine ⟨fun h => ?_, recordAll_of_firstConflict⟩
  cases consistent_or_firstConflict history with
  | inl hc =>
    obtain ⟨after, hall, _⟩ := recordAll_of_consistent hc
    cases hall.symm.trans h
  | inr hf =>
    obtain ⟨other, hf⟩ := hf
    obtain rfl : other = conflict :=
      Except.error.inj ((recordAll_of_firstConflict hf).symm.trans h)
    exact hf

theorem recordAll_eq_ok_iff :
    (∃ after, recordAll {} history = .ok after) ↔ Consistent history := by
  constructor
  · rintro ⟨after, h⟩
    apply (consistent_or_firstConflict history).resolve_right
    rintro ⟨conflict, hf⟩
    cases (recordAll_of_firstConflict hf).symm.trans h
  · intro h
    exact (recordAll_of_consistent h).imp fun _ => And.left

theorem records_of_recordAll (h : recordAll {} history = .ok after) : after.Records history := by
  obtain ⟨other, hall, hother⟩ := recordAll_of_consistent (recordAll_eq_ok_iff.1 ⟨after, h⟩)
  rwa [Except.ok.inj (hall.symm.trans h)] at hother

theorem lookup_of_record_eq_error {conflict : Conflict} (hall : recordAll {} history = .ok table)
    (h : table.record name limit = .error conflict) :
    (name, limit) = (conflict.name, conflict.requested) ∧
      history.lookup conflict.name = some conflict.existing ∧
      conflict.requested ≠ conflict.existing := by
  rw [record, records_of_recordAll hall name] at h
  cases hfirst : history.lookup name with
  | none =>
    rw [hfirst] at h
    cases h
  | some existing =>
    by_cases hsame : existing = limit
    · simp [hfirst, hsame] at h
    · simp only [hfirst, hsame, if_false, Except.error.injEq] at h
      rw [← h]
      exact ⟨rfl, hfirst, Ne.symm hsame⟩

theorem mem_entries_iff_lookup (table : LimitTable) :
    (name, limit) ∈ table.entries ↔ table.entries.lookup name = some limit := by
  refine ⟨fun h => ?_, mem_of_lookup⟩
  obtain ⟨before, after, hsplit⟩ := List.append_of_mem h
  refine List.lookup_eq_some_iff.2 ⟨before, after, hsplit, fun entry he => ?_⟩
  have hsorted := table.toList_pairwise_lt
  rw [toList, hsplit, List.pairwise_append] at hsorted
  have hlt := hsorted.2.2 entry he (name, limit) (by simp)
  rw [bne_iff_ne]
  intro heq
  rw [heq] at hlt
  exact List.lt_irrefl _ hlt

theorem eq_of_mem_iff {first second : LimitTable}
    (h : ∀ entry, entry ∈ first.toList ↔ entry ∈ second.toList) : first = second := by
  have : Std.Irrefl fun a b : Text × Limit => a.1 < b.1 := ⟨fun a => List.lt_irrefl a.1⟩
  have : Std.Antisymm fun a b : Text × Limit => a.1 < b.1 :=
    ⟨fun _ _ hab hba => (List.lt_asymm hab hba).elim⟩
  have hentries := first.toList_pairwise_lt.eq_of_mem_iff second.toList_pairwise_lt h
  cases first
  cases second
  simpa [toList] using hentries

theorem mem_toList_of_recordAll (h : recordAll {} history = .ok after)
    (entry : Text × Limit) : entry ∈ after.toList ↔ entry ∈ history := by
  have hc := recordAll_eq_ok_iff.1 ⟨after, h⟩
  rw [toList, mem_entries_iff_lookup, records_of_recordAll h entry.1, hc.lookup_iff]

end LimitTable

end TagFilter
