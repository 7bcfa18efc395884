import TagFilter.Clause.Basic

namespace TagFilter

abbrev Limit := UInt32

namespace Limit

/-- A limit may stand between blanks. A number of 2^32 or more is no limit; it is not cut down
to one. -/
def read? (text : Text) : Option Limit :=
  (Text.readDecimal? text.trim).bind fun n =>
    if h : n < UInt32.size then some (UInt32.ofNatLT n h) else none

def render (limit : Limit) : Text := Text.decimal limit.toNat

end Limit

structure Conflict where
  name : Text
  existing : Limit
  requested : Limit
  deriving DecidableEq

def Conflict.message (conflict : Conflict) : Text :=
  "conflicting limits for tag `".toList ++ conflict.name ++ "`: ".toList
    ++ conflict.existing.render ++ " and ".toList ++ conflict.requested.render

structure LimitTable where
  entries : List (Text × Limit) := []
  sorted : entries.Pairwise (fun a b => Text.precedes a.1 b.1) := by simp
  deriving DecidableEq

namespace LimitTable

def insertEntry (name : Text) (limit : Limit) : List (Text × Limit) → List (Text × Limit)
  | [] => [(name, limit)]
  | entry :: rest =>
    if Text.precedes name entry.1 then (name, limit) :: entry :: rest
    else if name = entry.1 then entry :: rest
    else entry :: insertEntry name limit rest

theorem eq_or_mem_of_mem_insertEntry {name : Text} {limit : Limit}
    {entries : List (Text × Limit)} {entry : Text × Limit}
    (h : entry ∈ insertEntry name limit entries) : entry = (name, limit) ∨ entry ∈ entries := by
  induction entries with
  | nil => simpa [insertEntry] using h
  | cons first rest ih =>
    unfold insertEntry at h
    split at h
    · simpa using h
    · split at h
      · exact .inr h
      · rcases List.mem_cons.1 h with rfl | h
        · simp
        · rcases ih h with rfl | h <;> simp [*]

theorem sorted_insertEntry {name : Text} {limit : Limit} {entries : List (Text × Limit)}
    (h : entries.Pairwise (fun a b => Text.precedes a.1 b.1)) :
    (insertEntry name limit entries).Pairwise (fun a b => Text.precedes a.1 b.1) := by
  induction entries with
  | nil => simp [insertEntry]
  | cons first rest ih =>
    obtain ⟨hfirst, hrest⟩ := List.pairwise_cons.1 h
    unfold insertEntry
    split
    · next hlt =>
      refine List.pairwise_cons.2 ⟨fun entry hmem => ?_, h⟩
      rcases List.mem_cons.1 hmem with rfl | hmem
      · exact hlt
      · rw [Text.precedes_iff_lt] at hlt ⊢
        exact List.lt_trans hlt (Text.precedes_iff_lt.1 (hfirst entry hmem))
    · split
      · exact h
      · next hlt hne =>
        refine List.pairwise_cons.2 ⟨fun entry hmem => ?_, ih hrest⟩
        rcases eq_or_mem_of_mem_insertEntry hmem with rfl | hmem
        · exact Text.precedes_iff_lt.2 (Text.lt_of_not_precedes hlt hne)
        · exact hfirst entry hmem

def insert (table : LimitTable) (name : Text) (limit : Limit) : LimitTable :=
  ⟨insertEntry name limit table.entries, sorted_insertEntry table.sorted⟩

def get? (table : LimitTable) (tag : Tag) : Option Limit := table.entries.lookup tag.name

def contains (table : LimitTable) (tag : Tag) : Bool := (table.get? tag).isSome

def size (table : LimitTable) : Nat := table.entries.length

def isEmpty (table : LimitTable) : Bool := table.entries.isEmpty

def toList (table : LimitTable) : List (Text × Limit) := table.entries

theorem toList_pairwise_lt (table : LimitTable) : table.toList.Pairwise fun a b => a.1 < b.1 :=
  table.sorted.imp Text.precedes_iff_lt.1

/-- Declares a limit for a tag. The first declaration stands: a later one can only agree with it
or be refused. -/
def declare (table : LimitTable) (tag : Tag) (limit : Limit) : Except Conflict LimitTable :=
  match table.get? tag with
  | none => .ok (table.insert tag.name limit)
  | some existing => if existing = limit then .ok table else .error ⟨tag.name, existing, limit⟩

theorem lookup_cons_eq {other : Text} {entry : Text × Limit} {rest : List (Text × Limit)} :
    (entry :: rest).lookup other = if other = entry.1 then some entry.2 else rest.lookup other := by
  obtain ⟨name, limit⟩ := entry
  by_cases h : other = name
  · simp [h]
  · simp [List.lookup_cons, beq_false_of_ne h, h]

theorem lookup_insertEntry {name other : Text} {limit : Limit} {entries : List (Text × Limit)}
    (h : entries.lookup name = none) :
    (insertEntry name limit entries).lookup other
      = if other = name then some limit else entries.lookup other := by
  induction entries with
  | nil => simp [insertEntry, lookup_cons_eq]
  | cons first rest ih =>
    have hname : name ≠ first.1 := fun heq => by simp [lookup_cons_eq, heq] at h
    have hrest : rest.lookup name = none := by simpa [lookup_cons_eq, hname] using h
    rw [insertEntry, if_neg hname]
    split
    · rw [lookup_cons_eq]
    · rw [lookup_cons_eq, lookup_cons_eq, ih hrest]
      by_cases ho : other = first.1
      · simp [ho, Ne.symm hname]
      · simp [ho]

end LimitTable

end TagFilter
