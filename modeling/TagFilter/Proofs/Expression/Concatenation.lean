import TagFilter.Proofs.Expression.Compiled

namespace TagFilter

namespace Written

theorem declarations_append (xs ys : List Text) :
    declarations (xs ++ ys) = declarations xs ++ declarations ys :=
  List.flatMap_append

theorem clauses_append (xs ys : List Text) : clauses (xs ++ ys) = clauses xs ++ clauses ys := by
  simp [clauses]

end Written

open History

theorem History.consistent_append_iff {first second : History} :
    Consistent (first ++ second) ↔ Consistent first ∧ Consistent second ∧
      ∀ a ∈ first, ∀ b ∈ second, a.1 = b.1 → a.2 = b.2 := by
  constructor
  · intro h
    exact ⟨fun a ha b hb => h a (by simp [ha]) b (by simp [hb]),
      fun a ha b hb => h a (by simp [ha]) b (by simp [hb]),
      fun a ha b hb => h a (by simp [ha]) b (by simp [hb])⟩
  · rintro ⟨hfirst, hsecond, hcross⟩ a ha b hb hab
    cases List.mem_append.1 ha with
    | inl ha =>
      cases List.mem_append.1 hb with
      | inl hb => exact hfirst a ha b hb hab
      | inr hb => exact hcross a ha b hb hab
    | inr ha =>
      cases List.mem_append.1 hb with
      | inl hb => exact (hcross b hb a ha hab.symm).symm
      | inr hb => exact hsecond a ha b hb hab

namespace Expression

variable {xs ys : List Text} {first second both : Expression} {conflict : Conflict}

theorem compile_append_eq_error (h : compile xs = .error conflict) (ys : List Text) :
    compile (xs ++ ys) = .error conflict := by
  rw [compile_eq_error_iff] at h
  rw [compile_eq, Written.declarations_append, LimitTable.recordAll_append,
    LimitTable.recordAll_of_firstConflict h]
  rfl

def Agree (first second : Expression) : Prop :=
  ∀ a ∈ first.limits.toList, ∀ b ∈ second.limits.toList, a.1 = b.1 → a.2 = b.2

theorem exists_compile_append_iff :
    (∃ both, compile (xs ++ ys) = .ok both) ↔
      ∃ first second, compile xs = .ok first ∧ compile ys = .ok second ∧ Agree first second := by
  rw [exists_compile_eq_ok_iff, Written.declarations_append, consistent_append_iff,
    ← exists_compile_eq_ok_iff, ← exists_compile_eq_ok_iff]
  constructor
  · rintro ⟨⟨first, hx⟩, ⟨second, hy⟩, hcross⟩
    refine ⟨first, second, hx, hy, fun a ha b hb => ?_⟩
    exact hcross a ((mem_limits_of_compile hx a).1 ha) b ((mem_limits_of_compile hy b).1 hb)
  · rintro ⟨first, second, hx, hy, hagree⟩
    refine ⟨⟨first, hx⟩, ⟨second, hy⟩, fun a ha b hb => ?_⟩
    exact hagree a ((mem_limits_of_compile hx a).2 ha) b ((mem_limits_of_compile hy b).2 hb)

section Both

variable (hx : compile xs = .ok first) (hy : compile ys = .ok second)
  (h : compile (xs ++ ys) = .ok both)
include hx hy h

theorem clauses_of_compile_append : both.clauses = first.clauses ++ second.clauses := by
  rw [clauses_of_compile h, Written.clauses_append, clauses_of_compile hx, clauses_of_compile hy]

theorem mem_limits_of_compile_append (entry : Text × Limit) :
    entry ∈ both.limits.toList ↔
      entry ∈ first.limits.toList ∨ entry ∈ second.limits.toList := by
  rw [mem_limits_of_compile h, Written.declarations_append, List.mem_append,
    mem_limits_of_compile hx, mem_limits_of_compile hy]

theorem get?_limits_of_compile_append (tag : Tag) :
    both.limits.get? tag = (first.limits.get? tag).or (second.limits.get? tag) := by
  have hfirst := LimitTable.records_of_recordAll (compile_eq_ok_iff.1 hx).1 tag.name
  have hsecond := LimitTable.records_of_recordAll (compile_eq_ok_iff.1 hy).1 tag.name
  have hboth := LimitTable.records_of_recordAll (compile_eq_ok_iff.1 h).1 tag.name
  rw [LimitTable.get?, hboth, Written.declarations_append, List.lookup_append, ← hfirst,
    ← hsecond]
  rfl

theorem isEmpty_of_compile_append : both.isEmpty = (first.isEmpty && second.isEmpty) := by
  rw [isEmpty, isEmpty, isEmpty, clauses_of_compile_append hx hy h]
  cases first.clauses <;> rfl

theorem accepts_of_compile_append (tags : List Tag) :
    both.accepts tags = (first.accepts tags && second.accepts tags) := by
  rw [accepts_of_compile h, Written.clauses_append, List.all_append, accepts_of_compile hx,
    accepts_of_compile hy]

end Both

theorem compile_keeps_of_isPrefix {earlier later : List Text} (h : earlier <+: later) :
    (∀ conflict, compile earlier = .error conflict → compile later = .error conflict) ∧
      ∀ first both, compile earlier = .ok first → compile later = .ok both →
        (∀ tag limit, first.limits.get? tag = some limit → both.limits.get? tag = some limit) ∧
        ∀ tags, first.accepts tags = false → both.accepts tags = false := by
  obtain ⟨rest, hrest⟩ := h
  subst hrest
  refine ⟨fun conflict he => compile_append_eq_error he rest, fun first both hfirst hboth => ?_⟩
  obtain ⟨_, second, _, hsecond, _⟩ := exists_compile_append_iff.1 ⟨both, hboth⟩
  constructor
  · intro tag limit hlimit
    rw [get?_limits_of_compile_append hfirst hsecond hboth, hlimit]
    rfl
  · intro tags hrefused
    rw [accepts_of_compile_append hfirst hsecond hboth, hrefused]
    rfl

/-- Strings in two lots: a conflict in the first is the conflict of both; both compile when each
does and their limits agree; and then clauses, limits and verdicts are put together. -/
theorem compile_append (xs ys : List Text) :
    (∀ conflict, compile xs = .error conflict → compile (xs ++ ys) = .error conflict) ∧
      ((∃ both, compile (xs ++ ys) = .ok both) ↔
        ∃ first second, compile xs = .ok first ∧ compile ys = .ok second ∧ Agree first second) ∧
      (∀ both, compile (xs ++ ys) = .ok both →
        ∃ first second, compile xs = .ok first ∧ compile ys = .ok second ∧
          both.clauses = first.clauses ++ second.clauses ∧
          (∀ entry, entry ∈ both.limits.toList ↔
            entry ∈ first.limits.toList ∨ entry ∈ second.limits.toList) ∧
          (∀ tag, both.limits.get? tag = (first.limits.get? tag).or (second.limits.get? tag)) ∧
          both.isEmpty = (first.isEmpty && second.isEmpty) ∧
          ∀ tags, both.accepts tags = (first.accepts tags && second.accepts tags)) ∧
      ∀ earlier later, earlier <+: later →
        (∀ conflict, compile earlier = .error conflict → compile later = .error conflict) ∧
        ∀ first both, compile earlier = .ok first → compile later = .ok both →
          (∀ tag limit, first.limits.get? tag = some limit → both.limits.get? tag = some limit) ∧
          ∀ tags, first.accepts tags = false → both.accepts tags = false := by
  refine ⟨fun conflict h => compile_append_eq_error h ys, exists_compile_append_iff, ?_,
    fun earlier later => compile_keeps_of_isPrefix⟩
  intro both h
  obtain ⟨first, second, hx, hy, _⟩ := exists_compile_append_iff.1 ⟨both, h⟩
  exact ⟨first, second, hx, hy, clauses_of_compile_append hx hy h,
    mem_limits_of_compile_append hx hy h, get?_limits_of_compile_append hx hy h,
    isEmpty_of_compile_append hx hy h, accepts_of_compile_append hx hy h⟩

theorem compile_append_other_spelling :
    compile ["a:1,~@a:2".toList] = .error ⟨"a".toList, 2, 1⟩ ∧
      compile ["a:1,~@a:2".toList, "b".toList] = .error ⟨"a".toList, 2, 1⟩ ∧
      ∃ first second, compile ["@a:1".toList] = .ok first ∧
        compile ["~a:1,b:2".toList] = .ok second ∧ Agree first second := by
  have h : compile ["a:1,~@a:2".toList] = .error ⟨"a".toList, 2, 1⟩ := rfl
  exact ⟨h, (compile_append _ ["b".toList]).1 _ h,
    (compile_append ["@a:1".toList] ["~a:1,b:2".toList]).2.1.1 ⟨_, rfl⟩⟩

end Expression

end TagFilter
