import TagFilter.Proofs.Expression.Alike

namespace TagFilter

namespace Written

def tokens (input : Text) : List Text := (pieces input).filter (· ≠ [])

def SameTokens (first second : Text) : Prop :=
  (∀ token ∈ tokens first, token ∈ tokens second) ∧ ∀ token ∈ tokens second, token ∈ tokens first

def Covered (xs ys : List Text) : Prop :=
  ∀ x ∈ xs, tokens x ≠ [] → ∃ y ∈ ys, SameTokens x y

theorem SameTokens.symm {first second : Text} (h : SameTokens first second) :
    SameTokens second first :=
  And.symm h

theorem mem_tokens {input piece : Text} :
    piece ∈ tokens input ↔ piece ∈ pieces input ∧ piece ≠ [] := by
  simp [tokens]

theorem mem_tokens_of_isNamed {input piece : Text} (hp : piece ∈ pieces input)
    (hn : isNamed piece = true) : piece ∈ tokens input :=
  mem_tokens.2 ⟨hp, ne_nil_of_isNamed hn⟩

theorem SameTokens.echoed {first second : Text} (h : SameTokens first second) :
    Echoed first second := by
  intro piece hp hn
  have hmem := h.1 piece (mem_tokens_of_isNamed hp hn)
  exact ⟨piece, (mem_tokens.1 hmem).1, Alike.refl piece⟩

theorem Covered.matched {xs ys : List Text} (h : Covered xs ys) : Matched xs ys := by
  rintro x hx ⟨piece, hp, hn⟩
  obtain ⟨y, hy, hsame⟩ := h x hx (List.ne_nil_of_mem (mem_tokens_of_isNamed hp hn))
  exact ⟨y, hy, hsame.echoed, hsame.symm.echoed⟩

theorem covered_of_subset {xs ys : List Text} (h : ∀ x ∈ xs, x ∈ ys) : Covered xs ys :=
  fun x hx _ => ⟨x, h x hx, fun _ => id, fun _ => id⟩

theorem mem_tokens_of_subset {first second : Text}
    (h : ∀ piece ∈ first.splitOn ',', piece ∈ second.splitOn ',') {token : Text}
    (ht : token ∈ tokens first) : token ∈ tokens second := by
  obtain ⟨hp, hne⟩ := mem_tokens.1 ht
  obtain ⟨piece, hpiece, htrim⟩ := List.mem_map.1 hp
  exact mem_tokens.2 ⟨List.mem_map.2 ⟨piece, h piece hpiece, htrim⟩, hne⟩

theorem covered_of_forall₂ {xs ys : List Text}
    (h : List.Forall₂ (fun x y : Text => ∀ piece, piece ∈ x.splitOn ',' ↔ piece ∈ y.splitOn ',')
      xs ys) : Covered xs ys := by
  intro x hx _
  obtain ⟨y, hy, hpieces⟩ := exists_mem_of_forall₂ h hx
  exact ⟨y, hy, fun _ => mem_tokens_of_subset fun piece => (hpieces piece).1,
    fun _ => mem_tokens_of_subset fun piece => (hpieces piece).2⟩

end Written

namespace Expression

/-- Both lists fail, perhaps not with the same conflict, or both compile and cannot be told apart by
limits and verdicts. -/
def SameOutcome (xs ys : List Text) : Prop :=
  (∃ before after, compile xs = .error before ∧ compile ys = .error after) ∨
    ∃ first second, compile xs = .ok first ∧ compile ys = .ok second ∧
      first.limits = second.limits ∧
      first.isEmpty = second.isEmpty ∧
      ∀ tags, first.accepts tags = second.accepts tags

theorem sameOutcome_of_matched {xs ys : List Text} (hxy : Written.Matched xs ys)
    (hyx : Written.Matched ys xs) : SameOutcome xs ys := by
  have hboth := exists_compile_of_matched hxy hyx
  cases hx : compile xs with
  | error before =>
    cases hy : compile ys with
    | error after => exact .inl ⟨before, after, hx, hy⟩
    | ok second =>
      obtain ⟨first, hfirst⟩ := hboth.2 ⟨second, hy⟩
      cases hx.symm.trans hfirst
  | ok first =>
    obtain ⟨second, hy⟩ := hboth.1 ⟨first, hx⟩
    exact .inr ⟨first, second, hx, hy, limits_eq_of_matched hx hy hxy hyx,
      isEmpty_eq_of_matched hx hy hxy hyx, fun _ => accepts_eq_of_matched hx hy hxy hyx rfl⟩

/-- Strings with the same tokens have the same outcome. So have the same strings in another order
or number, and strings with the same pieces in another order or number. -/
theorem sameOutcome_of_sameTokens (xs ys : List Text) :
    (Written.Covered xs ys → Written.Covered ys xs → SameOutcome xs ys) ∧
      ((∀ input, input ∈ xs ↔ input ∈ ys) → SameOutcome xs ys) ∧
      (List.Forall₂
          (fun x y : Text => ∀ piece, piece ∈ x.splitOn ',' ↔ piece ∈ y.splitOn ',') xs ys →
        SameOutcome xs ys) := by
  refine ⟨fun hxy hyx => sameOutcome_of_matched hxy.matched hyx.matched, fun h => ?_, fun h => ?_⟩
  · apply sameOutcome_of_matched
    · exact (Written.covered_of_subset fun x => (h x).1).matched
    · exact (Written.covered_of_subset fun y => (h y).2).matched
  · apply sameOutcome_of_matched
    · exact (Written.covered_of_forall₂ h).matched
    · apply (Written.covered_of_forall₂ _).matched
      exact (List.Forall₂.imp (fun x y hpieces piece => (hpieces piece).symm) h).flip

theorem sameOutcome_other_conflict :
    let xs := ["b:2, @a ,~c:1".toList, " ,".toList, "x:7".toList, "b:2,d".toList]
    let ys := ["x:7 ,,x:7".toList, "d, b:2".toList, "~c:1,b:2,@a,b:2".toList, "x:7".toList]
    let clash := ["a:1,@a:2".toList]
    let turned := ["@a:2,a:1".toList]
    (Written.Covered xs ys ∧ Written.Covered ys xs ∧ SameOutcome xs ys) ∧
      SameOutcome (xs ++ clash) (clash ++ xs) ∧
      compile clash = .error ⟨"a".toList, 1, 2⟩ ∧ compile turned = .error ⟨"a".toList, 2, 1⟩ ∧
      SameOutcome clash turned := by
  intro xs ys clash turned
  have hxy : Written.Covered xs ys := by
    unfold Written.Covered Written.SameTokens
    decide
  have hyx : Written.Covered ys xs := by
    unfold Written.Covered Written.SameTokens
    decide
  have hmoved : ∀ input, input ∈ xs ++ clash ↔ input ∈ clash ++ xs :=
    fun input => List.mem_append.trans (or_comm.trans List.mem_append.symm)
  have hturned : ∀ piece, piece ∈ ["a:1".toList, "@a:2".toList] ↔
      piece ∈ ["@a:2".toList, "a:1".toList] :=
    fun piece => (List.Perm.swap _ _ []).mem_iff
  exact ⟨⟨hxy, hyx, (sameOutcome_of_sameTokens xs ys).1 hxy hyx⟩,
    (sameOutcome_of_sameTokens _ _).2.1 hmoved, rfl, rfl,
    (sameOutcome_of_sameTokens clash turned).2.2 (.cons hturned .nil)⟩

end Expression

end TagFilter
