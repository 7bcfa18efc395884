import Mathlib.Data.List.Forall2
import TagFilter.Proofs.Expression.Verdict

namespace TagFilter

theorem exists_mem_of_forall₂ {α β : Type} {R : α → β → Prop} {as : List α} {bs : List β}
    (h : List.Forall₂ R as bs) {a : α} (ha : a ∈ as) : ∃ b ∈ bs, R a b := by
  induction h with
  | nil => cases ha
  | cons hab _ ih =>
    cases ha with
    | head => exact ⟨_, List.mem_cons_self, hab⟩
    | tail _ ha =>
      obtain ⟨b, hb, hr⟩ := ih ha
      exact ⟨b, List.mem_cons_of_mem _ hb, hr⟩

namespace Written

structure Alike (first second : Text) : Prop where
  negated : isNegated first = isNegated second
  named : isNamed first = isNamed second
  name : bare (tag first) = bare (tag second)
  number : number? first = number? second

namespace Alike

variable {first second : Text}

theorem refl (piece : Text) : Alike piece piece := ⟨rfl, rfl, rfl, rfl⟩

theorem symm (h : Alike first second) : Alike second first :=
  ⟨h.negated.symm, h.named.symm, h.name.symm, h.number.symm⟩

theorem declaration (h : Alike first second) : declaration? first = declaration? second := by
  rw [declaration?, declaration?, h.named, h.number, h.name]

theorem holds_iff (h : Alike first second) {before after : List Tag}
    (htags : Tag.names before = Tag.names after) : Holds before first ↔ Holds after second := by
  have hnames (tags : List Tag) (name : Text) :
      (∃ present ∈ tags, bare present = name) ↔ name ∈ Tag.names tags := by
    simp [bare_eq_name]
  rw [Holds, Holds, hnames, hnames, h.negated, h.name, htags]

end Alike

def Echoed (first second : Text) : Prop :=
  ∀ piece ∈ pieces first, isNamed piece = true → ∃ other ∈ pieces second, Alike piece other

/-- Each string that names a tag has a counterpart that says the same. -/
def Matched (xs ys : List Text) : Prop :=
  ∀ x ∈ xs, (∃ piece ∈ pieces x, isNamed piece = true) → ∃ y ∈ ys, Echoed x y ∧ Echoed y x

theorem mem_declared {input : Text} {entry : Text × Limit} :
    entry ∈ declared input ↔ ∃ piece ∈ pieces input, declaration? piece = some entry := by
  simp [declared, mem_ordered]

theorem isNamed_of_declaration? {piece : Text} {entry : Text × Limit}
    (h : declaration? piece = some entry) : isNamed piece = true := by
  rw [declaration?] at h
  split at h
  · next hn => exact hn
  · cases h

section Matched

variable {xs ys : List Text} (h : Matched xs ys)
include h

theorem mem_declarations_of_matched {entry : Text × Limit} (he : entry ∈ declarations xs) :
    entry ∈ declarations ys := by
  obtain ⟨x, hx, hdeclared⟩ := List.mem_flatMap.1 he
  obtain ⟨piece, hp, hentry⟩ := mem_declared.1 hdeclared
  have hn := isNamed_of_declaration? hentry
  obtain ⟨y, hy, hecho, _⟩ := h x hx ⟨piece, hp, hn⟩
  obtain ⟨other, ho, halike⟩ := hecho piece hp hn
  rw [halike.declaration] at hentry
  exact List.mem_flatMap.2 ⟨y, hy, mem_declared.2 ⟨other, ho, hentry⟩⟩

theorem satisfied_of_matched {before after : List Tag}
    (htags : Tag.names before = Tag.names after) (hs : Satisfied ys after) :
    Satisfied xs before := by
  intro x hx hnamed
  obtain ⟨y, hy, hthere, hback⟩ := h x hx hnamed
  obtain ⟨piece, hp, hn⟩ := hnamed
  obtain ⟨other, ho, halike⟩ := hthere piece hp hn
  -- What holds in the counterpart is said in `x` too.
  obtain ⟨holding, hh, hhn, hholds⟩ := hs y hy ⟨other, ho, halike.named.symm.trans hn⟩
  obtain ⟨found, hf, hfound⟩ := hback holding hh hhn
  exact ⟨found, hf, hfound.named.symm.trans hhn, (hfound.symm.holds_iff htags).2 hholds⟩

theorem clauses_eq_nil_of_matched (hnil : clauses ys = []) : clauses xs = [] := by
  rw [clauses, List.map_eq_nil_iff, List.filter_eq_nil_iff] at hnil ⊢
  intro x hx hany
  obtain ⟨piece, hp, hn⟩ := List.any_eq_true.1 hany
  obtain ⟨y, hy, hthere, _⟩ := h x hx ⟨piece, hp, hn⟩
  obtain ⟨other, ho, halike⟩ := hthere piece hp hn
  exact hnil y hy (List.any_eq_true.2 ⟨other, ho, halike.named.symm.trans hn⟩)

end Matched

end Written

namespace Expression

variable {xs ys : List Text} {first second : Expression}

section Matched

variable (hx : compile xs = .ok first) (hy : compile ys = .ok second)
  (hxy : Written.Matched xs ys) (hyx : Written.Matched ys xs)
include hx hy hxy hyx

theorem accepts_eq_of_matched {before after : List Tag}
    (htags : Tag.names before = Tag.names after) :
    first.accepts before = second.accepts after := by
  rw [Bool.eq_iff_iff, accepts_of_compile hx, accepts_of_compile hy,
    Written.all_clauses_hold_iff, Written.all_clauses_hold_iff]
  exact ⟨Written.satisfied_of_matched hyx htags.symm, Written.satisfied_of_matched hxy htags⟩

theorem isEmpty_eq_of_matched : first.isEmpty = second.isEmpty := by
  rw [Bool.eq_iff_iff, isEmpty, isEmpty, List.isEmpty_iff, List.isEmpty_iff,
    clauses_of_compile hx, clauses_of_compile hy]
  exact ⟨Written.clauses_eq_nil_of_matched hyx, Written.clauses_eq_nil_of_matched hxy⟩

theorem limits_eq_of_matched : first.limits = second.limits := by
  apply LimitTable.eq_of_mem_iff
  intro entry
  rw [mem_limits_of_compile hx, mem_limits_of_compile hy]
  exact ⟨Written.mem_declarations_of_matched hxy, Written.mem_declarations_of_matched hyx⟩

end Matched

theorem exists_compile_of_matched (hxy : Written.Matched xs ys) (hyx : Written.Matched ys xs) :
    (∃ first, compile xs = .ok first) ↔ ∃ second, compile ys = .ok second := by
  rw [exists_compile_eq_ok_iff, exists_compile_eq_ok_iff]
  exact ⟨fun h => h.mono fun _ => Written.mem_declarations_of_matched hyx,
    fun h => h.mono fun _ => Written.mem_declarations_of_matched hxy⟩

end Expression

end TagFilter
