import TagFilter.Proofs.Expression.Alike
import TagFilter.Proofs.Expression.Heads

namespace TagFilter

namespace Written

/-- The piece with an `@` in front of its name: behind the blanks and the one `~` before it. -/
def putAt (piece : Text) : Text :=
  let name := piece.dropWhile Text.isBlank
  piece.takeWhile Text.isBlank ++
    if name.head? = some '~' then '~' :: '@' :: name.tail else '@' :: name

/-- A piece stays as it is, or an `@` is put in front of a name that has none. -/
inductive RespelledPiece : Text → Text → Prop
  | kept (piece : Text) : RespelledPiece piece piece
  | marked (piece : Text) : isNamed piece.trim = true → (tag piece.trim).head? ≠ some '@' →
      RespelledPiece piece (putAt piece)

def Respelled (before after : Text) : Prop :=
  ∃ pieces, List.Forall₂ RespelledPiece (before.splitOn ',') pieces ∧
    after = Text.join [','] pieces

inductive RespelledTag : Tag → Tag → Prop
  | kept (tag : Tag) : RespelledTag tag tag
  | marked (tag : Tag) : tag.head? ≠ some '@' → RespelledTag tag ('@' :: tag)

theorem bare_cons_at (tag : Tag) : bare ('@' :: tag) = tag := rfl

theorem bare_of_head?_ne {tag : Tag} (h : tag.head? ≠ some '@') : bare tag = tag :=
  if_neg h

theorem number?_cons {c : Char} (h : c ≠ ':') (piece : Text) :
    number? (c :: piece) = number? piece := by
  simp [number?, h, h.symm]

theorem isNegated_eq (piece : Text) : isNegated piece = (piece.head? == some '~') :=
  (isNegated_mk piece).symm

def markAt (piece : Text) : Text :=
  if isNegated piece then '~' :: '@' :: piece.tail else '@' :: piece

theorem trim_putAt (piece : Text) : (putAt piece).trim = markAt piece.trim := by
  have hstart : ∀ c ∈ piece.takeWhile Text.isBlank, Text.isBlank c = true :=
    fun c => List.mem_takeWhile_imp
  have htrim : piece.trim = Text.trimEnd (piece.dropWhile Text.isBlank) := rfl
  rw [putAt, Text.trim_append_of_isBlank hstart, markAt, isNegated_eq, htrim]
  -- The first character that is not blank tells whether the name begins behind it.
  cases hname : piece.dropWhile Text.isBlank with
  | nil => rfl
  | cons c rest =>
    have hc : Text.isBlank c = false := by
      simpa [hname] using List.head?_dropWhile_not Text.isBlank piece
    rw [Text.trimEnd_cons_of_not_isBlank hc]
    by_cases htilde : c = '~'
    · subst htilde
      exact (Text.trim_cons_of_not_isBlank hc ('@' :: rest)).trans
        (congrArg _ (Text.trimEnd_cons_of_not_isBlank rfl rest))
    · have hput :=
        Text.trim_cons_of_not_isBlank (show Text.isBlank '@' = false from rfl) (c :: rest)
      rw [Text.trimEnd_cons_of_not_isBlank hc] at hput
      simpa [htilde] using hput

theorem alike_markAt {piece : Text} (hn : isNamed piece = true)
    (hat : (tag piece).head? ≠ some '@') : Alike piece (markAt piece) := by
  rw [markAt]
  cases hneg : isNegated piece with
  | true =>
    rw [isNegated_eq, beq_iff_eq, List.head?_eq_some_iff] at hneg
    obtain ⟨rest, hrest⟩ := hneg
    subst hrest
    have hbefore : tag ('~' :: rest) = head rest := by simp [tag, isNegated_eq]
    have hafter : tag ('~' :: '@' :: rest) = '@' :: head rest := by simp [tag, isNegated_eq]
    exact
      { negated := by simp [isNegated_eq]
        named := by
          rw [hn]
          simp [isNamed, hafter]
        name := by
          rw [hbefore] at hat ⊢
          rw [List.tail_cons, if_pos rfl, hafter, bare_cons_at, bare_of_head?_ne hat]
        number := by simp [number?_cons] }
  | false =>
    have hbefore : tag piece = head piece := by simp [tag, hneg]
    have hafter : tag ('@' :: piece) = '@' :: head piece := by simp [tag, isNegated_eq]
    exact
      { negated := by
          rw [hneg]
          simp [isNegated_eq]
        named := by
          rw [hn]
          simp [isNamed, hafter]
        name := by
          rw [hbefore] at hat ⊢
          rw [if_neg Bool.false_ne_true, hafter, bare_cons_at, bare_of_head?_ne hat]
        number := by simp [number?_cons] }

theorem RespelledPiece.alike {before after : Text} (h : RespelledPiece before after) :
    Alike before.trim after.trim := by
  cases h with
  | kept => exact Alike.refl _
  | marked hn hat =>
    rw [trim_putAt]
    exact alike_markAt hn hat

theorem comma_not_mem_putAt {piece : Text} (h : ',' ∉ piece) : ',' ∉ putAt piece := by
  have hblank : ',' ∉ piece.takeWhile Text.isBlank :=
    fun hc => h ((List.takeWhile_sublist _).mem hc)
  have hname : ',' ∉ piece.dropWhile Text.isBlank :=
    fun hc => h ((List.dropWhile_sublist _).mem hc)
  intro hc
  rw [putAt, List.mem_append] at hc
  split at hc
  · have htail := mt List.mem_of_mem_tail hname
    simp [hblank, htail] at hc
  · simp [hblank, hname] at hc

theorem RespelledPiece.comma_not_mem {before after : Text} (h : RespelledPiece before after)
    (hcomma : ',' ∉ before) : ',' ∉ after := by
  cases h with
  | kept => exact hcomma
  | marked => exact comma_not_mem_putAt hcomma

theorem Respelled.alike {before after : Text} (h : Respelled before after) :
    List.Forall₂ Alike (pieces before) (pieces after) := by
  obtain ⟨texts, htexts, hafter⟩ := h
  have hcomma : ∀ text ∈ texts, ',' ∉ text := by
    intro text ht
    obtain ⟨piece, hp, hpiece⟩ := exists_mem_of_forall₂ htexts.flip ht
    exact hpiece.comma_not_mem (Text.not_mem_of_mem_splitOn hp)
  have hne : texts ≠ [] := by
    intro hnil
    rw [hnil, List.forall₂_nil_right_iff] at htexts
    exact List.splitOn_ne_nil ',' before htexts
  rw [hafter, pieces_join hne hcomma, pieces_eq_map_trim, Text.map_trim_splitOn_trim (by decide),
    List.forall₂_map_left_iff, List.forall₂_map_right_iff]
  exact htexts.imp fun _ _ => RespelledPiece.alike

theorem forall₂_ordered {before after : Text}
    (h : List.Forall₂ Alike (pieces before) (pieces after)) :
    List.Forall₂ Alike (ordered before) (ordered after) := by
  apply List.rel_append
  · exact List.rel_filter (fun _ _ halike => by simp only [halike.negated]) h
  · exact List.rel_filter (fun _ _ halike => by simp only [halike.negated]) h

theorem filterMap_declaration?_of_forall₂ {first second : List Text}
    (h : List.Forall₂ Alike first second) :
    first.filterMap declaration? = second.filterMap declaration? := by
  induction h with
  | nil => rfl
  | cons halike _ ih => rw [List.filterMap_cons, List.filterMap_cons, halike.declaration, ih]

theorem Respelled.declared_eq {before after : Text} (h : Respelled before after) :
    declared before = declared after :=
  filterMap_declaration?_of_forall₂ (forall₂_ordered h.alike)

theorem declarations_eq_of_respelled {xs ys : List Text} (h : List.Forall₂ Respelled xs ys) :
    declarations xs = declarations ys := by
  induction h with
  | nil => rfl
  | cons hinput _ ih => rw [declarations_cons, declarations_cons, hinput.declared_eq, ih]

theorem Respelled.echoed {before after : Text} (h : Respelled before after) :
    Echoed before after ∧ Echoed after before := by
  constructor
  · intro piece hp _
    exact exists_mem_of_forall₂ h.alike hp
  · intro piece hp _
    have hback : List.Forall₂ Alike (pieces after) (pieces before) :=
      (h.alike.imp fun _ _ => Alike.symm).flip
    exact exists_mem_of_forall₂ hback hp

theorem matched_of_respelled {xs ys : List Text} (h : List.Forall₂ Respelled xs ys) :
    Matched xs ys ∧ Matched ys xs := by
  constructor
  · intro x hx _
    obtain ⟨y, hy, hinput⟩ := exists_mem_of_forall₂ h hx
    exact ⟨y, hy, hinput.echoed⟩
  · intro y hy _
    have hback : List.Forall₂ (fun y x => Respelled x y) ys xs := h.flip
    obtain ⟨x, hx, hinput⟩ := exists_mem_of_forall₂ hback hy
    exact ⟨x, hx, hinput.echoed.symm⟩

theorem names_eq_of_respelled {before after : List Tag}
    (h : List.Forall₂ RespelledTag before after) : Tag.names before = Tag.names after := by
  induction h with
  | nil => rfl
  | @cons tag other tags others htag _ ih =>
    have hname : tag.name = other.name := by
      rw [← bare_eq_name, ← bare_eq_name]
      cases htag with
      | kept => rfl
      | marked hat => rw [bare_cons_at, bare_of_head?_ne hat]
    simp only [Tag.names, List.map_cons] at ih ⊢
    rw [hname, ih]

end Written

namespace LimitTable

theorem get?_cons_at {tag : Tag} (h : tag.head? ≠ some '@') (table : LimitTable) :
    table.get? ('@' :: tag) = table.get? tag := by
  rw [get?, get?, ← Written.bare_eq_name, ← Written.bare_eq_name, Written.bare_cons_at,
    Written.bare_of_head?_ne h]

theorem contains_cons_at {tag : Tag} (h : tag.head? ≠ some '@') (table : LimitTable) :
    table.contains ('@' :: tag) = table.contains tag := by
  rw [contains, contains, get?_cons_at h]

end LimitTable

namespace Expression

/-- Respelling tags changes no conflict, no limit and no verdict, and a limit is found under either
spelling of its tag. -/
theorem compile_of_respelled {xs ys : List Text} {before after : List Tag}
    (hinputs : List.Forall₂ Written.Respelled xs ys)
    (htags : List.Forall₂ Written.RespelledTag before after) :
    (∃ conflict, compile xs = .error conflict ∧ compile ys = .error conflict) ∨
      ∃ first second, compile xs = .ok first ∧ compile ys = .ok second ∧
        first.limits = second.limits ∧
        first.accepts before = second.accepts after ∧
        ∀ expression ∈ [first, second], ∀ tag : Tag, tag.head? ≠ some '@' →
          expression.limits.get? ('@' :: tag) = expression.limits.get? tag ∧
            expression.limits.contains ('@' :: tag) = expression.limits.contains tag := by
  have hdeclarations := Written.declarations_eq_of_respelled hinputs
  obtain ⟨hthere, hback⟩ := Written.matched_of_respelled hinputs
  cases hx : compile xs with
  | error conflict =>
    left
    -- The declarations agree one by one, so the first that conflicts is the same.
    rw [compile_eq_error_iff, hdeclarations, ← compile_eq_error_iff] at hx
    exact ⟨conflict, rfl, hx⟩
  | ok first =>
    right
    obtain ⟨second, hy⟩ := (exists_compile_of_matched hthere hback).1 ⟨first, hx⟩
    refine ⟨first, second, rfl, hy, limits_eq_of_matched hx hy hthere hback,
      accepts_eq_of_matched hx hy hthere hback (Written.names_eq_of_respelled htags), ?_⟩
    intro expression _ tag hat
    exact ⟨LimitTable.get?_cons_at hat _, LimitTable.contains_cons_at hat _⟩

theorem compile_of_respelled_behind_negation :
    let xs := [" ~~d:2 ,b,@c:7,~e".toList, "é :1".toList]
    let ys := [" ~@~d:2 ,@b,@c:7,~e".toList, "@é :1".toList]
    let clash := ["a:1,~a:2".toList]
    let respelled := ["@a:1,~a:2".toList]
    let expression : Expression :=
      { clauses := [⟨[⟨"@~d".toList, true⟩, ⟨"e".toList, true⟩, ⟨"@b".toList, false⟩,
          ⟨"@c".toList, false⟩]⟩, ⟨[⟨"@é ".toList, false⟩]⟩]
        limits := ⟨[("c".toList, 7), ("~d".toList, 2), ("é ".toList, 1)], by decide⟩ }
    (List.Forall₂ Written.Respelled xs ys ∧ compile ys = .ok expression ∧
      (∃ first, compile xs = .ok first ∧ first.limits = expression.limits ∧
        first.accepts ["b".toList, "é ".toList] =
          expression.accepts ["@b".toList, "é ".toList]) ∧
      expression.limits.get? "@é ".toList = expression.limits.get? "é ".toList) ∧
      List.Forall₂ Written.Respelled clash respelled ∧
      ∃ conflict, compile clash = .error conflict ∧ compile respelled = .error conflict := by
  intro xs ys clash respelled expression
  have hinputs : List.Forall₂ Written.Respelled xs ys := by
    refine .cons ⟨[Written.putAt " ~~d:2 ".toList, Written.putAt "b".toList, "@c:7".toList,
      "~e".toList], ?_, rfl⟩ (.cons ⟨[Written.putAt "é :1".toList], ?_, rfl⟩ .nil)
    · exact .cons (.marked _ rfl (by decide)) (.cons (.marked _ rfl (by decide))
        (.cons (.kept _) (.cons (.kept _) .nil)))
    · exact .cons (.marked _ rfl (by decide)) .nil
  have htags : List.Forall₂ Written.RespelledTag ["b".toList, "é ".toList]
      ["@b".toList, "é ".toList] := .cons (.marked _ (by decide)) (.cons (.kept _) .nil)
  have hclash : List.Forall₂ Written.Respelled clash respelled :=
    .cons ⟨[Written.putAt "a:1".toList, "~a:2".toList],
      .cons (.marked _ rfl (by decide)) (.cons (.kept _) .nil), rfl⟩ .nil
  have hys : compile ys = .ok expression := rfl
  refine ⟨⟨hinputs, hys, ?_⟩, hclash, ?_⟩
  · rcases compile_of_respelled hinputs htags with
      ⟨conflict, _, herror⟩ | ⟨first, second, hfirst, hsecond, hlimits, haccepts, hspelling⟩
    · cases hys.symm.trans herror
    · rw [Except.ok.inj (hys.symm.trans hsecond)]
      exact ⟨⟨first, hfirst, hlimits, haccepts⟩,
        (hspelling second (by simp) "é ".toList (by decide)).1⟩
  · rcases compile_of_respelled hclash .nil with hboth | ⟨first, _, hfirst, _⟩
    · exact hboth
    · cases (show compile clash = .error ⟨"a".toList, 2, 1⟩ from rfl).symm.trans hfirst

end Expression

end TagFilter
