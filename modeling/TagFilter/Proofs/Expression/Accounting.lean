import TagFilter.Proofs.Expression.Notices
import TagFilter.Proofs.Expression.Verdict

namespace TagFilter

namespace Written

/-- Whether a suffix is written and declares nothing: it is no number, or there is no name. -/
def losesSuffix (piece : Text) : Bool :=
  ':' ∈ piece ∧ (number? piece = none ∨ isNamed piece = false)

def lost (input : Text) : List Text := (processed input).filter losesSuffix

def nameless (input : Text) : List Text := (processed input).filter (!isNamed ·)

def logged (level : Level) (message : Text) : Record :=
  { level, origin := "scenario_tags::parser".toList, message }

def warning (piece : Text) : Record :=
  logged .warn <|
    match number? piece with
    | none => "ignoring limit `".toList ++ suffix piece ++ "` on tag token `".toList ++ piece
        ++ "`: not a non-negative integer".toList
    | some limit => "ignoring limit ".toList ++ Nat.toDigits 10 limit.toNat
        ++ " on nameless tag token ".toList ++ Text.quote piece

def skipped (piece : Text) : Record :=
  logged .debug ("skipping tag token without a name: ".toList ++ Text.quote piece)

def pieceRecords (piece : Text) : List Record :=
  match losesSuffix piece, isNamed piece with
  | false, true => []
  | true, true => [warning piece]
  | false, false => [skipped piece]
  | true, false =>
    if number? piece = none then [warning piece, skipped piece]
    else [skipped piece, warning piece]

def parsed (clause : Clause) (input : Text) : Record :=
  logged .debug
    ("parsed tag clause `".toList ++ clause.render ++ "` from ".toList ++ Text.quote input)

def closing (input : Text) : Record :=
  if processed input = [] then
    logged .debug ("skipping tag expression without tokens: ".toList ++ Text.quote input)
  else if (pieces input).any isNamed then parsed ⟨literals input⟩ input
  else
    logged .debug
      ("skipping tag expression whose tokens carry no names: ".toList ++ Text.quote input)

def records (input : Text) : List Record :=
  (processed input).flatMap pieceRecords ++ [closing input]

def isParsed (record : Record) : Bool := "parsed tag clause `".toList.isPrefixOf record.message

theorem unreadable?_mk (piece : Text) :
    (Token.mk piece).unreadable? =
      if ':' ∈ piece ∧ number? piece = none then some (suffix piece) else none := by
  rw [Token.unreadable?, suffix?_mk, number?]
  by_cases hcolon : ':' ∈ piece
  · cases hread : Limit.read? (suffix piece) <;> simp_all [suffix]
  · simp [hcolon]

theorem colon_mem_of_number? {piece : Text} {limit : Limit} (h : number? piece = some limit) :
    ':' ∈ piece := by
  by_contra hcolon
  rw [number?, if_neg hcolon] at h
  cases h

theorem record_unreadableLimit {piece : Text} (h : number? piece = none) :
    (Notice.unreadableLimit (suffix piece) ⟨piece⟩).record = warning piece := by
  rw [warning, h]
  rfl

theorem record_namelessLimit {piece : Text} {limit : Limit} (h : number? piece = some limit) :
    (Notice.namelessLimit limit ⟨piece⟩).record = warning piece := by
  rw [warning, h]
  rfl

theorem map_record_pieceNotices (piece : Text) :
    (pieceNotices piece).map Notice.record = pieceRecords piece := by
  have hskipped : (Notice.namelessToken ⟨piece⟩).record = skipped piece := rfl
  rw [pieceNotices, Token.notices, unreadable?_mk, limit?_mk, isNamed_mk, pieceRecords,
    losesSuffix]
  cases hnumber : number? piece with
  | none =>
    have hwarning := record_unreadableLimit hnumber
    by_cases hcolon : ':' ∈ piece <;> cases isNamed piece <;>
      simp [hcolon, hwarning, hskipped]
  | some limit =>
    have hcolon := colon_mem_of_number? hnumber
    have hwarning := record_namelessLimit hnumber
    cases isNamed piece <;> simp [hcolon, hwarning, hskipped]

theorem record_closing (input : Text) :
    (Clause.closing input ((processed input).map Token.mk)).record = closing input := by
  rw [Clause.closing, ← inOrder_eq_map_processed, Clause.ofTokens_inOrder, isEmpty_mk_literals,
    inOrder_eq_map_processed, List.isEmpty_map, closing]
  cases processed input with
  | nil => rfl
  | cons piece rest => cases (pieces input).any isNamed <;> rfl

theorem map_record_notices (input : Text) :
    (notices input).map Notice.record = records input := by
  rw [notices, List.map_append, List.map_flatMap, records, List.map_singleton, record_closing]
  simp only [map_record_pieceNotices]

section Filters

/-- No filter used here keeps both kinds of records of a piece, so it does not matter which of them
is the first. -/
theorem filter_pieceRecords {p : Record → Bool} {piece : Text}
    (h : p (warning piece) = false ∨ p (skipped piece) = false) :
    (pieceRecords piece).filter p =
      (if losesSuffix piece then [warning piece].filter p else []) ++
        if isNamed piece then [] else [skipped piece].filter p := by
  rw [pieceRecords]
  cases losesSuffix piece <;> cases isNamed piece <;> cases number? piece <;>
    rcases h with h | h <;> simp [List.filter_cons, h]

theorem filter_warn_pieceRecords (piece : Text) :
    (pieceRecords piece).filter (·.level = .warn) =
      if losesSuffix piece then [warning piece] else [] := by
  rw [filter_pieceRecords (.inr rfl)]
  cases losesSuffix piece <;> cases isNamed piece <;> rfl

theorem filter_debug_pieceRecords (piece : Text) :
    (pieceRecords piece).filter (·.level = .debug) =
      if !isNamed piece then [skipped piece] else [] := by
  rw [filter_pieceRecords (.inl rfl)]
  cases losesSuffix piece <;> cases isNamed piece <;> rfl

theorem isParsed_warning (piece : Text) : isParsed (warning piece) = false := by
  rw [warning]
  cases number? piece <;> rfl

theorem filter_isParsed_pieceRecords (piece : Text) :
    (pieceRecords piece).filter isParsed = [] := by
  have hskipped : isParsed (skipped piece) = false := rfl
  rw [filter_pieceRecords (.inr hskipped)]
  simp [isParsed_warning, hskipped]

theorem level_closing (input : Text) : (closing input).level = .debug := by
  rw [closing]
  cases processed input with
  | nil => rfl
  | cons piece rest => cases (pieces input).any isNamed <;> rfl

theorem any_isNamed_of_processed_eq_nil {input : Text} (h : processed input = []) :
    (pieces input).any isNamed = false := by
  rw [List.any_eq_false]
  intro piece hp hn
  have hmem : piece ∈ processed input :=
    List.mem_filter.2 ⟨mem_ordered.2 hp, by simpa using ne_nil_of_isNamed hn⟩
  rw [h] at hmem
  cases hmem

theorem filter_isParsed_closing (input : Text) :
    [closing input].filter isParsed =
      if (pieces input).any isNamed then [parsed ⟨literals input⟩ input] else [] := by
  rw [closing]
  cases hp : processed input with
  | nil =>
    rw [any_isNamed_of_processed_eq_nil hp]
    rfl
  | cons piece rest => cases (pieces input).any isNamed <;> rfl

theorem flatMap_ite_singleton {α β : Type} (p : α → Bool) (f : α → β) (items : List α) :
    items.flatMap (fun item => if p item then [f item] else []) = (items.filter p).map f := by
  induction items with
  | nil => rfl
  | cons item items ih => cases h : p item <;> simp [h, ih]

theorem filter_warn_records (input : Text) :
    (records input).filter (·.level = .warn) = (lost input).map warning := by
  rw [records, List.filter_append, List.filter_flatMap]
  simp [filter_warn_pieceRecords, level_closing, flatMap_ite_singleton, lost]

theorem filter_debug_records (input : Text) :
    (records input).filter (·.level = .debug) =
      (nameless input).map skipped ++ [closing input] := by
  rw [records, List.filter_append, List.filter_flatMap]
  simp [filter_debug_pieceRecords, level_closing, ← flatMap_ite_singleton, nameless]

theorem filter_isParsed_records (input : Text) :
    (records input).filter isParsed =
      if (pieces input).any isNamed then [parsed ⟨literals input⟩ input] else [] := by
  rw [records, List.filter_append, List.filter_flatMap, filter_isParsed_closing]
  simp [filter_isParsed_pieceRecords]

end Filters

theorem declaration?_of_not_losesSuffix {piece : Text} (hcolon : ':' ∈ piece)
    (h : losesSuffix piece = false) :
    ∃ limit, number? piece = some limit ∧ declaration? piece = some (bare (tag piece), limit) := by
  cases hnumber : number? piece with
  | none => simp [losesSuffix, hcolon, hnumber] at h
  | some limit =>
    have hn : isNamed piece = true := by simpa [losesSuffix, hcolon, hnumber] using h
    exact ⟨limit, rfl, by rw [declaration?, if_pos hn, hnumber]; rfl⟩

end Written

namespace Expression

open History

def records (inputs : List Text) : List Record := (compilation inputs).notices.map Notice.record

variable {inputs : List Text} {expression : Expression} {conflict : Conflict}

theorem records_of_ok (h : compile inputs = .ok expression) :
    records inputs = inputs.flatMap Written.records := by
  rw [records, compilation,
    Compilation.notices_ofStrings_of_ok (compile_eq_ok_iff.1 h).1, List.map_flatMap]
  simp only [Written.map_record_notices]

theorem records_of_error (h : compile inputs = .error conflict) :
    ∃ earlier input later done piece rest,
      inputs = earlier ++ input :: later ∧
      Written.processed input = done ++ piece :: rest ∧
      Written.declaration? piece = some (conflict.name, conflict.requested) ∧
      Consistent (Written.declarations earlier ++ done.filterMap Written.declaration?) ∧
      (Written.declarations earlier ++ done.filterMap Written.declaration?).lookup conflict.name =
        some conflict.existing ∧
      conflict.requested ≠ conflict.existing ∧
      records inputs =
        earlier.flatMap Written.records ++ done.flatMap Written.pieceRecords := by
  rw [compile_eq_error_iff, ← LimitTable.recordAll_eq_error_iff] at h
  obtain ⟨earlier, input, later, done, piece, rest, middle, hinputs, hsplit, hdone, hpiece,
    hnotices⟩ := Compilation.notices_ofStrings_of_error h
  have hrecords : records inputs =
      earlier.flatMap Written.records ++ done.flatMap Written.pieceRecords := by
    rw [records, compilation, hnotices, List.map_append, List.map_flatMap, List.map_flatMap]
    simp only [Written.map_record_notices, Written.map_record_pieceNotices]
  cases hentry : Written.declaration? piece with
  | none =>
    rw [hentry] at hpiece
    cases hpiece
  | some entry =>
    rw [hentry] at hpiece
    obtain ⟨hconflict, hfirst, hne⟩ := LimitTable.lookup_of_record_eq_error hdone
      ((LimitTable.recordAll_singleton middle entry).symm.trans hpiece)
    exact ⟨earlier, input, later, done, piece, rest, hinputs, hsplit,
      hentry.trans (congrArg some hconflict), LimitTable.recordAll_eq_ok_iff.1 ⟨middle, hdone⟩,
      hfirst, hne, hrecords⟩

theorem forall₂_parsed_of_ok (h : compile inputs = .ok expression) :
    List.Forall₂ (fun record clause => ∃ input ∈ inputs, record = Written.parsed clause input)
      ((records inputs).filter Written.isParsed) expression.clauses := by
  rw [records_of_ok h, clauses_of_compile h, Written.clauses, List.filter_flatMap]
  simp only [Written.filter_isParsed_records, Written.flatMap_ite_singleton]
  rw [List.forall₂_map_left_iff, List.forall₂_map_right_iff, List.forall₂_same]
  intro input hinput
  exact ⟨input, (List.mem_filter.1 hinput).1, rfl⟩

/-- No suffix is lost silently. When strings compile, there is a warning for each suffix that
declares nothing, and every other suffix is the limit of its tag. When they do not compile, the
records go as far as the piece that is refused, and no further. -/
theorem records_of_compile (inputs : List Text) :
    (∀ expression, compile inputs = .ok expression →
        records inputs = inputs.flatMap Written.records ∧
        (records inputs).filter (·.level = .warn) =
          (inputs.flatMap Written.lost).map Written.warning ∧
        (∀ input ∈ inputs, ∀ piece ∈ Written.pieces input,
          ':' ∈ piece → Written.losesSuffix piece = false →
            ∃ limit, Written.number? piece = some limit ∧
              expression.limits.get? (Written.tag piece) = some limit) ∧
        (records inputs).filter (·.level = .debug) =
          inputs.flatMap (fun input =>
            (Written.nameless input).map Written.skipped ++ [Written.closing input]) ∧
        List.Forall₂ (fun record clause => ∃ input ∈ inputs, record = Written.parsed clause input)
          ((records inputs).filter Written.isParsed) expression.clauses) ∧
      ∀ conflict, compile inputs = .error conflict →
        ∃ earlier input later done piece rest,
          inputs = earlier ++ input :: later ∧
          Written.processed input = done ++ piece :: rest ∧
          Written.declaration? piece = some (conflict.name, conflict.requested) ∧
          Consistent (Written.declarations earlier ++ done.filterMap Written.declaration?) ∧
          (Written.declarations earlier ++ done.filterMap Written.declaration?).lookup
            conflict.name = some conflict.existing ∧
          conflict.requested ≠ conflict.existing ∧
          records inputs =
            earlier.flatMap Written.records ++ done.flatMap Written.pieceRecords := by
  refine ⟨fun expression h => ?_, fun conflict => records_of_error⟩
  have hrecords := records_of_ok h
  refine ⟨hrecords, ?_, ?_, ?_, forall₂_parsed_of_ok h⟩
  · rw [hrecords, List.filter_flatMap, List.map_flatMap]
    simp only [Written.filter_warn_records]
  · intro input hinput piece hpiece hcolon hkept
    obtain ⟨limit, hnumber, hentry⟩ := Written.declaration?_of_not_losesSuffix hcolon hkept
    refine ⟨limit, hnumber, (get?_limits_of_compile h _ _).2 ?_⟩
    exact List.mem_flatMap.2 ⟨input, hinput,
      List.mem_filterMap.2 ⟨piece, Written.mem_ordered.2 hpiece, hentry⟩⟩
  · rw [hrecords, List.filter_flatMap]
    simp only [Written.filter_debug_records]

theorem records_of_compile_every_branch :
    let inputs := ["~:3,@a:x, b:2,:".toList, " , ".toList, "~".toList, "~c: 7 ,@b:2".toList]
    let expression : Expression :=
      { clauses := [⟨[⟨"@a".toList, false⟩, ⟨"b".toList, false⟩]⟩,
          ⟨[⟨"c".toList, true⟩, ⟨"@b".toList, false⟩]⟩]
        limits := ⟨[("b".toList, 2), ("c".toList, 7)], by decide⟩ }
    let refused := ["~:3,@a:1".toList, "b:x,@a:2,:4,~~".toList, "d:".toList]
    (compile inputs = .ok expression ∧
      (records inputs).filter (·.level = .warn) =
        ["~:3".toList, "@a:x".toList, ":".toList].map Written.warning ∧
      ((records inputs).filter (·.level = .debug)).length = 7 ∧
      expression.limits.get? "c".toList = some 7) ∧
      compile refused = .error ⟨"a".toList, 1, 2⟩ ∧
      (records refused).map (·.level) = [.debug, .warn, .debug, .warn] ∧
      ∃ earlier input later done piece rest,
        refused = earlier ++ input :: later ∧
        Written.processed input = done ++ piece :: rest ∧
        Written.declaration? piece = some ("a".toList, 2) ∧
        records refused =
          earlier.flatMap Written.records ++ done.flatMap Written.pieceRecords := by
  intro inputs expression refused
  have hok : compile inputs = .ok expression := rfl
  have herror : compile refused = .error ⟨"a".toList, 1, 2⟩ := rfl
  obtain ⟨_, hwarnings, hlimits, hwords, _⟩ := (records_of_compile inputs).1 expression hok
  refine ⟨⟨hok, hwarnings, by rw [hwords]; rfl, ?_⟩, herror, rfl, ?_⟩
  · obtain ⟨limit, hnumber, hlimit⟩ := hlimits "~c: 7 ,@b:2".toList (by decide)
      "~c: 7".toList (by decide) (by decide) (by decide)
    exact hlimit.trans hnumber.symm
  · obtain ⟨earlier, input, later, done, piece, rest, hinputs, hsplit, hpiece, _, _, _, hrecords⟩ :=
      (records_of_compile refused).2 _ herror
    exact ⟨earlier, input, later, done, piece, rest, hinputs, hsplit, hpiece, hrecords⟩

end Expression

end TagFilter
