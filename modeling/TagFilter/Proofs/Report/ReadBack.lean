import Mathlib.Data.List.DropRight
import TagFilter.Proofs.Report.Answer
import TagFilter.Proofs.Text.Trim

namespace TagFilter

namespace Text

theorem splitOn_flatMap_append {sep : Char} {lines : List Text} (h : ∀ line ∈ lines, sep ∉ line) :
    (lines.flatMap (· ++ [sep])).splitOn sep = lines ++ [[]] := by
  induction lines with
  | nil => rfl
  | cons line lines ih =>
    rw [List.flatMap_cons, List.append_assoc, List.singleton_append,
      List.splitOn_append_cons_self_of_not_mem (h line (by simp)),
      ih fun other ho => h other (by simp [ho]), List.cons_append]

end Text

namespace Report

def readVerdict? (line : Text) : Option Bool :=
  if line = "match".toList then some true
  else if line = "no match".toList then some false
  else none

def readNumber? (digits : Text) : Option Nat :=
  if digits ≠ [] ∧ digits.all Char.isDigit then some (Nat.ofDigitChars 10 digits 0) else none

/-- The name is what stands before the last `=`. -/
def readLimit? (line : Text) : Option (Text × Nat) :=
  if '=' ∈ line then
    (readNumber? (line.rtakeWhile (· ≠ '='))).map ((line.rdropWhile (· ≠ '=')).dropLast, ·)
  else none

def readLines? : List Text → Option (Bool × List (Text × Nat))
  | [] => none
  | verdict :: limits => do
    let matched ← readVerdict? verdict
    let entries ← limits.dropLast.mapM readLimit?
    return (matched, entries)

def readBack? (bytes : Bytes) : Option (Bool × List (Text × Nat)) :=
  (RawText.text? (Utf8.decode bytes)).bind fun text => readLines? (text.splitOn '\n')

theorem isDigit_of_mem_render {limit : Limit} {c : Char} (h : c ∈ limit.render) :
    c.isDigit = true :=
  Nat.isDigit_of_mem_toDigits (by decide) (by decide) h

theorem not_mem_render {c : Char} (h : c.isDigit = false) (limit : Limit) : c ∉ limit.render := by
  intro hc
  rw [isDigit_of_mem_render hc] at h
  cases h

theorem readNumber?_render (limit : Limit) : readNumber? limit.render = some limit.toNat := by
  have hdigits : limit.render.all Char.isDigit = true :=
    List.all_eq_true.2 fun _ => isDigit_of_mem_render
  rw [readNumber?, if_pos ⟨Nat.toDigits_ne_nil, hdigits⟩, Limit.render, Text.decimal,
    Nat.ofDigitChars_ten_toDigits]

theorem readLimit?_append_render (name : Text) (limit : Limit) :
    readLimit? (name ++ '=' :: limit.render) = some (name, limit.toNat) := by
  have hdigits : ∀ c ∈ limit.render.reverse, (decide (c ≠ '=')) = true := by
    intro c hc
    rw [decide_eq_true_iff]
    rintro rfl
    exact not_mem_render rfl limit (List.mem_reverse.1 hc)
  have hreverse : (name ++ '=' :: limit.render).reverse =
      limit.render.reverse ++ '=' :: name.reverse := by simp
  have hnumber : (name ++ '=' :: limit.render).rtakeWhile (· ≠ '=') = limit.render := by
    rw [List.rtakeWhile, hreverse, List.takeWhile_append_of_pos hdigits]
    simp
  have hname : (name ++ '=' :: limit.render).rdropWhile (· ≠ '=') = name ++ ['='] := by
    rw [List.rdropWhile, hreverse, List.dropWhile_append_of_pos hdigits]
    simp
  rw [readLimit?, if_pos (by simp), hnumber, hname, readNumber?_render, List.dropLast_concat]
  rfl

theorem mem_line_of_readLimit? {line : Text} {entry : Text × Nat}
    (h : readLimit? line = some entry) {c : Char} (hc : c ∈ entry.1) : c ∈ line := by
  rw [readLimit?] at h
  split at h
  · obtain ⟨number, _, hentry⟩ := Option.map_eq_some_iff.1 h
    rw [← hentry] at hc
    exact (List.rdropWhile_prefix _ line).mem ((List.dropLast_sublist _).mem hc)
  · cases h

theorem exists_line_of_mapM {lines : List Text} {entries : List (Text × Nat)}
    (h : lines.mapM readLimit? = some entries) {entry : Text × Nat} (he : entry ∈ entries) :
    ∃ line ∈ lines, readLimit? line = some entry := by
  induction lines generalizing entries with
  | nil =>
    obtain rfl := Option.some.inj h
    cases he
  | cons line lines ih =>
    rw [List.mapM_cons] at h
    obtain ⟨first, hfirst, h⟩ := Option.bind_eq_some_iff.1 h
    obtain ⟨others, hothers, h⟩ := Option.bind_eq_some_iff.1 h
    obtain rfl := Option.some.inj h
    rcases List.mem_cons.1 he with rfl | he
    · exact ⟨line, by simp, hfirst⟩
    · exact (ih hothers he).imp fun _ h => ⟨List.mem_cons_of_mem line h.1, h.2⟩

theorem lineFeed_not_mem_of_readBack? {bytes : Bytes} {matched : Bool}
    {entries : List (Text × Nat)} (h : readBack? bytes = some (matched, entries)) :
    ∀ entry ∈ entries, '\n' ∉ entry.1 := by
  intro entry he hc
  obtain ⟨text, _, h⟩ := Option.bind_eq_some_iff.1 h
  cases hlines : text.splitOn '\n' with
  | nil =>
    rw [hlines] at h
    cases h
  | cons verdict limits =>
    rw [hlines, readLines?] at h
    obtain ⟨_, _, h⟩ := Option.bind_eq_some_iff.1 h
    obtain ⟨others, hothers, h⟩ := Option.bind_eq_some_iff.1 h
    obtain ⟨rfl, rfl⟩ := Prod.mk.inj (Option.some.inj h)
    obtain ⟨line, hline, hread⟩ := exists_line_of_mapM hothers he
    have hmem : line ∈ text.splitOn '\n' := by
      rw [hlines]
      exact List.mem_cons_of_mem verdict ((List.dropLast_sublist _).mem hline)
    exact Text.not_mem_of_mem_splitOn hmem (mem_line_of_readLimit? hread hc)

def verdict (matched : Bool) : Text := if matched then "match".toList else "no match".toList

theorem readVerdict?_verdict (matched : Bool) : readVerdict? (verdict matched) = some matched := by
  cases matched <;> rfl

theorem text_eq_flatMap (matched : Bool) (limits : LimitTable) :
    text matched true limits =
      (verdict matched :: limits.toList.map fun entry => entry.1 ++ '=' :: entry.2.render).flatMap
        (· ++ ['\n']) := by
  rw [text_eq, if_pos rfl, List.flatMap_cons, List.flatMap_map]
  congr 1
  · cases matched <;> rfl
  · apply List.flatMap_congr
    intro entry _
    simp [limitLine]

theorem lineFeed_not_mem_lines {limits : LimitTable}
    (h : ∀ entry ∈ limits.toList, '\n' ∉ entry.1) (matched : Bool) :
    ∀ line ∈ verdict matched ::
      limits.toList.map fun entry => entry.1 ++ '=' :: entry.2.render, '\n' ∉ line := by
  intro line hline
  rcases List.mem_cons.1 hline with rfl | hline
  · cases matched <;> decide
  · obtain ⟨entry, he, rfl⟩ := List.mem_map.1 hline
    simp [h entry he, not_mem_render (show '\n'.isDigit = false from rfl)]

theorem readBack?_text {limits : LimitTable} (h : ∀ entry ∈ limits.toList, '\n' ∉ entry.1)
    (matched : Bool) :
    readBack? (Utf8.encode (text matched true limits)) =
      some (matched, limits.toList.map fun entry => (entry.1, entry.2.toNat)) := by
  have hlimits : (limits.toList.map fun entry => entry.1 ++ '=' :: entry.2.render).mapM readLimit? =
      some (limits.toList.map fun entry => (entry.1, entry.2.toNat)) := by
    rw [List.mapM_map]
    simp only [Function.comp_def, readLimit?_append_render]
    exact List.mapM_pure
  rw [readBack?, Utf8.decode_encode, RawText.text?_ofText, Option.bind_some, text_eq_flatMap,
    Text.splitOn_flatMap_append (lineFeed_not_mem_lines h matched), List.cons_append, readLines?,
    List.dropLast_concat, readVerdict?_verdict, hlimits]
  rfl

/-- On a sink without a bound the report can be read back, verdict and limits, exactly when no
limited name has a line feed in it. -/
theorem readBack?_write_iff {settings : Settings} {expression : Expression}
    (h : Expression.compile settings.expressions = .ok expression) (tags : List Tag) :
    let report := write settings tags true {}
    let matched := expression.accepts tags
    report.result = .ok matched ∧
      (readBack? report.sink.accepted =
          some (matched, expression.limits.toList.map fun entry => (entry.1, entry.2.toNat)) ↔
        ∀ entry ∈ expression.limits.toList, '\n' ∉ entry.1) := by
  intro report matched
  obtain ⟨hresult, hsink⟩ : report.result = _ ∧ report.sink = _ :=
    Prod.mk.inj (answer_write_unbounded h tags true)
  rw [hsink]
  -- For the one direction it does not matter how a line feed in a name is misread: no name that is
  -- read has one.
  refine ⟨hresult, fun hread entry he => ?_, fun hnames => readBack?_text hnames matched⟩
  exact lineFeed_not_mem_of_readBack? hread _ (List.mem_map_of_mem he)

theorem readBack?_write_odd_names :
    let settings : Settings :=
      { expressions := ["@:3,=:1,a=2:+07".toList, " no match : 5 ,~é é:10".toList] }
    let broken : Settings := { expressions := ["x=1\ny:2".toList] }
    let bytes := (write settings ["a=2".toList] true {}).sink.accepted
    let brokenBytes := (write broken [] true {}).sink.accepted
    bytes = Utf8.encode "match\n=3\n==1\na=2=7\nno match =5\né é=10\n".toList ∧
    readBack? bytes =
      some (true, [([], 3), ("=".toList, 1), ("a=2".toList, 7), ("no match ".toList, 5),
        ("é é".toList, 10)]) ∧
    readBack? brokenBytes = some (false, [("x".toList, 1), ("y".toList, 2)]) ∧
    readBack? brokenBytes ≠ some (false, [("x=1\ny".toList, 2)]) := by
  intro settings broken bytes brokenBytes
  let expression : Expression :=
    { clauses :=
        [⟨[⟨"@".toList, false⟩, ⟨"=".toList, false⟩, ⟨"a=2".toList, false⟩]⟩,
          ⟨[⟨"é é".toList, true⟩, ⟨"no match ".toList, false⟩]⟩]
      limits :=
        ⟨[([], 3), ("=".toList, 1), ("a=2".toList, 7), ("no match ".toList, 5),
          ("é é".toList, 10)], by decide⟩ }
  let brokenExpression : Expression :=
    { clauses := [⟨[⟨"x=1\ny".toList, false⟩]⟩]
      limits := ⟨[("x=1\ny".toList, 2)], by decide⟩ }
  have hcompile : Expression.compile settings.expressions = .ok expression := rfl
  have hbroken : Expression.compile broken.expressions = .ok brokenExpression := rfl
  refine ⟨by decide, (readBack?_write_iff hcompile _).2.2 (by decide), by decide, ?_⟩
  intro hread
  have hnames := (readBack?_write_iff hbroken []).2.1 hread
  exact hnames ("x=1\ny".toList, 2) (by decide) (by decide)

end Report

end TagFilter
