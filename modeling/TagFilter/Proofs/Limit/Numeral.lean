import Mathlib.Data.Nat.Digits.Defs
import TagFilter.Proofs.Expression.Heads

namespace TagFilter

namespace Written

def digitValue (c : Char) : Nat := c.toNat - '0'.toNat

def placeValue (digits : Text) : Nat := Nat.ofDigits 10 (digits.reverse.map digitValue)

/-- An optional `+` and at least one of the digits `0` to `9`, which have this value together. -/
def Numeral (text : Text) (value : Nat) : Prop :=
  ∃ digits, (text = digits ∨ text = '+' :: digits) ∧ digits ≠ [] ∧
    (∀ c ∈ digits, '0' ≤ c ∧ c ≤ '9') ∧ placeValue digits = value

theorem placeValue_eq_ofDigitChars (digits : Text) :
    placeValue digits = Nat.ofDigitChars 10 digits 0 := by
  induction digits with
  | nil => rfl
  | cons c digits ih =>
    rw [placeValue] at ih
    rw [Nat.ofDigitChars_cons, Nat.ofDigitChars_eq_ofDigitChars_zero, ← ih, placeValue,
      List.reverse_cons, List.map_append, Nat.ofDigits_append]
    simp [digitValue, Nat.add_comm]

theorem isDigit_iff {c : Char} : c.isDigit = true ↔ '0' ≤ c ∧ c ≤ '9' := by
  simp [Char.isDigit, Char.le_def]

theorem numeral_iff_readDecimal? {text : Text} {value : Nat} :
    Numeral text value ↔ Text.readDecimal? text = some value := by
  rw [Text.readDecimal?]
  constructor
  · rintro ⟨digits, htext, hne, hdigits, hvalue⟩
    have hall : digits.all Char.isDigit = true :=
      List.all_eq_true.2 fun c hc => isDigit_iff.2 (hdigits c hc)
    have hdrop : Text.dropLeading '+' text = digits := by
      rcases htext with rfl | rfl
      · refine Text.dropLeading_of_head?_ne fun hplus => ?_
        exact absurd (hdigits '+' (List.mem_of_head? hplus)) (by decide)
      · exact Text.dropLeading_cons_self '+' digits
    simp only [hdrop]
    rw [if_pos ⟨hne, hall⟩, ← placeValue_eq_ofDigitChars, hvalue]
  · intro h
    split at h
    · next hdigits =>
      refine ⟨Text.dropLeading '+' text, ?_, hdigits.1, ?_, ?_⟩
      · rw [Text.dropLeading_eq_ite]
        split
        · next hplus => exact .inr (List.eq_cons_of_mem_head? hplus)
        · exact .inl rfl
      · intro c hc
        exact isDigit_iff.1 (List.all_eq_true.1 hdigits.2 c hc)
      · rw [placeValue_eq_ofDigitChars]
        exact Option.some.inj h
    · cases h

theorem Numeral.unique {text : Text} {first second : Nat} (hfirst : Numeral text first)
    (hsecond : Numeral text second) : first = second := by
  rw [numeral_iff_readDecimal?] at hfirst hsecond
  exact Option.some.inj (hfirst.symm.trans hsecond)

theorem Numeral.ne_nil {text : Text} {value : Nat} (h : Numeral text value) : text ≠ [] := by
  obtain ⟨digits, rfl | rfl, hne, _⟩ := h
  · exact hne
  · exact List.cons_ne_nil _ _

theorem Numeral.eq_plus_or_digit {text : Text} {value : Nat} (h : Numeral text value) {c : Char}
    (hc : c ∈ text) : c = '+' ∨ '0' ≤ c ∧ c ≤ '9' := by
  obtain ⟨digits, rfl | rfl, _, hdigits, _⟩ := h
  · exact .inr (hdigits c hc)
  · exact (List.mem_cons.1 hc).imp_right (hdigits c)

end Written

namespace Limit

open Written

variable {limit soFar next : Limit} {text digits : Text} {c : Char}

def ofNat? (n : Nat) : Option Limit :=
  if h : n < UInt32.size then some (UInt32.ofNatLT n h) else none

theorem ofNat?_eq_some_iff {n : Nat} : ofNat? n = some limit ↔ n = limit.toNat := by
  rw [ofNat?]
  split
  · rw [Option.some_inj, ← UInt32.toNat_inj, UInt32.toNat_ofNatLT]
  · next h =>
    refine iff_of_false (fun heq => by cases heq) fun heq => h ?_
    rw [heq]
    exact limit.toNat_lt

theorem exists_ofNat? {n : Nat} (h : n < UInt32.size) : ∃ limit, ofNat? n = some limit :=
  ⟨_, dif_pos h⟩

theorem read?_eq_some_iff : read? text = some limit ↔ Numeral text.trim limit.toNat := by
  change (Text.readDecimal? text.trim).bind ofNat? = _ ↔ _
  simp [numeral_iff_readDecimal?, Option.bind_eq_some_iff, ofNat?_eq_some_iff]

def checkedMul? (a b : Limit) : Option Limit := ofNat? (a.toNat * b.toNat)

def checkedAdd? (a b : Limit) : Option Limit := ofNat? (a.toNat + b.toNat)

def push? (soFar : Limit) (c : Char) : Option Limit :=
  if c.isDigit then
    (checkedMul? soFar 10).bind fun tenfold => checkedAdd? tenfold (UInt32.ofNat (digitValue c))
  else none

def readDigits? (soFar : Limit) : Text → Option Limit
  | [] => some soFar
  | c :: rest => (push? soFar c).bind fun next => readDigits? next rest

def readChecked? (text : Text) : Option Limit :=
  let digits := if text.head? = some '+' then text.tail else text
  if digits = [] then none else readDigits? 0 digits

theorem toNat_digitValue (h : c.isDigit = true) :
    (UInt32.ofNat (digitValue c)).toNat = digitValue c := by
  have hle := (Char.isDigit_iff_toNat.1 h).2
  apply UInt32.toNat_ofNat_of_lt
  rw [digitValue]
  exact Nat.lt_of_le_of_lt (Nat.sub_le_sub_right hle _) (by decide)

theorem push?_eq_some_iff :
    push? soFar c = some next ↔
      c.isDigit = true ∧ 10 * soFar.toNat + digitValue c = next.toNat := by
  rw [push?]
  by_cases hc : c.isDigit = true
  · rw [if_pos hc, Option.bind_eq_some_iff]
    simp only [checkedMul?, checkedAdd?, ofNat?_eq_some_iff, toNat_digitValue hc, hc, true_and]
    change (∃ tenfold : Limit, soFar.toNat * 10 = tenfold.toNat ∧ _) ↔ _
    constructor
    · rintro ⟨tenfold, hmul, hadd⟩
      rw [← hadd, ← hmul, Nat.mul_comm]
    · intro h
      obtain ⟨tenfold, hmul⟩ : ∃ tenfold, ofNat? (soFar.toNat * 10) = some tenfold := by
        refine exists_ofNat? (Nat.lt_of_le_of_lt ?_ next.toNat_lt)
        omega
      rw [ofNat?_eq_some_iff] at hmul
      exact ⟨tenfold, hmul, by rw [← hmul, ← h, Nat.mul_comm]⟩
  · simp [hc]

theorem le_ofDigitChars (digits : Text) (soFar : Nat) :
    soFar ≤ Nat.ofDigitChars 10 digits soFar := by
  induction digits generalizing soFar with
  | nil => exact Nat.le_refl soFar
  | cons c digits ih =>
    rw [Nat.ofDigitChars_cons]
    have := ih (10 * soFar + (c.toNat - '0'.toNat))
    omega

theorem readDigits?_eq_some_iff :
    readDigits? soFar digits = some limit ↔
      digits.all Char.isDigit = true ∧ Nat.ofDigitChars 10 digits soFar.toNat = limit.toNat := by
  -- The value read so far changes from digit to digit.
  induction digits generalizing soFar with
  | nil => rw [readDigits?, Option.some_inj, ← UInt32.toNat_inj]; simp
  | cons c rest ih =>
    rw [readDigits?, Option.bind_eq_some_iff, Nat.ofDigitChars_cons, ← digitValue, List.all_cons,
      Bool.and_eq_true]
    simp only [push?_eq_some_iff, ih]
    constructor
    · rintro ⟨next, ⟨hc, hnext⟩, hrest, hvalue⟩
      exact ⟨⟨hc, hrest⟩, by rw [hnext, hvalue]⟩
    · rintro ⟨⟨hc, hrest⟩, hvalue⟩
      -- The value that is reached fits, so what was read on the way there fits too.
      obtain ⟨next, hnext⟩ : ∃ next, ofNat? (10 * soFar.toNat + digitValue c) = some next := by
        refine exists_ofNat? (Nat.lt_of_le_of_lt (le_ofDigitChars rest _) ?_)
        rw [hvalue]
        exact limit.toNat_lt
      rw [ofNat?_eq_some_iff] at hnext
      exact ⟨next, ⟨hc, hnext⟩, hrest, by rw [← hnext, hvalue]⟩

theorem readChecked?_eq_some_iff :
    readChecked? text = some limit ↔ Numeral text limit.toNat := by
  rw [numeral_iff_readDecimal?, Text.readDecimal?, Text.dropLeading_eq_ite, readChecked?]
  generalize (if text.head? = some '+' then text.tail else text) = digits
  by_cases h : digits = []
  · simp [h]
  · simp only [if_neg h, readDigits?_eq_some_iff]
    by_cases hall : digits.all Char.isDigit = true <;> simp [h, hall]

theorem read?_eq_readChecked? (text : Text) : read? text = readChecked? text.trim := by
  ext limit
  rw [read?_eq_some_iff, readChecked?_eq_some_iff]

theorem numeral_append_render {plus : Text} (hplus : plus = [] ∨ plus = ['+']) (zeros : Nat)
    (limit : Limit) :
    Numeral (plus ++ (List.replicate zeros '0' ++ limit.render)) limit.toNat := by
  refine ⟨List.replicate zeros '0' ++ limit.render, ?_, ?_, ?_, ?_⟩
  · exact hplus.imp (fun h => by rw [h]; rfl) fun h => by rw [h]; rfl
  · exact List.append_ne_nil_of_right_ne_nil _ Nat.toDigits_ne_nil
  · intro c hc
    rcases List.mem_append.1 hc with hc | hc
    · rw [List.eq_of_mem_replicate hc]
      decide
    · exact isDigit_iff.1 (Nat.isDigit_of_mem_toDigits (by decide) (by decide) hc)
  · rw [placeValue_eq_ofDigitChars, Nat.ofDigitChars_append, Nat.ofDigitChars_replicate_zero,
      Nat.mul_zero]
    exact Nat.ofDigitChars_ten_toDigits

end Limit

namespace Written

theorem Numeral.trim {text : Text} {value : Nat} (h : Numeral text value) :
    Text.trim text = text := by
  refine Text.trim_of_not_isBlank fun c hc => ?_
  rcases h.eq_plus_or_digit hc with rfl | hdigit
  · rfl
  · have hrange := Char.isDigit_iff_toNat.1 (isDigit_iff.2 hdigit)
    exact Text.isBlank_of_lt_of_lt (Nat.lt_of_lt_of_le (by decide) hrange.1)
      (Nat.lt_of_le_of_lt hrange.2 (by decide))

theorem limit?_mk_eq_some_iff {raw : Text} {limit : Limit} :
    (Token.mk raw).limit? = some limit ↔
      ':' ∈ raw ∧ Numeral (Text.trim (suffix raw)) limit.toNat := by
  rw [limit?_mk, number?]
  split
  · next hcolon =>
    rw [← suffix, Limit.read?_eq_some_iff]
    exact (and_iff_right hcolon).symm
  · next hcolon => exact iff_of_false (fun h => by cases h) fun h => hcolon h.1

theorem map_toNat_limit?_mk {raw : Text} {n : Nat} :
    (Token.mk raw).limit?.map UInt32.toNat = some n ↔
      ':' ∈ raw ∧ Numeral (Text.trim (suffix raw)) n ∧ n ≤ 4294967295 := by
  rw [Option.map_eq_some_iff]
  constructor
  · rintro ⟨limit, h, rfl⟩
    obtain ⟨hcolon, hnumeral⟩ := limit?_mk_eq_some_iff.1 h
    exact ⟨hcolon, hnumeral, Nat.le_of_lt_succ limit.toNat_lt⟩
  · rintro ⟨hcolon, hnumeral, hle⟩
    obtain ⟨limit, hof⟩ := Limit.exists_ofNat? (Nat.lt_succ_of_le hle)
    rw [Limit.ofNat?_eq_some_iff] at hof
    rw [hof] at hnumeral
    exact ⟨limit, limit?_mk_eq_some_iff.2 ⟨hcolon, hnumeral⟩, hof.symm⟩

theorem limit?_mk_eq_none {raw : Text}
    (h : ∀ value ≤ 4294967295, ¬ Numeral (Text.trim (suffix raw)) value) :
    (Token.mk raw).limit? = none := by
  rw [Option.eq_none_iff_forall_ne_some]
  intro limit hlimit
  exact h limit.toNat (Nat.le_of_lt_succ limit.toNat_lt) (limit?_mk_eq_some_iff.1 hlimit).2

theorem suffix_append_colon {start : Text} (h : ':' ∉ start) (rest : Text) :
    suffix (start ++ ':' :: rest) = rest := by
  have hstart : ∀ c ∈ start, (decide (c ≠ ':')) = true := by
    intro c hc
    rw [decide_eq_true_iff]
    rintro rfl
    exact h hc
  rw [suffix, List.dropWhile_append_of_pos hstart, List.dropWhile_cons_of_neg (by simp)]
  rfl

theorem limit?_append_render {start before plus after : Text} (hstart : ':' ∉ start)
    (hblank : ∀ c ∈ before ++ after, Text.isBlank c = true) (hplus : plus = [] ∨ plus = ['+'])
    (zeros : Nat) (limit : Limit) :
    (Token.mk (start ++ ':' ::
      (before ++ (plus ++ (List.replicate zeros '0' ++ limit.render)) ++ after))).limit? =
        some limit := by
  have hnumeral := Limit.numeral_append_render hplus zeros limit
  refine limit?_mk_eq_some_iff.2 ⟨by simp, ?_⟩
  rw [suffix_append_colon hstart,
    Text.trim_append_right_of_isBlank fun c hc => hblank c (List.mem_append_right before hc),
    Text.trim_append_of_isBlank fun c hc => hblank c (List.mem_append_left after hc),
    hnumeral.trim]
  exact hnumeral

/-- A token has a limit exactly when what follows its first colon is, up to blanks at its ends, a
numeral whose value has 32 bits. That is what a reader finds that takes digit after digit and checks
each product and each sum; any other suffix gives no limit, and never another one. What is written
for a limit is read back as that limit. -/
theorem limit?_eq_some_iff_numeral (raw : Text) :
    let token : Token := ⟨raw⟩
    let trimmed := ((suffix raw).dropWhile Text.isBlank).rdropWhile Text.isBlank
    (∀ n, token.limit?.map UInt32.toNat = some n ↔
        ':' ∈ raw ∧ Numeral trimmed n ∧ n ≤ 4294967295) ∧
      token.limit? = (if ':' ∈ raw then Limit.readChecked? trimmed else none) ∧
      (trimmed = [] ∨ (∃ c ∈ trimmed, c ≠ '+' ∧ ¬ ('0' ≤ c ∧ c ≤ '9')) ∨
          (∃ value, Numeral trimmed value ∧ 4294967295 < value) →
        token.limit? = none) ∧
      token.literal = ⟨tag raw, isNegated raw⟩ ∧
      token.literal = (Token.mk (head raw)).literal ∧
      ∀ (limit : Limit) (before plus after : Text) (zeros : Nat),
        (∀ c ∈ before ++ after, Text.isBlank c = true) → plus = [] ∨ plus = ['+'] →
          (Token.mk (head raw ++ ':' ::
            (before ++ (plus ++ (List.replicate zeros '0' ++ limit.render)) ++ after))).limit? =
              some limit := by
  intro token trimmed
  have htrimmed : trimmed = Text.trim (suffix raw) := (Text.trim_eq_rdropWhile (suffix raw)).symm
  rw [htrimmed]
  refine ⟨fun n => map_toNat_limit?_mk, ?_, fun hbad => limit?_mk_eq_none fun value hle h => ?_,
    literal_mk raw, ?_, fun limit before plus after zeros hblank hplus =>
      limit?_append_render (colon_not_mem_head raw) hblank hplus zeros limit⟩
  · rw [limit?_mk, number?, ← suffix, Limit.read?_eq_readChecked?]
  · rcases hbad with hnil | ⟨c, hc, hplus, hdigit⟩ | ⟨large, hvalue, hlarge⟩
    · exact h.ne_nil hnil
    · exact (h.eq_plus_or_digit hc).elim hplus hdigit
    · rw [hvalue.unique h] at hlarge
      exact Nat.not_lt.2 hle hlarge
  · rw [literal_mk, literal_mk, tag_head, isNegated_head]

theorem limit?_eq_some_iff_numeral_largest :
    let largest : Limit := 4294967295
    let numeral := "+0004294967295".toList
    (Token.mk ("~@a: ".toList ++ numeral)).limit?.map UInt32.toNat = some 4294967295 ∧
      (Token.mk ("~@a".toList ++ ':' ::
        ([' '] ++ (['+'] ++ (List.replicate 3 '0' ++ largest.render)) ++ [' ']))).limit? =
          some largest ∧
      (Token.mk "~@a:4294967296".toList).limit? = none ∧
      (Token.mk "~@a:1:2".toList).limit? = none ∧
      (Token.mk "~@a:٣".toList).limit? = none ∧
      (Token.mk "~@a: ".toList).limit? = none ∧
      (Token.mk "~@a:-1".toList).literal = ⟨"@a".toList, true⟩ := by
  intro largest numeral
  have hread := (limit?_eq_some_iff_numeral ("~@a: ".toList ++ numeral)).1 4294967295
  have hback := (limit?_eq_some_iff_numeral "~@a".toList).2.2.2.2.2 largest [' '] ['+'] [' '] 3
  have hlarge := (limit?_eq_some_iff_numeral "~@a:4294967296".toList).2.2.1
  have hcolon := (limit?_eq_some_iff_numeral "~@a:1:2".toList).2.2.1
  have hdigit := (limit?_eq_some_iff_numeral "~@a:٣".toList).2.2.1
  have hempty := (limit?_eq_some_iff_numeral "~@a: ".toList).2.2.1
  have hliteral := (limit?_eq_some_iff_numeral "~@a:-1".toList).2.2.2.1
  refine ⟨hread.2 ⟨by decide, ?_, Nat.le_refl _⟩, hback (List.all_eq_true.1 rfl) (.inr rfl),
    hlarge ?_, hcolon ?_, hdigit ?_, hempty ?_, hliteral⟩
  · exact numeral_iff_readDecimal?.2 rfl
  · exact .inr (.inr ⟨4294967296, numeral_iff_readDecimal?.2 rfl, by decide⟩)
  · exact .inr (.inl ⟨':', by decide, by decide, by decide⟩)
  · exact .inr (.inl ⟨'٣', by decide, by decide, by decide⟩)
  · exact .inl (by decide)

end Written

end TagFilter
