import TagFilter.Text.Utf8

namespace TagFilter.Utf8

theorem encode_append (first second : Text) :
    encode (first ++ second) = encode first ++ encode second :=
  List.flatMap_append

theorem encode_flatten (texts : List Text) :
    encode texts.flatten = (texts.map encode).flatten := by
  induction texts with
  | nil => rfl
  | cons text texts ih =>
    rw [List.flatten_cons, encode_append, ih, List.map_cons, List.flatten_cons]

section First

variable {byte : Nat}

theorem start_of_lt (h : byte < 0x80) : start byte = ([some (Char.ofNat byte)], none) :=
  if_pos h

theorem start_two (hlow : 0xC2 ≤ byte) (hhigh : byte < 0xE0) :
    start byte = ([], some ⟨byte - 0xC0, 1, 0x80, 0xBF⟩) := by
  rw [start, if_neg (by omega), if_neg (by omega), if_pos hhigh]

theorem start_three (hlow : 0xE0 ≤ byte) (hhigh : byte < 0xF0) :
    start byte =
      ([], some ⟨byte - 0xE0, 2, if byte = 0xE0 then 0xA0 else 0x80,
        if byte = 0xED then 0x9F else 0xBF⟩) := by
  rw [start, if_neg (by omega), if_neg (by omega), if_neg (by omega)]
  by_cases hfirst : byte = 0xE0
  · simp [hfirst]
  by_cases hsurrogate : byte = 0xED
  · simp [hsurrogate]
  simp [hfirst, hsurrogate, hhigh]

theorem start_four (hlow : 0xF0 ≤ byte) (hhigh : byte ≤ 0xF4) :
    start byte =
      ([], some ⟨byte - 0xF0, 3, if byte = 0xF0 then 0x90 else 0x80,
        if byte = 0xF4 then 0x8F else 0xBF⟩) := by
  rw [start, if_neg (by omega), if_neg (by omega), if_neg (by omega), if_neg (by omega),
    if_neg (by omega), if_neg (by omega)]
  by_cases hfirst : byte = 0xF0
  · simp [hfirst]
  by_cases hlast : byte = 0xF4
  · simp [hlast]
  have hbelow : byte < 0xF4 := by omega
  simp [hfirst, hlast, hbelow]

end First

section Next

variable {value missing low high : Nat}

theorem step_last {byte : Nat} (hlow : low ≤ byte) (hhigh : byte ≤ high) :
    step (some ⟨value, 1, low, high⟩) byte =
      ([some (Char.ofNat (value * 0x40 + (byte - 0x80)))], none) := by
  simp [step, hlow, hhigh]

theorem step_more {byte : Nat} (hlow : low ≤ byte) (hhigh : byte ≤ high) :
    step (some ⟨value, missing + 2, low, high⟩) byte =
      ([], some ⟨value * 0x40 + (byte - 0x80), missing + 1, 0x80, 0xBF⟩) := by
  simp [step, hlow, hhigh]

end Next

theorem decodeFrom_ofNat_cons {byte : Nat} (h : byte < 256) (unfinished? : Option Unfinished)
    (rest : Bytes) :
    decodeFrom unfinished? (UInt8.ofNat byte :: rest) =
      (step unfinished? byte).1 ++ decodeFrom (step unfinished? byte).2 rest := by
  rw [decodeFrom, UInt8.toNat_ofNat_of_lt' h]

theorem decodeFrom_encodeChar (c : Char) (rest : Bytes) :
    decodeFrom none (String.utf8EncodeChar c ++ rest) = some c :: decodeFrom none rest := by
  have hvalid : c.val.toNat < 0xD800 ∨ 0xDFFF < c.val.toNat ∧ c.val.toNat < 0x110000 := c.valid
  have hc : Char.ofNat c.val.toNat = c := Char.ofNat_toNat c
  -- One case for each length. The value of the bytes so far, six bits more with each, ends as the
  -- code point.
  fun_cases String.utf8EncodeChar c with
  | case1 v hone =>
    rw [List.cons_append, decodeFrom_ofNat_cons (by omega), step, start_of_lt (by omega), hc]
    rfl
  | case2 v hone htwo =>
    have hvalue : (v / 64 % 32 + 192 - 0xC0) * 0x40 + (v % 64 + 128 - 0x80) = v := by omega
    simp only [List.cons_append, List.nil_append]
    rw [decodeFrom_ofNat_cons (by omega), step, start_two (by omega) (by omega),
      decodeFrom_ofNat_cons (by omega), step_last (by omega) (by omega), hvalue, hc]
    rfl
  | case3 v hone htwo hthree =>
    have hlow : (if v / 4096 % 16 + 224 = 0xE0 then 0xA0 else 0x80) ≤ v / 64 % 64 + 128 := by
      split <;> omega
    have hhigh : v / 64 % 64 + 128 ≤ if v / 4096 % 16 + 224 = 0xED then 0x9F else 0xBF := by
      split <;> omega
    have hvalue : ((v / 4096 % 16 + 224 - 0xE0) * 0x40 + (v / 64 % 64 + 128 - 0x80)) * 0x40 +
        (v % 64 + 128 - 0x80) = v := by omega
    simp only [List.cons_append, List.nil_append]
    rw [decodeFrom_ofNat_cons (by omega), step, start_three (by omega) (by omega),
      decodeFrom_ofNat_cons (by omega), step_more hlow hhigh, decodeFrom_ofNat_cons (by omega),
      step_last (by omega) (by omega), hvalue, hc]
    rfl
  | case4 v hone htwo hthree =>
    have hlow : (if v / 262144 % 8 + 240 = 0xF0 then 0x90 else 0x80) ≤ v / 4096 % 64 + 128 := by
      split <;> omega
    have hhigh : v / 4096 % 64 + 128 ≤ if v / 262144 % 8 + 240 = 0xF4 then 0x8F else 0xBF := by
      split <;> omega
    have hvalue : (((v / 262144 % 8 + 240 - 0xF0) * 0x40 + (v / 4096 % 64 + 128 - 0x80)) * 0x40 +
        (v / 64 % 64 + 128 - 0x80)) * 0x40 + (v % 64 + 128 - 0x80) = v := by omega
    simp only [List.cons_append, List.nil_append]
    rw [decodeFrom_ofNat_cons (by omega), step, start_four (by omega) (by omega),
      decodeFrom_ofNat_cons (by omega), step_more hlow hhigh, decodeFrom_ofNat_cons (by omega),
      step_more (by omega) (by omega), decodeFrom_ofNat_cons (by omega),
      step_last (by omega) (by omega), hvalue, hc]
    rfl

theorem decode_encode (text : Text) : decode (encode text) = RawText.ofText text := by
  rw [decode]
  induction text with
  | nil => rfl
  | cons c text ih =>
    rw [encode, List.flatMap_cons, decodeFrom_encodeChar]
    exact congrArg (some c :: ·) ih

end TagFilter.Utf8
