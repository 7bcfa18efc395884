import TagFilter.Text.Basic

namespace TagFilter

abbrev Bytes := List UInt8

/-- Decoded bytes, which need not be UTF-8. `none` stands for one ill-formed piece. -/
abbrev RawText := List (Option Char)

namespace RawText

def ofText (text : Text) : RawText := text.map some

def text? : RawText → Option Text
  | [] => some []
  | none :: _ => none
  | some c :: rest => (text? rest).map (c :: ·)

def lossy (raw : RawText) : Text := raw.map (·.getD '\uFFFD')

@[simp] theorem text?_ofText (text : Text) : text? (ofText text) = some text := by
  induction text with
  | nil => rfl
  | cons c rest ih => simp_all [ofText, text?]

theorem text?_eq_some_iff {raw : RawText} {text : Text} :
    text? raw = some text ↔ raw = ofText text := by
  constructor
  · intro h
    induction raw generalizing text with
    | nil =>
      obtain rfl := Option.some.inj h
      rfl
    | cons c raw ih =>
      cases c with
      | none => cases h
      | some c =>
        obtain ⟨rest, hrest, htext⟩ := Option.map_eq_some_iff.1 h
        rw [ih hrest, ← htext]
        rfl
  · intro h
    rw [h, text?_ofText]

end RawText

namespace Utf8

def encode (text : Text) : Bytes := text.flatMap String.utf8EncodeChar

/-- A character of which some bytes are still to come. The next of them must lie between `low` and
`high`. -/
structure Unfinished where
  value : Nat
  missing : Nat
  low : Nat
  high : Nat

/-- What a byte begins, and what it completes. The bounds on the second byte leave out overlong
forms, surrogates and what lies beyond U+10FFFF. -/
def start (byte : Nat) : RawText × Option Unfinished :=
  if byte < 0x80 then ([some (Char.ofNat byte)], none)
  else if byte < 0xC2 then ([none], none)
  else if byte < 0xE0 then ([], some ⟨byte - 0xC0, 1, 0x80, 0xBF⟩)
  else if byte = 0xE0 then ([], some ⟨0, 2, 0xA0, 0xBF⟩)
  else if byte = 0xED then ([], some ⟨0xD, 2, 0x80, 0x9F⟩)
  else if byte < 0xF0 then ([], some ⟨byte - 0xE0, 2, 0x80, 0xBF⟩)
  else if byte = 0xF0 then ([], some ⟨0, 3, 0x90, 0xBF⟩)
  else if byte < 0xF4 then ([], some ⟨byte - 0xF0, 3, 0x80, 0xBF⟩)
  else if byte = 0xF4 then ([], some ⟨4, 3, 0x80, 0x8F⟩)
  else ([none], none)

/-- One byte more. A byte that does not go on with the unfinished character ends it as one
ill-formed piece and begins anew. -/
def step (unfinished? : Option Unfinished) (byte : Nat) : RawText × Option Unfinished :=
  match unfinished? with
  | none => start byte
  | some char =>
    if char.low ≤ byte ∧ byte ≤ char.high then
      let value := char.value * 0x40 + (byte - 0x80)
      if char.missing = 1 then ([some (Char.ofNat value)], none)
      else ([], some ⟨value, char.missing - 1, 0x80, 0xBF⟩)
    else (none :: (start byte).1, (start byte).2)

def decodeFrom (unfinished? : Option Unfinished) : Bytes → RawText
  | [] => if unfinished?.isSome then [none] else []
  | byte :: rest =>
    let (done, next?) := step unfinished? byte.toNat
    done ++ decodeFrom next? rest

def decode (bytes : Bytes) : RawText := decodeFrom none bytes

end Utf8

end TagFilter
