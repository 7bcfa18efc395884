import TagFilter.Text.Utf8

/-!
A control function is an order to the terminal: the escape character and the characters that belong
to it. What a terminal shows of a text is the text without its control functions and without lone
control characters.
-/

namespace TagFilter.Text

def isLayout (c : Char) : Bool := c = '\t' || c = '\n' || c = '\x0c' || c = '\r'

def isShown (c : Char) : Bool := isLayout c || (0x20 ≤ c.toNat && c.toNat ≠ 0x7F)

def isIntermediate (c : Char) : Bool := 0x20 ≤ c.toNat && c.toNat ≤ 0x2F

def isParameter (c : Char) : Bool := 0x30 ≤ c.toNat && c.toNat ≤ 0x3F

def isFinal (c : Char) : Bool := 0x40 ≤ c.toNat && c.toNat ≤ 0x7E

inductive SequenceStage
  | start
  | parameters
  | intermediates
  | malformed

/-- The stage after one more intermediate or parameter. A private parameter, one of `<=>?`, can
only be the first. -/
def SequenceStage.next (stage : SequenceStage) (c : Char) : SequenceStage :=
  match stage with
  | .start => if isIntermediate c then .intermediates else .parameters
  | .parameters =>
    if isIntermediate c then .intermediates
    else if c.toNat ≤ 0x3B then .parameters
    else .malformed
  | .intermediates => if isIntermediate c then .intermediates else .malformed
  | .malformed => .malformed

inductive ControlFunction
  | escape
  | escapeIntermediate
  | sequence (stage : SequenceStage)
  | deviceString (stage : SequenceStage)
  | content
  | command

namespace ControlFunction

def introducedBy? (c : Char) : Option ControlFunction :=
  match c with
  | '[' => some (.sequence .start)
  | 'P' => some (.deviceString .start)
  | ']' => some .command
  | 'X' | '^' | '_' => some .content
  | _ => none

/-- The terminator of a string is a single byte, and ends it inside a character too. -/
def endsContent (c : Char) : Bool := (Utf8.encode [c]).contains 0x9C

/-- The function after one more character, `none` when that ends it. Characters that cannot belong
to it are passed over. -/
def next? (function : ControlFunction) (c : Char) : Option ControlFunction :=
  match function with
  | .escape =>
    if isIntermediate c then some .escapeIntermediate
    else if isParameter c || isFinal c then introducedBy? c
    else some .escape
  | .escapeIntermediate =>
    if isParameter c || isFinal c then none else some .escapeIntermediate
  | .sequence stage =>
    if isFinal c then none
    else if isIntermediate c || isParameter c then some (.sequence (stage.next c))
    else some (.sequence stage)
  | .deviceString stage =>
    if isFinal c then some .content
    else if isIntermediate c || isParameter c then
      match stage.next c with
      | .malformed => some .content
      | stage => some (.deviceString stage)
    else some (.deviceString stage)
  | .content => if endsContent c then none else some .content
  | .command => if c = '\x07' then none else some .command

def letsThrough (function : ControlFunction) (c : Char) : Bool :=
  match function with
  | .escape | .escapeIntermediate | .sequence _ => isLayout c
  | .deviceString _ | .content | .command => false

end ControlFunction

inductive ControlState
  | text
  | within (function : ControlFunction)
  | interlude (function : ControlFunction)

namespace ControlState

/-- An escape character begins a control function anywhere. An interlude lasts up to the next
control character, and then its control function goes on. A character beyond ASCII in it ends the
control function. -/
def next (state : ControlState) (c : Char) : ControlState :=
  if c = '\x1b' then .within .escape
  else if c = '\x18' || c = '\x1a' then .text
  else
    match state with
    | .text => .text
    | .within function =>
      if function.letsThrough c then .interlude function
      else
        match function.next? c with
        | none => .text
        | some function => .within function
    | .interlude function =>
      if !isShown c then .within function
      else if c.toNat < 0x80 then .interlude function
      else .text

def shows (state : ControlState) (c : Char) : Bool :=
  match state with
  | .text | .interlude _ => isShown c
  | .within function => function.letsThrough c

theorem isShown_of_shows {state : ControlState} {c : Char} (h : state.shows c = true) :
    isShown c = true := by
  cases state with
  | text => exact h
  | within function => cases function <;> simp_all [shows, ControlFunction.letsThrough, isShown]
  | interlude => exact h

theorem next_text_of_isShown {c : Char} (h : isShown c = true) : next .text c = .text := by
  have escape : c ≠ '\x1b' := by rintro rfl; exact absurd h (by decide)
  simp [next, escape]

end ControlState

def visibleFrom (state : ControlState) : Text → Text
  | [] => []
  | c :: rest =>
    if state.shows c then c :: visibleFrom (state.next c) rest
    else visibleFrom (state.next c) rest

def visible (text : Text) : Text := visibleFrom .text text

theorem isShown_of_mem_visibleFrom {state : ControlState} {text : Text} {c : Char}
    (h : c ∈ visibleFrom state text) : isShown c = true := by
  induction text generalizing state with
  | nil => simp [visibleFrom] at h
  | cons d rest ih =>
    unfold visibleFrom at h
    split at h
    next shown =>
      rcases List.mem_cons.1 h with rfl | h
      · exact ControlState.isShown_of_shows shown
      · exact ih h
    next => exact ih h

theorem isShown_of_mem_visible {text : Text} {c : Char} (h : c ∈ visible text) :
    isShown c = true :=
  isShown_of_mem_visibleFrom h

theorem visible_of_forall_isShown {text : Text} (h : ∀ c ∈ text, isShown c = true) :
    visible text = text := by
  induction text with
  | nil => rfl
  | cons c rest ih =>
    have shown := h c (by simp)
    have tail := ih fun d hd => h d (by simp [hd])
    simp only [visible] at tail
    simp [visible, visibleFrom, ControlState.shows, shown, ControlState.next_text_of_isShown, tail]

end TagFilter.Text
