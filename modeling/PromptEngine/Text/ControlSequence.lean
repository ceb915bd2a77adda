/-
  PromptEngine.Text.ControlSequence — control characters and control sequences of terminals, and
  what is left of a text without them.

  A text is read from left to right, and a `Mode` says what has begun and not yet ended.
-/

namespace PromptEngine.ControlSequence

/-! ## §1. Characters. -/

/-- White space among the control characters: it is no command to the terminal. -/
def isLayout (c : Char) : Bool :=
  c == '\t' || c == '\n' || c == '\x0c' || c == '\r'

/-- Whether a character is a control character of ASCII. -/
def isControl (c : Char) : Bool :=
  c < ' ' || c == '\x7f'

/-- Whether a character stands for itself in a text. -/
def isPlain (c : Char) : Bool :=
  !isControl c || isLayout c

/-- Whether a character lies in a closed range. -/
def isBetween (first last c : Char) : Bool :=
  first ≤ c && c ≤ last

/-- Whether the UTF-8 form of a character holds the byte that ends a string of the terminal. -/
def holdsTerminator (c : Char) : Bool :=
  (String.utf8EncodeChar c).contains 0x9C

/-! ## §2. Modes. -/

/-- What has begun in front of a character. -/
inductive Mode where
  | text
  /-- The escape character has come. -/
  | escape
  /-- An escape sequence waits for its final character. -/
  | escapeIntermediate
  /-- A control sequence, which has parameters. -/
  | control
  /-- A command to the system, up to a bell. -/
  | command
  /-- A device string whose head has no characters yet. -/
  | device
  | deviceParameters
  | deviceIntermediate
  /-- A string that is not shown, up to its terminator. -/
  | string
  deriving DecidableEq, Repr

namespace Mode

/-- Whether a character is shown. -/
def shows : Mode → Char → Bool
  | .text, c => isPlain c
  | .escape, c | .escapeIntermediate, c | .control, c => isLayout c
  | _, _ => false

/-- The mode behind a character that follows the escape character. -/
def escaped (c : Char) : Mode :=
  if c == '[' then .control
  else if c == ']' then .command
  else if c == 'P' then .device
  else if c == 'X' || c == '^' || c == '_' then .string
  else if isBetween ' ' '/' c then .escapeIntermediate
  else if isLayout c || isBetween '0' '~' c then .text
  else .escape

/-- The mode behind a character of the head of a device string.  The head has parameters up to
`last`. -/
def deviceHead (mode : Mode) (last c : Char) : Mode :=
  if isBetween ' ' '/' c then .deviceIntermediate
  else if isBetween '0' last c then .deviceParameters
  else if isBetween '0' '~' c then .string
  else mode

/-- The mode behind a character that neither escapes nor cancels. -/
def continued (mode : Mode) (c : Char) : Mode :=
  match mode with
  | .text => .text
  | .escape => escaped c
  | .escapeIntermediate => if isLayout c || isBetween '0' '~' c then .text else mode
  | .control => if isLayout c || isBetween '@' '~' c then .text else mode
  | .command => if c == '\x07' then .text else mode
  | .device => deviceHead mode '?' c
  | .deviceParameters => deviceHead mode ';' c
  | .deviceIntermediate => if isBetween '0' '~' c then .string else mode
  | .string => if holdsTerminator c then .text else mode

/-- The mode behind a character.  The escape character begins a sequence wherever it stands, and
two characters cancel what has begun. -/
def next (mode : Mode) (c : Char) : Mode :=
  if c == '\x1b' then .escape
  else if c == '\x18' || c == '\x1a' then .text
  else mode.continued c

end Mode

/-! ## §3. Visible text. -/

/-- What is shown of a text that begins in a mode. -/
def visibleFrom : Mode → List Char → List Char
  | _, [] => []
  | mode, c :: rest =>
    if mode.shows c then c :: visibleFrom (mode.next c) rest else visibleFrom (mode.next c) rest

/-- What is shown of a text. -/
def visible (text : String) : String :=
  String.ofList (visibleFrom .text text.toList)

/-- The sequence that switches to bold letters. -/
def embolden : List Char :=
  ['\x1b', '[', '1', 'm']

/-- The sequence that switches to ordinary letters. -/
def reset : List Char :=
  ['\x1b', '[', '0', 'm']

/-- A text in bold letters. -/
def emphasised (text : String) : String :=
  String.ofList (embolden ++ text.toList ++ reset)

end PromptEngine.ControlSequence
