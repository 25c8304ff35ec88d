import PipeBus.Simulation.Basic

/-!
Settings of a trial as text: a JSON object whose members replace single settings,
or an array of their values in the order of `Setting.all`. A value is a whole
number of at most 64 bits, or null for a setting that stays as it is.

The text is cut into tokens first; the grammar is then a pattern on the tokens.
-/
namespace PipeBus.Simulation

/-- A setting that can be replaced. Times are in milliseconds. -/
inductive Setting where
  | sendTimeout
  | pollInterval
  | initialBackoff
  | backoffLimit
  | rxDepth
  | maxInputs
  | maxOutputs
  | inboxDepth
  | chunkSize
  | timeout
  deriving DecidableEq

namespace Setting

/-- All settings, in the order of the array form. -/
def all : List Setting :=
  [.sendTimeout, .pollInterval, .initialBackoff, .backoffLimit, .rxDepth, .maxInputs, .maxOutputs,
    .inboxDepth, .chunkSize, .timeout]

def key : Setting → String
  | .sendTimeout => "send_timeout_ms"
  | .pollInterval => "poll_interval_ms"
  | .initialBackoff => "initial_backoff_ms"
  | .backoffLimit => "backoff_limit_ms"
  | .rxDepth => "rx_queue_depth"
  | .maxInputs => "max_input_pipes"
  | .maxOutputs => "max_output_pipes"
  | .inboxDepth => "inbox_depth"
  | .chunkSize => "chunk_size"
  | .timeout => "timeout_ms"

def ofKey? (key : String) : Option Setting := all.find? fun setting => setting.key == key

def apply (setting : Setting) (value : Nat) (settings : Settings) : Settings :=
  let node := settings.node
  let retry := node.retry
  let time := Duration.ofMillis value
  match setting with
  | .sendTimeout => { settings with node := { node with sendTimeout := time } }
  | .pollInterval => { settings with node := { node with pollInterval := time } }
  | .initialBackoff =>
    { settings with node := { node with retry := { retry with initialBackoff := time } } }
  | .backoffLimit =>
    { settings with node := { node with retry := { retry with backoffLimit := time } } }
  | .rxDepth => { settings with node := { node with rxDepth := value } }
  | .maxInputs => { settings with node := { node with maxInputs := value } }
  | .maxOutputs => { settings with node := { node with maxOutputs := value } }
  | .inboxDepth => { settings with inboxDepth := value }
  | .chunkSize => { settings with chunkSize := value }
  | .timeout => { settings with timeout := time }

end Setting

/-- A token of a settings text. -/
inductive Token where
  | openObject
  | closeObject
  | openArray
  | closeArray
  | colon
  | comma
  | text (content : String)
  /-- A number, or null. -/
  | value (number : Option Nat)
  deriving DecidableEq

namespace Token

def isBlank (c : Char) : Bool := c == ' ' || c == '\t' || c == '\n' || c == '\r'

def ofMark? (c : Char) : Option Token :=
  if c = '\x7b' then some .openObject
  else if c = '\x7d' then some .closeObject
  else if c = '[' then some .openArray
  else if c = ']' then some .closeArray
  else if c = ':' then some .colon
  else if c = ',' then some .comma
  else none

/-- Digits of a whole number: no zero in front of others. -/
def isWhole (digits : List Char) : Bool :=
  !digits.isEmpty && digits.all Char.isDigit && (digits.head? != some '0' || digits.length == 1)

def decimal (digits : List Char) : Nat :=
  digits.foldl (fun value c => 10 * value + (c.toNat - 48)) 0

/-- The token of an unquoted run of characters. -/
def ofBare? (run : List Char) : Option Token :=
  if run = ['n', 'u', 'l', 'l'] then some (.value none)
  else if isWhole run && decimal run < UInt64.size then some (.value (some (decimal run)))
  else none

def ofEscape? (c : Char) : Option Char :=
  match c with
  | '"' => some '"'
  | '\\' => some '\\'
  | '/' => some '/'
  | 'b' => some '\x08'
  | 'f' => some '\x0c'
  | 'n' => some '\n'
  | 'r' => some '\r'
  | 't' => some '\t'
  | _ => none

/-- Value of a hexadecimal digit in either case. -/
def hexValue? (c : Char) : Option Nat :=
  if '0' ≤ c ∧ c ≤ '9' then some (c.toNat - 48)
  else if 'a' ≤ c ∧ c ≤ 'f' then some (c.toNat - 87)
  else if 'A' ≤ c ∧ c ≤ 'F' then some (c.toNat - 55)
  else none

/-- Where in a token the text has been read up to. Characters read are kept latest first. -/
inductive Place where
  | between
  | bare (read : List Char)
  | quoted (read : List Char)
  | escaped (read : List Char)
  /-- In a character code, of which so many digits are left. -/
  | code (read : List Char) (sum left : Nat)

/-- Cut a text into tokens; nothing when it holds what is none. -/
def scan : Place → List Char → Option (List Token)
  | .between, [] => some []
  | .bare read, [] => (ofBare? read.reverse).map fun token => [token]
  | _, [] => none
  | .between, c :: rest =>
    if isBlank c then scan .between rest
    else if c = '"' then scan (.quoted []) rest
    else
      match ofMark? c with
      | some mark => (scan .between rest).map (mark :: ·)
      | none => scan (.bare [c]) rest
  | .bare read, c :: rest =>
    if isBlank c then
      (ofBare? read.reverse).bind fun token => (scan .between rest).map (token :: ·)
    else if c = '"' then none
    else
      match ofMark? c with
      | some mark =>
        (ofBare? read.reverse).bind fun token =>
          (scan .between rest).map fun tokens => token :: mark :: tokens
      | none => scan (.bare (c :: read)) rest
  | .quoted read, c :: rest =>
    if c = '"' then (scan .between rest).map (.text (String.ofList read.reverse) :: ·)
    else if c = '\\' then scan (.escaped read) rest
    else if c < ' ' then none
    else scan (.quoted (c :: read)) rest
  | .escaped read, c :: rest =>
    if c = 'u' then scan (.code read 0 4) rest
    else (ofEscape? c).bind fun meant => scan (.quoted (meant :: read)) rest
  | .code read sum left, c :: rest =>
    (hexValue? c).bind fun digit =>
      if left ≤ 1 then scan (.quoted (Char.ofNat (16 * sum + digit) :: read)) rest
      else scan (.code read (16 * sum + digit) (left - 1)) rest

def ofText? (text : String) : Option (List Token) := scan .between text.toList

end Token

namespace Settings

/-- The members of an object after its opening brace. -/
def members : List Token → Option (List (String × Option Nat))
  | [.text key, .colon, .value number, .closeObject] => some [(key, number)]
  | .text key :: .colon :: .value number :: .comma :: rest =>
    (members rest).map ((key, number) :: ·)
  | _ => none

/-- The elements of an array after its opening bracket. -/
def elements : List Token → Option (List (Option Nat))
  | [.value number, .closeArray] => some [number]
  | .value number :: .comma :: rest => (elements rest).map (number :: ·)
  | _ => none

/-- The settings that a text replaces; in an object each key may come once. -/
def replaced? : List Token → Option (List (Setting × Option Nat))
  | [.openObject, .closeObject] | [.openArray, .closeArray] => some []
  | .openObject :: rest =>
    (members rest).bind fun found =>
      if (found.map Prod.fst).Nodup then
        found.mapM fun (key, number) => (Setting.ofKey? key).map fun setting => (setting, number)
      else none
  | .openArray :: rest =>
    (elements rest).bind fun found =>
      if found.length ≤ Setting.all.length then some (Setting.all.zip found) else none
  | _ => none

/-- Read settings; nothing when the text is not of the form. -/
def parse? (text : String) : Option Settings :=
  ((Token.ofText? text).bind replaced?).map fun replacements =>
    replacements.foldl (fun settings (setting, number) =>
      match number with
      | none => settings
      | some value => setting.apply value settings) {}

end Settings

end PipeBus.Simulation
