/-!
The arguments of the command line.

Options are written `--name value` or `--name=value`, and each may be given once.
What starts with a dash is never the value of an option, unless it is joined with
an equals sign. The options of `Level.everywhere` may stand before or after the
command word, where the one after it counts.
-/
namespace PipeBus.CommandLine

/-- How results are printed. -/
inductive Format where
  | json
  | table
  | pretty
  deriving DecidableEq

/-- Where the frames to be decoded come from. -/
inductive DecodeInput where
  | hex (text : String)
  | file (path : String)
  deriving DecidableEq

/-- A command with its options. -/
inductive Request where
  | decode (input : DecodeInput)
  | simulate (bytes : Nat) (dropEvery : Option Nat) (config : Option String)
  | version (extended : Bool)
  deriving DecidableEq

/-- A run that is asked for. -/
structure Invocation where
  format : Format := .json
  request : Request
  deriving DecidableEq

/-- What arguments come to. -/
inductive Arguments where
  | run (invocation : Invocation)
  | showVersion
  | showHelp
  | refused
  deriving DecidableEq

def Format.ofName? (name : String) : Option Format :=
  match name with
  | "json" => some .json
  | "table" => some .table
  | "pretty" => some .pretty
  | _ => none

/-- Numbers are below this. -/
def numberLimit : Nat := UInt64.size

/-- Read a number: digits, after a plus sign if one is there. -/
def number? (text : String) : Option Nat :=
  let digits := match text.toList with
    | '+' :: rest => rest
    | all => all
  let value := digits.foldl (fun value c => 10 * value + (c.toNat - 48)) 0
  if !digits.isEmpty && digits.all Char.isDigit && value < numberLimit then some value else none

/-- The options that are known at one place of the command line. -/
structure Level where
  /-- Options with a value, and which values they take. -/
  valued : List (String × (String → Bool))
  flags : List String := []
  takesWord : Bool := false
  takesVersion : Bool := false

namespace Level

/-- Options known everywhere: output format, and format and level of the log. -/
def everywhere : List (String × (String → Bool)) := [
  ("format", fun value => (Format.ofName? value).isSome),
  ("log-format", fun value => ["text", "json"].contains value),
  ("log-level", fun value => ["error", "warn", "info", "debug", "trace"].contains value)]

/-- Before the command word. -/
def top : Level where
  valued := everywhere
  takesWord := true
  takesVersion := true

def decode : Level where
  valued := everywhere ++ [("hex", fun _ => true), ("file", fun value => !value.isEmpty)]

def simulate : Level where
  valued := everywhere ++ [
    ("bytes", fun value => (number? value).isSome),
    ("drop-every", fun value => (number? value).isSome),
    ("config", fun value => !value.isEmpty)]

def version : Level where
  valued := everywhere
  flags := ["extended"]

end Level

/-- The options found so far. -/
structure Found where
  values : List (String × String) := []
  flags : List String := []

namespace Found

def value? (found : Found) (name : String) : Option String := found.values.lookup name

def has (found : Found) (flag : String) : Bool := found.flags.contains flag

/-- Take an option with its value, if it is known, takes the value and is new. -/
def addValue? (found : Found) (level : Level) (name value : String) : Option Found :=
  match level.valued.lookup name with
  | none => none
  | some accepts =>
    if accepts value && (found.value? name).isNone then
      some { found with values := found.values ++ [(name, value)] }
    else none

/-- Take a flag, if it is known and new. -/
def addFlag? (found : Found) (level : Level) (name : String) : Option Found :=
  if level.flags.contains name && !found.has name then
    some { found with flags := found.flags ++ [name] }
  else none

end Found

/-- What one argument looks like. -/
inductive Shape where
  /-- Two dashes: no options follow. -/
  | endOfOptions
  | long (name : String) (value : Option String)
  | short (letters : List Char)
  | word
  deriving DecidableEq

/-- The part before the first equals sign, and the part after it. -/
def splitValue (text : List Char) : String × Option String :=
  match text.dropWhile (· != '=') with
  | [] => (String.ofList text, none)
  | _ :: value => (String.ofList (text.takeWhile (· != '=')), some (String.ofList value))

/-- The shape of an argument. A single dash is a word. -/
def Shape.of (argument : String) : Shape :=
  match argument.toList with
  | ['-', '-'] => .endOfOptions
  | '-' :: '-' :: rest => .long (splitValue rest).1 (splitValue rest).2
  | ['-'] => .word
  | '-' :: letters => .short letters
  | _ => .word

/-- What stands at one level of the command line. -/
inductive Scan where
  | finished (found : Found)
  /-- A command word, and the arguments after it. -/
  | word (found : Found) (word : String) (rest : List String)
  | version
  | help
  | refused

/-- Read arguments up to the command word or the end. -/
def scan (level : Level) (found : Found) : List String → Scan
  | [] => .finished found
  | argument :: rest =>
    match Shape.of argument with
    | .endOfOptions => if rest.isEmpty then .finished found else .refused
    | .word => if level.takesWord then .word found argument rest else .refused
    | .short letters =>
      match letters with
      | 'h' :: _ => .help
      | 'V' :: _ => if level.takesVersion then .version else .refused
      | _ => .refused
    | .long "help" none => .help
    | .long "version" none => if level.takesVersion then .version else .refused
    | .long name (some value) =>
      match found.addValue? level name value with
      | some later => scan level later rest
      | none => .refused
    | .long name none =>
      match found.addFlag? level name with
      | some later => scan level later rest
      | none =>
        match rest with
        | [] => .refused
        | value :: others =>
          if Shape.of value = .word then
            match found.addValue? level name value with
            | some later => scan level later others
            | none => .refused
          else .refused

/-- The input of a decode command: exactly one of the two kinds. -/
def decodeInput? (found : Found) : Option DecodeInput :=
  match found.value? "hex", found.value? "file" with
  | some text, none => some (.hex text)
  | none, some path => some (.file path)
  | _, _ => none

/-- Bytes streamed in a trial that is not told how many. -/
def defaultBytes : Nat := 1024

def request? (word : String) (found : Found) : Option Request :=
  match word with
  | "decode" => (decodeInput? found).map Request.decode
  | "simulate" =>
    some (.simulate (((found.value? "bytes").bind number?).getD defaultBytes)
      ((found.value? "drop-every").bind number?) (found.value? "config"))
  | "version" => some (.version (found.has "extended"))
  | _ => none

def Level.after? (word : String) : Option Level :=
  match word with
  | "decode" => some decode
  | "simulate" => some simulate
  | "version" => some version
  | _ => none

def Arguments.ofCommand (outer : Found) (word : String) (rest : List String) : Arguments :=
  if word = "help" then
    match rest with
    | [] | ["help"] => .showHelp
    | [other] => if (Level.after? other).isSome then .showHelp else .refused
    | _ => .refused
  else
    match Level.after? word with
    | none => .refused
    | some level =>
      match scan level {} rest with
      | .help => .showHelp
      | .finished inner =>
        match request? word inner with
        | none => .refused
        | some request =>
          let name := (inner.value? "format") <|> (outer.value? "format")
          .run ⟨(name.bind Format.ofName?).getD .json, request⟩
      | _ => .refused

def Arguments.parse (arguments : List String) : Arguments :=
  match scan Level.top {} arguments with
  | .word found word rest => ofCommand found word rest
  | .version => .showVersion
  | .help => .showHelp
  | _ => .refused

end PipeBus.CommandLine
