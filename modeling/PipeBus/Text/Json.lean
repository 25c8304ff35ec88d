import PipeBus.Text.Digits

/-!
JSON text, built from the inside out: every function takes and gives text.
-/
namespace PipeBus.Text.Json

/-- A character as it stands in a JSON string. -/
def stringChar (c : Char) : List Char :=
  match c with
  | '"' => ['\\', '"']
  | '\\' => ['\\', '\\']
  | '\x08' => ['\\', 'b']
  | '\x0c' => ['\\', 'f']
  | '\n' => ['\\', 'n']
  | '\r' => ['\\', 'r']
  | '\t' => ['\\', 't']
  | _ => if c < ' ' then ['\\', 'u'] ++ (hex 4 c.toNat).toList else [c]

def string (text : String) : String :=
  String.ofList (['"'] ++ text.toList.flatMap stringChar ++ ['"'])

/-- A JSON object; the values of the fields are JSON already. -/
def object (fields : List (String × String)) : String :=
  "\x7b" ++ String.intercalate "," (fields.map fun (key, value) => string key ++ ":" ++ value)
    ++ "\x7d"

end PipeBus.Text.Json
