/-!
# JSON text

Values as they are written into reports: two spaces for each level, members in the order given, and
only those characters escaped that have to be.
-/
set_option autoImplicit false

namespace TextQuery

inductive Json
  | bool (value : Bool)
  | number (value : Nat)
  | string (value : String)
  | array (items : List Json)
  | object (members : List (String × Json))

namespace Json

/-- A digit of a hexadecimal number, in lower case. -/
def hexDigit (n : Nat) : Char := Nat.digitChar n

/-- A character inside quotes. Controls without a short form are written by their code. -/
def escapeChar (c : Char) : List Char :=
  match c with
  | '"' => ['\\', '"']
  | '\\' => ['\\', '\\']
  | '\x08' => ['\\', 'b']
  | '\x0c' => ['\\', 'f']
  | '\n' => ['\\', 'n']
  | '\r' => ['\\', 'r']
  | '\t' => ['\\', 't']
  | c =>
    if c.toNat < 0x20 then
      ['\\', 'u', '0', '0', hexDigit (c.toNat / 16), hexDigit (c.toNat % 16)]
    else [c]

def quote (text : String) : String :=
  String.ofList ('"' :: text.toList.flatMap escapeChar ++ ['"'])

def indent (level : Nat) : String :=
  String.ofList (List.replicate (2 * level) ' ')

mutual

/-- The text of a value that stands at the given level. -/
def pretty (level : Nat) : Json → String
  | bool value => if value then "true" else "false"
  | number value => toString value
  | string value => quote value
  | array [] => "[]"
  | array (item :: rest) =>
    "[\n" ++ prettyItems (level + 1) (item :: rest) ++ "\n" ++ indent level ++ "]"
  | object [] => "\x7b\x7d"
  | object (member :: rest) =>
    "\x7b\n" ++ prettyMembers (level + 1) (member :: rest) ++ "\n" ++ indent level ++ "\x7d"

def prettyItems (level : Nat) : List Json → String
  | [] => ""
  | [item] => indent level ++ pretty level item
  | item :: rest => indent level ++ pretty level item ++ ",\n" ++ prettyItems level rest

def prettyMembers (level : Nat) : List (String × Json) → String
  | [] => ""
  | [(name, value)] => indent level ++ quote name ++ ": " ++ pretty level value
  | (name, value) :: rest =>
    indent level ++ quote name ++ ": " ++ pretty level value ++ ",\n" ++ prettyMembers level rest

end

/-- The text of a value on its own. -/
def render (value : Json) : String := pretty 0 value

end Json

end TextQuery
