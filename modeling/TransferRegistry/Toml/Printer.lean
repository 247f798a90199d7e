import TransferRegistry.Toml.Value
import TransferRegistry.Text.Hex

/-!
# Writing TOML

`Toml.quoted` writes a string between double quotes: quotes, backslashes and control characters are escaped, all else
stands as it is. `Toml.stringsText` writes strings in brackets, `Toml.assignment` a line with a key, and
`Toml.heading` the header of a table.
-/

namespace TransferRegistry.Toml

open Text (hexDigit)

/-- A character between double quotes. -/
def escape (c : Char) : List Char :=
  match c with
  | '"' => ['\\', '"']
  | '\\' => ['\\', '\\']
  | '\x08' => ['\\', 'b']
  | '\t' => ['\\', 't']
  | '\n' => ['\\', 'n']
  | '\x0c' => ['\\', 'f']
  | '\r' => ['\\', 'r']
  | _ =>
    if c.toNat < 0x20 || c.toNat = 0x7F then
      ['\\', 'u', '0', '0', hexDigit (c.toNat / 16), hexDigit (c.toNat % 16)]
    else [c]

/-- A string between double quotes. -/
def quoted (s : String) : List Char := '"' :: s.toList.flatMap escape ++ ['"']

def naturalText (n : Nat) : List Char := Nat.toDigits 10 n

/-- A truth value. -/
def booleanText (b : Bool) : List Char := if b then "true".toList else "false".toList

/-- The parts with a comma and a blank between them. -/
def separated : List (List Char) → List Char
  | [] => []
  | [part] => part
  | part :: rest => part ++ [',', ' '] ++ separated rest

def stringsText (ss : List String) : List Char := '[' :: separated (ss.map quoted) ++ [']']

def assignment (key : String) (text : List Char) : List Char := key.toList ++ [' ', '=', ' '] ++ text ++ ['\n']

/-- An empty line and the header of a table. -/
def heading (key : String) : List Char := ['\n', '['] ++ key.toList ++ [']', '\n']

end TransferRegistry.Toml
