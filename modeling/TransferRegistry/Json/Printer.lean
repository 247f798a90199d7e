import TransferRegistry.Json.Basic
import TransferRegistry.Text.Hex

/-!
# Printing JSON

`Json.compact` writes a value without blanks. `Json.pretty` gives each element and member a line of its own, two
blanks further in, with one blank after a colon; what is empty stays `[]` or `{}`. Strings escape quotes,
backslashes and what is below U+0020, and nothing else.
-/

namespace TransferRegistry.Json

open Text (hexDigit)

/-- A character within a string. -/
def escape (c : Char) : List Char :=
  match c with
  | '"' => ['\\', '"']
  | '\\' => ['\\', '\\']
  | '\x08' => ['\\', 'b']
  | '\x0c' => ['\\', 'f']
  | '\n' => ['\\', 'n']
  | '\r' => ['\\', 'r']
  | '\t' => ['\\', 't']
  | _ =>
    if c.toNat < 0x20 then ['\\', 'u', '0', '0', hexDigit (c.toNat / 16), hexDigit (c.toNat % 16)]
    else [c]

/-- A string; one without text is written as a half of a surrogate pair. -/
def stringChars (s : Text) : List Char :=
  match s with
  | some s => '"' :: s.toList.flatMap escape ++ ['"']
  | none => "\"\\ud800\"".toList

def natChars (n : Nat) : List Char := Nat.toDigits 10 n

/-- A number; an exponent is written with its sign. -/
def numberChars (n : Number) : List Char :=
  (if n.negative then ['-'] else []) ++ natChars n.whole
    ++ (match n.fraction with
      | none => []
      | some ds => '.' :: ds.map fun (d : Digit) => Nat.digitChar d.val)
    ++ (match n.exponent with
      | none => []
      | some e => 'e' :: (if e < 0 then '-' else '+') :: natChars e.natAbs)

/-- The parts with `separator` between them. -/
def joined (separator : List Char) : List (List Char) → List Char
  | [] => []
  | [part] => part
  | part :: rest => part ++ separator ++ joined separator rest

/-- What stands between the parts of a value: after an opening bracket and each comma, before a closing bracket, and
after a colon. -/
structure Layout where
  line : Nat → List Char
  colon : List Char

namespace Layout

def compact : Layout := ⟨fun _ => [], [':']⟩

/-- A line for each part, two blanks further in for each level. -/
def pretty : Layout := ⟨fun depth => '\n' :: List.replicate (2 * depth) ' ', [':', ' ']⟩

/-- Parts between brackets at a depth. -/
def bracketed (layout : Layout) (depth : Nat) (opening closing : Char) (parts : List (List Char)) : List Char :=
  if parts.isEmpty then [opening, closing]
  else opening :: layout.line (depth + 1) ++ joined (',' :: layout.line (depth + 1)) parts
    ++ layout.line depth ++ [closing]

end Layout

mutual

/-- The characters of a value at a depth. -/
def chars (layout : Layout) (depth : Nat) : Json → List Char
  | .null => "null".toList
  | .bool true => "true".toList
  | .bool false => "false".toList
  | .num n => numberChars n
  | .str s => stringChars s
  | .arr es => layout.bracketed depth '[' ']' (elementChars layout (depth + 1) es)
  | .obj ms => layout.bracketed depth '\x7b' '\x7d' (memberChars layout (depth + 1) ms)

def elementChars (layout : Layout) (depth : Nat) : List Json → List (List Char)
  | [] => []
  | e :: es => chars layout depth e :: elementChars layout depth es

def memberChars (layout : Layout) (depth : Nat) : List (Text × Json) → List (List Char)
  | [] => []
  | (key, v) :: ms =>
    (stringChars key ++ layout.colon ++ chars layout depth v) :: memberChars layout depth ms

end

/-- The value without blanks. -/
def compact (v : Json) : String := String.ofList (chars .compact 0 v)

/-- The value with a line for each part. -/
def pretty (v : Json) : String := String.ofList (chars .pretty 0 v)

end TransferRegistry.Json
