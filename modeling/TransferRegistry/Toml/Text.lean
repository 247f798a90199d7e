import TransferRegistry.Text.Hex

/-!
# Strings in TOML

* `Toml.basicChars` reads a string in double quotes, with escapes; `Toml.literalChars` one in single quotes, without.
* `Toml.blockChars` and `Toml.literalBlockChars` read strings in three quotes, which may span lines.

Each takes what follows the opening quotes and gives the characters of the string with what follows its closing
quotes.
-/

namespace TransferRegistry.Toml

open Text (hexValue?)

/-- A character that may stand in a string or comment as itself. -/
def isPlain (c : Char) : Bool := c = '\t' || (0x20 ≤ c.toNat && c.toNat ≠ 0x7F)

def isSpace (c : Char) : Bool := c = ' ' || c = '\t'

/-- The number that digits make in base 16. -/
def hexNumber? (digits : List Char) : Option Nat :=
  digits.foldlM (fun n c => (hexValue? c).map fun d => 16 * n + d) 0

/-- The character with a number in base 16. -/
def scalar? (digits : List Char) : Option Char := do
  let n ← hexNumber? digits
  if n.isValidChar then return Char.ofNat n else none

/-- The character that a short escape stands for. -/
def shortEscape? : Char → Option Char
  | '"' => some '"'
  | '\\' => some '\\'
  | 'b' => some '\x08'
  | 'e' => some '\x1b'
  | 'f' => some '\x0c'
  | 'n' => some '\n'
  | 'r' => some '\r'
  | 't' => some '\t'
  | _ => none

/-- A character in front of what a reader gives, if there is one. -/
def push (c : Option Char) (r : Option (List Char × List Char)) : Option (List Char × List Char) := do
  let c ← c
  let (cs, rest) ← r
  return (c :: cs, rest)

/-- A string in double quotes. -/
def basicChars : List Char → Option (List Char × List Char)
  | '"' :: rest => some ([], rest)
  | '\\' :: 'x' :: a :: b :: rest => push (scalar? [a, b]) (basicChars rest)
  | '\\' :: 'u' :: a :: b :: c :: d :: rest => push (scalar? [a, b, c, d]) (basicChars rest)
  | '\\' :: 'U' :: a :: b :: c :: d :: e :: f :: g :: h :: rest =>
    push (scalar? [a, b, c, d, e, f, g, h]) (basicChars rest)
  | '\\' :: c :: rest => push (shortEscape? c) (basicChars rest)
  | c :: rest => if isPlain c then push (some c) (basicChars rest) else none
  | [] => none

/-- A string in single quotes. -/
def literalChars : List Char → Option (List Char × List Char)
  | '\'' :: rest => some ([], rest)
  | c :: rest => if isPlain c then push (some c) (literalChars rest) else none
  | [] => none

/-- What stands after opening quotes of three, without a line end there. -/
def dropLineEnd : List Char → List Char
  | '\n' :: rest => rest
  | '\r' :: '\n' :: rest => rest
  | s => s

/-- How a block goes on: as text, or after a backslash at the end of a line, where blanks and line ends are left out
up to the next text. -/
inductive BlockMode where
  | text
  | joining (sawLineEnd : Bool)
deriving DecidableEq

/-- A string in three double quotes. Up to two quotes may stand before the closing ones. -/
def blockChars (mode : BlockMode) : List Char → Option (List Char × List Char)
  | [] => none
  | c :: rest =>
    match mode, c, rest with
    | .joining _, '\n', rest => blockChars (.joining true) rest
    | .joining _, '\r', '\n' :: rest => blockChars (.joining true) rest
    | .joining sawLineEnd, ' ', rest => blockChars (.joining sawLineEnd) rest
    | .joining sawLineEnd, '\t', rest => blockChars (.joining sawLineEnd) rest
    | .joining false, _, _ => none
    | _, '"', '"' :: '"' :: '"' :: '"' :: rest => some (['"', '"'], rest)
    | _, '"', '"' :: '"' :: '"' :: rest => some (['"'], rest)
    | _, '"', '"' :: '"' :: rest => some ([], rest)
    | _, '\\', ' ' :: rest => blockChars (.joining false) rest
    | _, '\\', '\t' :: rest => blockChars (.joining false) rest
    | _, '\\', '\n' :: rest => blockChars (.joining true) rest
    | _, '\\', '\r' :: '\n' :: rest => blockChars (.joining true) rest
    | _, '\\', 'x' :: a :: b :: rest => push (scalar? [a, b]) (blockChars .text rest)
    | _, '\\', 'u' :: a :: b :: c :: d :: rest => push (scalar? [a, b, c, d]) (blockChars .text rest)
    | _, '\\', 'U' :: a :: b :: c :: d :: e :: f :: g :: h :: rest =>
      push (scalar? [a, b, c, d, e, f, g, h]) (blockChars .text rest)
    | _, '\\', c :: rest => push (shortEscape? c) (blockChars .text rest)
    | _, '\n', rest => push (some '\n') (blockChars .text rest)
    | _, '\r', '\n' :: rest => push (some '\n') (blockChars .text rest)
    | _, c, rest => if isPlain c then push (some c) (blockChars .text rest) else none

/-- A string in three single quotes. Up to two quotes may stand before the closing ones. -/
def literalBlockChars : List Char → Option (List Char × List Char)
  | '\'' :: '\'' :: '\'' :: '\'' :: '\'' :: rest => some (['\'', '\''], rest)
  | '\'' :: '\'' :: '\'' :: '\'' :: rest => some (['\''], rest)
  | '\'' :: '\'' :: '\'' :: rest => some ([], rest)
  | '\n' :: rest => push (some '\n') (literalBlockChars rest)
  | '\r' :: '\n' :: rest => push (some '\n') (literalBlockChars rest)
  | c :: rest => if isPlain c then push (some c) (literalBlockChars rest) else none
  | [] => none

end TransferRegistry.Toml
