import TransferRegistry.Toml.Scalar
import TransferRegistry.Toml.Table
import TransferRegistry.Toml.Text

/-!
# Reading TOML

* `Toml.key?` reads a key with the keys on the way to it, `Toml.value?` a value, `Toml.statement?` what stands on a
  line.
* `Toml.parse?` reads a document, TOML 1.1: its statements in turn, put together as `Toml.Table` says.

Each reader takes the characters that are left and gives back what it read with the rest; `fuel` bounds how many
values and lines are read, and a document holds fewer than it has characters. Values nest no deeper than
`Toml.greatestDepth`, and fewer keys than that are on the way to another.
-/

namespace TransferRegistry.Toml

/-- How deep values may nest; fewer keys than that may be on the way to another. -/
def greatestDepth : Nat := 80

/-! ## Blanks -/

/-- What follows spaces and tabs. -/
def skipSpaces (cs : List Char) : List Char := cs.dropWhile isSpace

def afterLineEnd? : List Char → Option (List Char)
  | '\n' :: rest => some rest
  | '\r' :: '\n' :: rest => some rest
  | _ => none

/-- What follows the characters of a comment. -/
def skipComment (cs : List Char) : List Char := cs.dropWhile isPlain

/-- What follows blanks, a comment if there is one, and the end of the line or of the document. -/
def finishLine? (cs : List Char) : Option (List Char) :=
  let rest := match skipSpaces cs with
    | '#' :: rest => skipComment rest
    | rest => rest
  if rest = [] then some [] else afterLineEnd? rest

/-- What follows blanks, line ends and comments; `none` in a comment or line end that is not allowed. -/
def skipLines? (fuel : Nat) (cs : List Char) : Option (List Char) :=
  match fuel with
  | 0 => none
  | fuel + 1 =>
    match skipSpaces cs with
    | '#' :: rest =>
      match skipComment rest with
      | [] => some []
      | rest => (afterLineEnd? rest).bind (skipLines? fuel)
    | '\n' :: rest => skipLines? fuel rest
    | '\r' :: rest => (afterLineEnd? ('\r' :: rest)).bind (skipLines? fuel)
    | rest => some rest

/-! ## Keys -/

/-- A character of a key without quotes. -/
def isBare (c : Char) : Bool := c.isAlphanum || c = '_' || c = '-'

def simpleKey? : List Char → Option (String × List Char)
  | '"' :: rest => (basicChars rest).map fun (cs, rest) => (String.ofList cs, rest)
  | '\'' :: rest => (literalChars rest).map fun (cs, rest) => (String.ofList cs, rest)
  | cs =>
    match cs.span isBare with
    | ([], _) => none
    | (bare, rest) => some (String.ofList bare, rest)

/-- Keys that points separate, the last one apart. -/
def dottedKey? (fuel : Nat) (cs : List Char) : Option ((List String × String) × List Char) :=
  match fuel with
  | 0 => none
  | fuel + 1 => do
    let (key, rest) ← simpleKey? (skipSpaces cs)
    match skipSpaces rest with
    | '.' :: rest =>
      let ((path, last), rest) ← dottedKey? fuel rest
      return ((key :: path, last), rest)
    | rest => return (([], key), rest)

/-- A key and the keys on the way to it. -/
def key? (fuel : Nat) (cs : List Char) : Option ((List String × String) × List Char) := do
  let ((path, last), rest) ← dottedKey? fuel cs
  if path.length < greatestDepth then return ((path, last), rest) else none

/-! ## Values -/

/-- A character of a number, time or truth value. -/
def isWordChar (c : Char) : Bool := c.isAlphanum || c = '_' || c = '-' || c = '+' || c = '.' || c = ':'

/-- A number, time or truth value; a blank may stand between a date and a time of day. -/
def readWord? (cs : List Char) : Option (Toml × List Char) :=
  match cs.span isWordChar with
  | (date, ' ' :: c :: rest) =>
    if isDate date && c.isDigit then
      let (clock, rest) := (c :: rest).span isWordChar
      (word? (date ++ ' ' :: clock)).map fun v => (v, rest)
    else (word? date).map fun v => (v, ' ' :: c :: rest)
  | (word, rest) => (word? word).map fun v => (v, rest)

/-- A string as a value. -/
def asString (r : Option (List Char × List Char)) : Option (Toml × List Char) :=
  r.map fun (cs, rest) => (.string (String.ofList cs), rest)

mutual

/-- A value, in which others may nest `depth` deep. -/
def value? (fuel depth : Nat) (cs : List Char) : Option (Toml × List Char) :=
  match fuel with
  | 0 => none
  | fuel + 1 =>
    match cs with
    | '"' :: '"' :: '"' :: rest => asString (blockChars .text (dropLineEnd rest))
    | '"' :: rest => asString (basicChars rest)
    | '\'' :: '\'' :: '\'' :: rest => asString (literalBlockChars (dropLineEnd rest))
    | '\'' :: rest => asString (literalChars rest)
    | '[' :: rest =>
      match depth with
      | 0 => none
      | depth + 1 => (elements? fuel depth rest).map fun (vs, rest) => (.array vs, rest)
    | '\x7b' :: rest =>
      match depth with
      | 0 => none
      | depth + 1 => (entries? fuel depth [] rest).map fun (t, rest) => (t.toToml, rest)
    | cs => readWord? cs

/-- The elements of an array up to its bracket. -/
def elements? (fuel depth : Nat) (cs : List Char) : Option (List Toml × List Char) :=
  match fuel with
  | 0 => none
  | fuel + 1 => do
    match ← skipLines? fuel cs with
    | ']' :: rest => return ([], rest)
    | cs =>
      let (v, rest) ← value? fuel depth cs
      match ← skipLines? fuel rest with
      | ',' :: rest =>
        let (vs, rest) ← elements? fuel depth rest
        return (v :: vs, rest)
      | ']' :: rest => return ([v], rest)
      | _ => none

/-- The entries of a table in braces, added to those before them, up to its brace. -/
def entries? (fuel depth : Nat) (t : Table) (cs : List Char) : Option (Table × List Char) :=
  match fuel with
  | 0 => none
  | fuel + 1 => do
    match ← skipLines? fuel cs with
    | '\x7d' :: rest => return (t, rest)
    | cs =>
      let ((path, key), rest) ← key? fuel cs
      match skipSpaces rest with
      | '=' :: rest =>
        let (v, rest) ← value? fuel depth (skipSpaces rest)
        let t ← t.assignHere? path key v
        match ← skipLines? fuel rest with
        | ',' :: rest => entries? fuel depth t rest
        | '\x7d' :: rest => return (t, rest)
        | _ => none
      | _ => none

end

/-! ## Documents -/

inductive Statement where
  | header (path : List String) (key : String)
  | arrayHeader (path : List String) (key : String)
  | assignment (path : List String) (key : String) (v : Toml)

/-- A line that is not empty. -/
def statement? (fuel : Nat) (cs : List Char) : Option (Statement × List Char) :=
  match cs with
  | '[' :: '[' :: rest => do
    let ((path, key), rest) ← key? fuel rest
    match rest with
    | ']' :: ']' :: rest => return (.arrayHeader path key, rest)
    | _ => none
  | '[' :: rest => do
    let ((path, key), rest) ← key? fuel rest
    match rest with
    | ']' :: rest => return (.header path key, rest)
    | _ => none
  | cs => do
    let ((path, key), rest) ← key? fuel cs
    match rest with
    | '=' :: rest =>
      let (v, rest) ← value? fuel greatestDepth (skipSpaces rest)
      return (.assignment path key v, rest)
    | _ => none

def statements? (fuel : Nat) (cs : List Char) : Option (List Statement) :=
  match fuel with
  | 0 => none
  | fuel + 1 => do
    match ← skipLines? (fuel + 1) cs with
    | [] => return []
    | cs =>
      let (s, rest) ← statement? fuel cs
      let rest ← finishLine? rest
      let ss ← statements? fuel rest
      return s :: ss

/-- A document while it is read: its table, and the header that what follows is below. -/
structure Document where
  root : Table
  header : List String

/-- The document with one more statement. -/
def Document.add? (d : Document) : Statement → Option Document
  | .header path key => (d.root.open? path key).map fun root => ⟨root, path ++ [key]⟩
  | .arrayHeader path key => (d.root.append? path key).map fun root => ⟨root, path ++ [key]⟩
  | .assignment path key v => (d.root.assign? d.header path key v).map fun root => { d with root }

/-- The characters of a document without the mark that may stand at its start. -/
def dropMark : List Char → List Char
  | '\uFEFF' :: rest => rest
  | cs => cs

/-- Reads a document. -/
def parse? (s : String) : Option Toml := do
  let cs := dropMark s.toList
  let statements ← statements? (cs.length + 2) cs
  let d ← statements.foldlM Document.add? (⟨[], []⟩ : Document)
  return d.root.toToml

end TransferRegistry.Toml
