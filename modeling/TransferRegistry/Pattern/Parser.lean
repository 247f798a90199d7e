import TransferRegistry.Pattern.Basic
import TransferRegistry.Text.Hex

/-!
# Reading patterns

`Pattern.parse?` reads the usual notation of regular expressions: letters as themselves, `.`, classes in brackets,
named classes such as `\S`, groups with flags, alternatives, repetitions, and assertions. There are no references to
groups and no looking around.

Each reader takes the characters that are left and gives back what it read with the rest; `fuel` bounds how deep
groups and classes are read, and a text holds fewer than it has characters.
-/

namespace TransferRegistry.Pattern

open Text (hexValue? isBlank isAlphabetic isAlphanumeric)

/-- How what follows is read. -/
structure Flags where
  anyCase : Bool := false
  multiLine : Bool := false
  dotAll : Bool := false
  carriage : Bool := false
  unicode : Bool := true
  verbose : Bool := false

/-- What follows blanks and comments, where those are left out. -/
def skipVerbose (flags : Flags) (cs : List Char) : List Char :=
  if flags.verbose then skip false cs else cs
where
  skip (inComment : Bool) : List Char → List Char
    | [] => []
    | c :: rest =>
      if inComment then skip (c ≠ '\n') rest
      else if isBlank c then skip false rest
      else if c = '#' then skip true rest
      else c :: rest

/-! ## Sets -/

/-- The sets with a name in brackets and colons. -/
def posixSet? (name : String) : Option CharSet :=
  let lower := CharSet.range 'a' 'z'
  let upper := CharSet.range 'A' 'Z'
  let digit := CharSet.range '0' '9'
  let alnum := CharSet.union [lower, upper, digit]
  match name with
  | "alnum" => some alnum
  | "alpha" => some (.or lower upper)
  | "ascii" => some (.range '\x00' '\x7f')
  | "blank" => some (.or (.single '\t') (.single ' '))
  | "cntrl" => some (.or (.range '\x00' '\x1f') (.single '\x7f'))
  | "digit" => some digit
  | "graph" => some (.range '!' '~')
  | "lower" => some lower
  | "print" => some (.range ' ' '~')
  | "punct" => some (.and (.range '!' '~') (.not alnum))
  | "space" => some (.kind .asciiBlank)
  | "upper" => some upper
  | "word" => some (.kind .asciiWord)
  | "xdigit" => some (.union [digit, .range 'a' 'f', .range 'A' 'F'])
  | _ => none

/-- The sets with a name of Unicode. -/
def propertySet? (name : String) : Option CharSet :=
  let plain := String.ofList ((name.toList.filter fun c => c ≠ '_' && c ≠ '-' && c ≠ ' ').map Char.toLower)
  match plain with
  | "nd" | "decimalnumber" => some (.kind .digit)
  | "whitespace" | "space" => some (.kind .blank)
  | "alphabetic" | "alpha" => some (.kind .letter)
  | "ascii" => some (.range '\x00' '\x7f')
  | "any" => some (.not .none)
  | _ => none

/-- The set that a letter after a backslash stands for. -/
def classSet? (flags : Flags) : Char → Option CharSet
  | 'd' => some (kind .digit .asciiDigit)
  | 'D' => some (.not (kind .digit .asciiDigit))
  | 's' => some (kind .blank .asciiBlank)
  | 'S' => some (.not (kind .blank .asciiBlank))
  | 'w' => some (kind .word .asciiWord)
  | 'W' => some (.not (kind .word .asciiWord))
  | _ => none
where
  kind (unicode ascii : CharKind) : CharSet := .kind (if flags.unicode then unicode else ascii)

/-- The set, with other cases where those count. -/
def Flags.cased (flags : Flags) (s : CharSet) : CharSet := if flags.anyCase then .anyCase s else s

/-- Any character but those that end a line, or any at all. -/
def Flags.dot (flags : Flags) : CharSet :=
  if flags.dotAll then .not .none
  else if flags.carriage then .not (.or (.single '\n') (.single '\r'))
  else .not (.single '\n')

/-! ## Escapes -/

/-- The number of digits in base 16 and what follows them: a given number of digits, or any in braces. -/
def hexEscape? (digits : Nat) (cs : List Char) : Option (Char × List Char) := do
  let (ds, rest) ← match cs with
    | '\x7b' :: rest =>
      match rest.span (· ≠ '\x7d') with
      | (ds, _ :: rest) => some (ds, rest)
      | _ => none
    | cs => if cs.length < digits then none else some (cs.take digits, cs.drop digits)
  if ds.isEmpty then none
  let n ← ds.foldlM (fun n c => (hexValue? c).map fun d => 16 * n + d) 0
  if n.isValidChar then return (Char.ofNat n, rest) else none

/-- The character that a backslash and what follows stand for. -/
def escapedChar? : List Char → Option (Char × List Char)
  | 'x' :: rest => hexEscape? 2 rest
  | 'u' :: rest => hexEscape? 4 rest
  | 'U' :: rest => hexEscape? 8 rest
  | c :: rest =>
    match c with
    | 'n' => some ('\n', rest)
    | 't' => some ('\t', rest)
    | 'r' => some ('\r', rest)
    | 'a' => some ('\x07', rest)
    | 'f' => some ('\x0c', rest)
    | 'v' => some ('\x0b', rest)
    | _ => if c.toNat < 0x80 && !c.isAlphanum && c ≠ '<' && c ≠ '>' then some (c, rest) else none
  | [] => none

/-- The set that a backslash, `p` or `P`, and a name stand for. -/
def property? : List Char → Option (CharSet × List Char)
  | c :: '\x7b' :: rest =>
    match rest.span (· ≠ '\x7d') with
    | ('^' :: name, _ :: rest) => (propertySet? (String.ofList name)).map fun s => (negated (c ≠ 'P') s, rest)
    | (name, _ :: rest) => (propertySet? (String.ofList name)).map fun s => (negated (c = 'P') s, rest)
    | _ => none
  | c :: name :: rest => (propertySet? (String.ofList [name])).map fun s => (negated (c = 'P') s, rest)
  | _ => none
where
  negated (b : Bool) (s : CharSet) : CharSet := if b then .not s else s

/-- A set with a name, after a backslash. -/
def namedSet? (flags : Flags) : List Char → Option (CharSet × List Char)
  | 'p' :: rest => property? ('p' :: rest)
  | 'P' :: rest => property? ('P' :: rest)
  | c :: rest => (classSet? flags c).map fun s => (s, rest)
  | [] => none

/-! ## Classes in brackets -/

/-- One member of a class: a set, or a character that may be the first of a range. -/
inductive ClassItem where
  | set (s : CharSet)
  | char (c : Char)

/-- A set in brackets and colons, after its opening bracket. -/
def posix? : List Char → Option (CharSet × List Char)
  | ':' :: rest =>
    match rest.span (· ≠ ':') with
    | ('^' :: name, ':' :: ']' :: rest) => (posixSet? (String.ofList name)).map fun s => (.not s, rest)
    | (name, ':' :: ']' :: rest) => (posixSet? (String.ofList name)).map fun s => (s, rest)
    | _ => none
  | _ => none

/-- A member without brackets of its own. -/
def simpleItem? (flags : Flags) : List Char → Option (ClassItem × List Char)
  | '\\' :: rest =>
    match namedSet? flags rest with
    | some (s, rest) => some (.set s, rest)
    | none => (escapedChar? rest).map fun (c, rest) => (.char c, rest)
  | c :: rest => some (.char c, rest)
  | [] => none

/-- The range from a character on, or the character alone; a range ends with a character. -/
def rangeFrom? (flags : Flags) (first : Char) (cs : List Char) : Option (CharSet × List Char) :=
  match skipVerbose flags cs with
  | '-' :: rest =>
    match skipVerbose flags rest with
    | ']' :: _ => some (.single first, cs)
    | '-' :: _ => some (.single first, cs)
    | rest =>
      match simpleItem? flags rest with
      | some (.char last, rest) => if first ≤ last then some (.range first last, rest) else none
      | _ => none
  | _ => some (.single first, cs)

/-- How two sides of a class are joined. -/
inductive ClassOp where
  | both
  | without
  | oneOf

/-- An operator between two sides of a class. -/
def classOp? : List Char → Option (ClassOp × List Char)
  | '&' :: '&' :: rest => some (.both, rest)
  | '-' :: '-' :: rest => some (.without, rest)
  | '~' :: '~' :: rest => some (.oneOf, rest)
  | _ => none

/-- The set that two sides make. -/
def ClassOp.apply : ClassOp → CharSet → CharSet → CharSet
  | both, s, t => .and s t
  | without, s, t => .and s (.not t)
  | oneOf, s, t => .or (.and s (.not t)) (.and t (.not s))

/-- What an operator is still to be applied to. -/
def finishOp (pending : Option (CharSet × ClassOp)) (s : CharSet) : CharSet :=
  match pending with
  | some (t, op) => op.apply t s
  | none => s

mutual

/-- A class after its opening bracket. -/
def class? (flags : Flags) (fuel : Nat) (cs : List Char) : Option (CharSet × List Char) :=
  match fuel with
  | 0 => none
  | fuel + 1 =>
    let (negated, cs) := match skipVerbose flags cs with
      | '^' :: rest => (true, skipVerbose flags rest)
      | cs => (false, cs)
    let dashes := cs.takeWhile (· = '-')
    let cs := cs.dropWhile (· = '-')
    let start : CharSet := if dashes.isEmpty then .none else .single '-'
    let (start, cs) := match dashes, cs with
      | [], ']' :: rest => (CharSet.single ']', rest)
      | _, cs => (start, cs)
    do
      let (s, rest) ← classItems? flags fuel none start cs
      let s := flags.cased s
      return (if negated then .not s else s, rest)

/-- The members of a class up to its bracket, added to those before. -/
def classItems? (flags : Flags) (fuel : Nat) (pending : Option (CharSet × ClassOp)) (s : CharSet)
    (cs : List Char) : Option (CharSet × List Char) :=
  match fuel with
  | 0 => none
  | fuel + 1 =>
    let cs := skipVerbose flags cs
    match classOp? cs with
    | some (op, rest) => classItems? flags fuel (some (finishOp pending s, op)) .none rest
    | none =>
      match cs with
      | [] => none
      | ']' :: rest => some (finishOp pending s, rest)
      | '[' :: rest =>
        match posix? rest with
        | some (t, rest) => classItems? flags fuel pending (.or s t) rest
        | none => do
          let (t, rest) ← class? flags fuel rest
          classItems? flags fuel pending (.or s t) rest
      | cs => do
        match ← simpleItem? flags cs with
        | (.set t, rest) => classItems? flags fuel pending (.or s t) rest
        | (.char c, rest) =>
          let (t, rest) ← rangeFrom? flags c rest
          classItems? flags fuel pending (.or s t) rest

end

/-! ## Repetitions -/

/-- A number in base 10, between blanks. -/
def count? (cs : List Char) : Option (Nat × List Char) :=
  match (cs.dropWhile isBlank).span Char.isDigit with
  | ([], _) => none
  | (ds, rest) =>
    let n := ds.foldl (fun n d => 10 * n + (d.toNat - 48)) 0
    if n < UInt32.size then some (n, rest.dropWhile isBlank) else none

/-- The bounds of a repetition after its opening brace. -/
def bounds? (cs : List Char) : Option ((Nat × Option Nat) × List Char) := do
  let (least, rest) ← count? cs
  match rest with
  | '\x7d' :: rest => return ((least, some least), rest)
  | ',' :: rest =>
    match rest.dropWhile isBlank with
    | '\x7d' :: rest => return ((least, none), rest)
    | _ =>
      let (greatest, rest) ← count? rest
      match rest with
      | '\x7d' :: rest => if least ≤ greatest then return ((least, some greatest), rest) else none
      | _ => none
  | _ => none

/-- What follows the mark of a repetition that takes as little as it can. -/
def skipLazy : List Char → List Char
  | '?' :: rest => rest
  | cs => cs

/-- The repetitions that follow a pattern. -/
def repeated? (flags : Flags) (fuel : Nat) (p : Pattern) (cs : List Char) : Option (Pattern × List Char) :=
  match fuel with
  | 0 => none
  | fuel + 1 =>
    match skipVerbose flags cs with
    | '*' :: rest => repeated? flags fuel (.times p 0 none) (skipLazy rest)
    | '+' :: rest => repeated? flags fuel (.times p 1 none) (skipLazy rest)
    | '?' :: rest => repeated? flags fuel (.times p 0 (some 1)) (skipLazy rest)
    | '\x7b' :: rest => do
      let ((least, greatest), rest) ← bounds? rest
      repeated? flags fuel (.times p least greatest) (skipLazy rest)
    | cs => some (p, cs)

/-! ## Groups -/

/-- The flags with one set or cleared. -/
def Flags.set? (flags : Flags) (value : Bool) : Char → Option Flags
  | 'i' => some { flags with anyCase := value }
  | 'm' => some { flags with multiLine := value }
  | 's' => some { flags with dotAll := value }
  | 'R' => some { flags with carriage := value }
  -- Which of two matches is preferred makes no difference to whether there is one.
  | 'U' => some flags
  | 'u' => some { flags with unicode := value }
  | 'x' => some { flags with verbose := value }
  | _ => none

/-- The flags of a group up to its colon or bracket; each may be named once, and a minus has to be followed by
one. -/
def flags? (flags : Flags) (value : Bool) (seen : List Char) : List Char → Option (Flags × List Char)
  | [] => none
  | ':' :: rest => if seen.head? = some '-' then none else some (flags, ':' :: rest)
  | ')' :: rest => if seen.head? = some '-' || seen.isEmpty then none else some (flags, ')' :: rest)
  | '-' :: rest => if seen.contains '-' then none else flags? flags false ('-' :: seen) rest
  | c :: rest =>
    if seen.contains c then none
    else
      match flags.set? value c with
      | some flags => flags? flags value (c :: seen) rest
      | none => none

/-- The name of a group up to its bracket, and what follows. -/
def groupName? (cs : List Char) : Option (String × List Char) :=
  match cs.span (· ≠ '>') with
  | (c :: name, '>' :: rest) =>
    let starts := c = '_' || isAlphabetic c
    let continues (d : Char) := d = '_' || d = '.' || d = '[' || d = ']' || isAlphanumeric d
    if starts && name.all continues then some (String.ofList (c :: name), rest) else none
  | _ => none

/-- The assertion that a letter after a backslash stands for. -/
def escapedAssertion? : List Char → Option (Assertion × List Char)
  | 'A' :: rest => some (.textStart, rest)
  | 'z' :: rest => some (.textEnd, rest)
  | 'B' :: rest => some (.noWordEdge, rest)
  | '<' :: rest => some (.wordStart, rest)
  | '>' :: rest => some (.wordEnd, rest)
  | 'b' :: rest =>
    if "\x7bstart\x7d".toList.isPrefixOf rest then some (.wordStart, rest.drop 7)
    else if "\x7bend\x7d".toList.isPrefixOf rest then some (.wordEnd, rest.drop 5)
    else some (.wordEdge, rest)
  | _ => none

/-- The part of a pattern that is one character or one place. -/
def atom? (flags : Flags) (fuel : Nat) : List Char → Option (Pattern × List Char)
  | '.' :: rest => some (.char flags.dot, rest)
  | '^' :: rest => some (.assertion (if flags.multiLine then .lineStart else .textStart), rest)
  | '$' :: rest => some (.assertion (if flags.multiLine then .lineEnd else .textEnd), rest)
  | '[' :: rest => (class? flags fuel rest).map fun (s, rest) => (.char s, rest)
  | '\\' :: rest =>
    match escapedAssertion? rest with
    | some (a, rest) => some (.assertion a, rest)
    | none =>
      match namedSet? flags rest with
      | some (s, rest) => some (.char s, rest)
      | none => (escapedChar? rest).map fun (c, rest) => (.char (flags.cased (.single c)), rest)
  | c :: rest =>
    if c = '*' || c = '+' || c = '?' || c = '\x7b' then none else some (.char (flags.cased (.single c)), rest)
  | [] => none

mutual

/-- Alternatives, up to a closing bracket or the end; also gives the names of groups. -/
def alternatives? (flags : Flags) (fuel : Nat) (names : List String) (cs : List Char) :
    Option (Pattern × List String × List Char) :=
  match fuel with
  | 0 => none
  | fuel + 1 => do
    let (p, flags, names, rest) ← sequence? flags fuel .empty names cs
    match rest with
    | '|' :: rest =>
      let (q, names, rest) ← alternatives? flags fuel names rest
      return (.alt p q, names, rest)
    | rest => return (p, names, rest)

/-- Parts one after the other, after those before; flags may change on the way. -/
def sequence? (flags : Flags) (fuel : Nat) (before : Pattern) (names : List String) (cs : List Char) :
    Option (Pattern × Flags × List String × List Char) :=
  match fuel with
  | 0 => none
  | fuel + 1 =>
    match skipVerbose flags cs with
    | [] => some (before, flags, names, [])
    | '|' :: rest => some (before, flags, names, '|' :: rest)
    | ')' :: rest => some (before, flags, names, ')' :: rest)
    | '(' :: rest => do
      match ← group? flags fuel names rest with
      | (none, flags, names, rest) =>
        -- Nothing can be repeated after a change of flags.
        match skipVerbose flags rest with
        | '*' :: _ | '+' :: _ | '?' :: _ | '\x7b' :: _ => none
        | rest => sequence? flags fuel before names rest
      | (some p, flags, names, rest) =>
        let (p, rest) ← repeated? flags fuel p rest
        sequence? flags fuel (.seq before p) names rest
    | cs => do
      let (p, rest) ← atom? flags fuel cs
      let (p, rest) ← repeated? flags fuel p rest
      sequence? flags fuel (.seq before p) names rest

/-- A group after its opening bracket; one that only sets flags has no pattern. -/
def group? (flags : Flags) (fuel : Nat) (names : List String) (cs : List Char) :
    Option (Option Pattern × Flags × List String × List Char) :=
  match fuel with
  | 0 => none
  | fuel + 1 =>
    let close (r : Option (Pattern × List String × List Char)) :
        Option (Option Pattern × Flags × List String × List Char) :=
      match r with
      | some (p, names, ')' :: rest) => some (some p, flags, names, rest)
      | _ => none
    let named (r : Option (String × List Char)) : Option (Option Pattern × Flags × List String × List Char) :=
      match r with
      | some (name, rest) => if names.contains name then none else close (alternatives? flags fuel (name :: names) rest)
      | none => none
    match skipVerbose flags cs with
    | '?' :: 'P' :: '<' :: rest => named (groupName? rest)
    | '?' :: '<' :: rest => named (groupName? rest)
    | '?' :: rest =>
      match flags? flags true [] rest with
      | some (inner, ':' :: rest) => close (alternatives? inner fuel names rest)
      | some (inner, ')' :: rest) => some (none, inner, names, rest)
      | _ => none
    | cs => close (alternatives? flags fuel names cs)

end

def parse? (s : String) : Option Pattern :=
  let cs := s.toList
  match alternatives? {} (2 * cs.length + 2) [] cs with
  | some (p, _, []) => some p
  | _ => none

end TransferRegistry.Pattern
