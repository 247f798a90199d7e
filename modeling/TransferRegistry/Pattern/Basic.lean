import TransferRegistry.Text.CharClass

/-!
# Patterns of text

* `CharSet` is a set of characters, and `CharSet.contains` tells its members.
* `Pattern` is a regular expression. `Pattern.ends` are the places where a match can end that starts at a place, and
  `Pattern.matches` tells whether a text has a match anywhere.

A place in a text is a `Cursor`: the character before it, and the characters after it.
-/

namespace TransferRegistry

open Text (isBlank isDecimalDigit isAlphabetic isWordPart)

/-! ## Sets of characters -/

/-- The kinds of characters that have a name. -/
inductive CharKind where
  | digit
  | blank
  | word
  | letter
  | asciiDigit
  | asciiBlank
  | asciiWord
deriving DecidableEq

def CharKind.contains (kind : CharKind) (c : Char) : Bool :=
  match kind with
  | digit => isDecimalDigit c
  | blank => isBlank c
  | word => isWordPart c
  | letter => isAlphabetic c
  | asciiDigit => c.isDigit
  | asciiBlank => c = ' ' || (9 ≤ c.toNat && c.toNat ≤ 13)
  | asciiWord => c.isAlphanum || c = '_'

inductive CharSet where
  | range (first last : Char)
  | kind (k : CharKind)
  | none
  | not (s : CharSet)
  | or (s t : CharSet)
  | and (s t : CharSet)
  /-- What differs from a member at most in case. -/
  | anyCase (s : CharSet)
deriving DecidableEq

/-- Ranges of capital letters with the distance to their small ones. -/
def capitals : List (Nat × Nat × Nat) :=
  [(0x41, 0x5A, 32), (0xC0, 0xD6, 32), (0xD8, 0xDE, 32), (0x391, 0x3A1, 32), (0x3A3, 0x3AB, 32), (0x400, 0x40F, 80),
    (0x410, 0x42F, 32)]

/-- Letters of Latin, Greek and Cyrillic script that differ from a character in case alone. -/
def otherCases (c : Char) : List Char :=
  let n := c.toNat
  (capitals.filterMap fun (first, last, distance) =>
    if first ≤ n ∧ n ≤ last then some (Char.ofNat (n + distance))
    else if first + distance ≤ n ∧ n ≤ last + distance then some (Char.ofNat (n - distance))
    else Option.none)
  ++ match c with
    | 'k' | 'K' => ['\u212A']
    | 's' | 'S' => ['\u017F']
    | '\u212A' => ['k', 'K']
    | '\u017F' => ['s', 'S']
    | _ => []

namespace CharSet

def contains : CharSet → Char → Bool
  | range first last, c => first ≤ c && c ≤ last
  | kind k, c => k.contains c
  | none, _ => false
  | not s, c => !s.contains c
  | or s t, c => s.contains c || t.contains c
  | and s t, c => s.contains c && t.contains c
  | anyCase s, c => s.contains c || (otherCases c).any s.contains

def single (c : Char) : CharSet := range c c

def union (sets : List CharSet) : CharSet := sets.foldl or none

end CharSet

/-! ## Patterns -/

/-- What a place in a text can be required to be. -/
inductive Assertion where
  | textStart
  | textEnd
  | lineStart
  | lineEnd
  | wordEdge
  | noWordEdge
  | wordStart
  | wordEnd
deriving DecidableEq

/-- A regular expression. -/
inductive Pattern where
  | empty
  | char (s : CharSet)
  | assertion (a : Assertion)
  | seq (p q : Pattern)
  | alt (p q : Pattern)
  /-- At least `least` times, and at most `greatest` times if that is given. -/
  | times (p : Pattern) (least : Nat) (greatest : Option Nat)
deriving DecidableEq

/-- A place in a text. -/
structure Cursor where
  before : Option Char
  rest : List Char
deriving DecidableEq

namespace Cursor

/-- Whether the character before and after a place are of words. -/
def words (c : Cursor) : Bool × Bool := (c.before.any isWordPart, c.rest.head?.any isWordPart)

/-- Whether the place is as is required. -/
def satisfies (c : Cursor) : Assertion → Bool
  | .textStart => c.before.isNone
  | .textEnd => c.rest.isEmpty
  | .lineStart => c.before.all (· = '\n')
  | .lineEnd => c.rest.head?.all (· = '\n')
  | .wordEdge => c.words.1 != c.words.2
  | .noWordEdge => c.words.1 == c.words.2
  | .wordStart => !c.words.1 && c.words.2
  | .wordEnd => c.words.1 && !c.words.2

/-- All places of a text from this one on. -/
def all (before : Option Char) : List Char → List Cursor
  | [] => [⟨before, []⟩]
  | c :: rest => ⟨before, c :: rest⟩ :: all (some c) rest

/-- Each place once. -/
def distinct (cs : List Cursor) : List Cursor :=
  cs.foldr (fun c kept => if kept.any fun d => d.rest.length = c.rest.length then kept else c :: kept) []

end Cursor

namespace Pattern

/-- The places after `n` steps; where a step leads to the same places, no more are taken. -/
def repeatSteps (step : Cursor → List Cursor) : Nat → List Cursor → List Cursor
  | 0, cs => cs
  | n + 1, cs =>
    let next := Cursor.distinct (cs.flatMap step)
    if next = cs then cs else repeatSteps step n next

/-- The places after at most `n` steps. -/
def upTo (step : Cursor → List Cursor) : Nat → List Cursor → List Cursor
  | 0, cs => cs
  | n + 1, cs =>
    let next := Cursor.distinct (cs ++ cs.flatMap step)
    if next.length = cs.length then cs else upTo step n next

/-- The places where a match that starts at a place can end. -/
def ends : Pattern → Cursor → List Cursor
  | empty, c => [c]
  | char s, c =>
    match c.rest with
    | x :: rest => if s.contains x then [⟨some x, rest⟩] else []
    | [] => []
  | assertion a, c => if c.satisfies a then [c] else []
  | seq p q, c => Cursor.distinct ((p.ends c).flatMap q.ends)
  | alt p q, c => Cursor.distinct (p.ends c ++ q.ends c)
  | times p least greatest, c =>
    let first := repeatSteps p.ends least [c]
    match greatest with
    | some n => upTo p.ends (n - least) first
    | none => upTo p.ends (c.rest.length + 1) first

def matchesIn (p : Pattern) (text : String) : Bool :=
  (Cursor.all none text.toList).any fun c => !(p.ends c).isEmpty

end Pattern

end TransferRegistry
