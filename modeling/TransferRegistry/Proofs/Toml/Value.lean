import Mathlib.Data.List.Basic
import Mathlib.Data.List.TakeDrop
import TransferRegistry.Proofs.Json.Number
import TransferRegistry.Toml.Parser
import TransferRegistry.Toml.Printer

/-!
# TOML values that were written

* `basicChars_escape`: an escaped character is read as it was, so a string between quotes is (`value?_quoted`).
* `word?_naturalText`, `word?_booleanText`: numbers and truth values are read as they were, and end with the line
  (`value?_word`).
* `elements?_separated`: quoted strings with commas between them are read as they were, so strings in brackets are
  (`value?_stringsText`).
-/

namespace TransferRegistry.Toml

open Text (hexDigit hexValue? hexValue?_hexDigit)
open Json.Number (digitsOf)

/-! ## Strings -/

theorem basicChars_plain {c : Char} (hquote : c ≠ '"') (hslash : c ≠ '\\') (hc : isPlain c = true) (s : List Char) :
    basicChars (c :: s) = push (some c) (basicChars s) := by
  rw [basicChars.eq_def]
  split
  · rename_i heq
    exact absurd (List.cons.inj heq).1 hquote
  · rename_i heq
    exact absurd (List.cons.inj heq).1 hslash
  · rename_i heq
    exact absurd (List.cons.inj heq).1 hslash
  · rename_i heq
    exact absurd (List.cons.inj heq).1 hslash
  · rename_i heq
    exact absurd (List.cons.inj heq).1 hslash
  · rename_i heq
    obtain ⟨rfl, rfl⟩ := List.cons.inj heq
    rw [if_pos hc]
  · rename_i heq
    cases heq

theorem basicChars_short {e c : Char} (he : shortEscape? e = some c) (hx : e ≠ 'x') (hu : e ≠ 'u') (hU : e ≠ 'U')
    (s : List Char) : basicChars ('\\' :: e :: s) = push (some c) (basicChars s) := by
  rw [basicChars.eq_def]
  split
  · rename_i heq
    cases heq
  · rename_i heq
    exact absurd (List.cons.inj (List.cons.inj heq).2).1 hx
  · rename_i heq
    exact absurd (List.cons.inj (List.cons.inj heq).2).1 hu
  · rename_i heq
    exact absurd (List.cons.inj (List.cons.inj heq).2).1 hU
  · rename_i heq
    obtain ⟨rfl, rfl⟩ := List.cons.inj (List.cons.inj heq).2
    rw [he]
  · rename_i hother heq
    obtain ⟨rfl, rfl⟩ := List.cons.inj heq
    exact absurd rfl (hother e s rfl)
  · rename_i heq
    cases heq

theorem basicChars_unit {n : Nat} (hn : n < 128) (s : List Char) :
    basicChars ('\\' :: 'u' :: '0' :: '0' :: hexDigit (n / 16) :: hexDigit (n % 16) :: s) =
      push (some (Char.ofNat n)) (basicChars s) := by
  have hzero : hexValue? '0' = some 0 := by decide
  have hvalue : 16 * (16 * (16 * (16 * 0 + 0) + 0) + n / 16) + n % 16 = n := by omega
  have hnumber : hexNumber? ['0', '0', hexDigit (n / 16), hexDigit (n % 16)] = some n := by
    simp only [hexNumber?, List.foldlM_cons, List.foldlM_nil, hzero, hexValue?_hexDigit (show n / 16 < 16 by omega),
      hexValue?_hexDigit (show n % 16 < 16 by omega), Option.map_some, Option.bind_eq_bind, Option.bind_some,
      Option.pure_def, hvalue]
  have hscalar : scalar? ['0', '0', hexDigit (n / 16), hexDigit (n % 16)] = some (Char.ofNat n) := by
    simp only [scalar?, hnumber, Option.bind_eq_bind, Option.bind_some]
    rw [if_pos (Or.inl (by omega))]
    rfl
  rw [basicChars, hscalar]

/-- What is written for a character is read as it. -/
theorem basicChars_escape (c : Char) (s : List Char) : basicChars (escape c ++ s) = push (some c) (basicChars s) := by
  unfold escape
  split
  · exact basicChars_short rfl (by decide) (by decide) (by decide) s
  · exact basicChars_short rfl (by decide) (by decide) (by decide) s
  · exact basicChars_short rfl (by decide) (by decide) (by decide) s
  · exact basicChars_short rfl (by decide) (by decide) (by decide) s
  · exact basicChars_short rfl (by decide) (by decide) (by decide) s
  · exact basicChars_short rfl (by decide) (by decide) (by decide) s
  · exact basicChars_short rfl (by decide) (by decide) (by decide) s
  · rename_i hquote hslash _ _ _ _ _
    split
    · rename_i hc
      have hc : c.toNat < 128 := by
        rw [Bool.or_eq_true, decide_eq_true_eq, decide_eq_true_eq] at hc
        omega
      have h := basicChars_unit hc s
      rwa [Char.ofNat_toNat] at h
    · rename_i hc
      refine basicChars_plain hquote hslash ?_ s
      rw [Bool.not_eq_true, Bool.or_eq_false_iff, decide_eq_false_iff_not, decide_eq_false_iff_not] at hc
      simp only [isPlain, Bool.or_eq_true, Bool.and_eq_true, decide_eq_true_eq]
      omega

theorem basicChars_escaped (cs rest : List Char) : basicChars (cs.flatMap escape ++ '"' :: rest) = some (cs, rest) := by
  induction cs with
  | nil => rfl
  | cons c cs ih =>
    rw [List.flatMap_cons, List.append_assoc, basicChars_escape, ih]
    rfl

/-- No quote stands first for a character. -/
theorem escape_cons (c : Char) : ∃ d cs, escape c = d :: cs ∧ d ≠ '"' := by
  unfold escape
  split
  · exact ⟨_, _, rfl, by decide⟩
  · exact ⟨_, _, rfl, by decide⟩
  · exact ⟨_, _, rfl, by decide⟩
  · exact ⟨_, _, rfl, by decide⟩
  · exact ⟨_, _, rfl, by decide⟩
  · exact ⟨_, _, rfl, by decide⟩
  · exact ⟨_, _, rfl, by decide⟩
  · rename_i hquote _ _ _ _ _ _
    split
    · exact ⟨_, _, rfl, by decide⟩
    · exact ⟨_, _, rfl, hquote⟩

/-- A string that does not start as one in three quotes. -/
theorem value?_basic {cs : List Char} (h : ∀ rest, cs ≠ '"' :: '"' :: rest) (fuel depth : Nat) :
    value? (fuel + 1) depth ('"' :: cs) = asString (basicChars cs) := by
  rw [value?]
  exact h

/-- A string is read as it was, if no quote follows. -/
theorem value?_quoted (s : String) (fuel depth : Nat) {rest : List Char} (h : ∀ other, rest ≠ '"' :: other) :
    value? (fuel + 1) depth (quoted s ++ rest) = some (.string s, rest) := by
  rw [quoted, List.append_assoc, List.cons_append, value?_basic, List.singleton_append, basicChars_escaped]
  · exact congrArg (fun read => some (Toml.string read, rest)) String.ofList_toList
  intro other heq
  cases hcs : s.toList with
  | nil =>
    rw [hcs] at heq
    exact h other (List.cons.inj heq).2
  | cons c cs =>
    obtain ⟨d, ds, hescape, hd⟩ := escape_cons c
    rw [hcs, List.flatMap_cons, hescape] at heq
    exact hd (List.cons.inj heq).1

/-! ## Words -/

/-- What ends with the line is a word. -/
theorem readWord?_line {word : List Char} (h : ∀ c ∈ word, isWordChar c = true) (rest : List Char) :
    readWord? (word ++ '\n' :: rest) = (word? word).map fun v => (v, '\n' :: rest) := by
  have hspan : (word ++ '\n' :: rest).span isWordChar = (word, '\n' :: rest) := by
    rw [List.span_eq_takeWhile_dropWhile, List.takeWhile_append_of_pos h, List.dropWhile_append_of_pos h]
    simp [isWordChar]
  rw [readWord?, hspan]
  rfl

/-- A value that starts with a character of a word is one. -/
theorem value?_of_isWordChar {c : Char} (h : isWordChar c = true) (cs : List Char) (fuel depth : Nat) :
    value? (fuel + 1) depth (c :: cs) = readWord? (c :: cs) := by
  have hne : ∀ d, isWordChar d = false → c ≠ d := by
    rintro d hd rfl
    rw [h] at hd
    cases hd
  have hquote := hne '"' (by decide)
  have hsingle := hne '\'' (by decide)
  have hbracket := hne '[' (by decide)
  have hbrace := hne '\x7b' (by decide)
  rw [value?]
  · exact fun rest heq => absurd (List.cons.inj heq).1 hquote
  · exact fun rest heq => absurd (List.cons.inj heq).1 hquote
  · exact fun rest heq => absurd (List.cons.inj heq).1 hsingle
  · exact fun rest heq => absurd (List.cons.inj heq).1 hsingle
  · exact fun rest heq => absurd (List.cons.inj heq).1 hbracket
  · exact fun rest heq => absurd (List.cons.inj heq).1 hbrace

theorem value?_word {word : List Char} {v : Toml} (h : ∀ c ∈ word, isWordChar c = true) (hword : word? word = some v)
    (fuel depth : Nat) (rest : List Char) :
    value? (fuel + 1) depth (word ++ '\n' :: rest) = some (v, '\n' :: rest) := by
  cases word with
  | nil => cases hword
  | cons c cs =>
    have hline := readWord?_line h rest
    rw [hword] at hline
    exact (value?_of_isWordChar (h c List.mem_cons_self) _ fuel depth).trans hline

/-! ## Numbers -/

/-- The digits of a number, as characters. -/
theorem naturalText_eq (n : Nat) : naturalText n = (digitsOf n).map fun d => Nat.digitChar d.val :=
  Json.Number.natChars_eq n

theorem hexValue?_digitChar (d : Json.Digit) : hexValue? (Nat.digitChar d.val) = some d.val := by
  have all : ∀ d : Json.Digit, hexValue? (Nat.digitChar d.val) = some d.val := by decide
  exact all d

theorem isDigitIn_digitChar (d : Json.Digit) : isDigitIn 10 (Nat.digitChar d.val) = true := by
  rw [isDigitIn, hexValue?_digitChar]
  exact decide_eq_true d.isLt

/-- Digits without underscores are grouped. -/
theorem grouped_digits (d : Json.Digit) (ds : List Json.Digit) :
    grouped (isDigitIn 10) ((d :: ds).map fun d => Nat.digitChar d.val) = true := by
  induction ds generalizing d with
  | nil => exact isDigitIn_digitChar d
  | cons e ds ih =>
    have hne : Nat.digitChar e.val ≠ '_' := by
      have all : ∀ e : Json.Digit, Nat.digitChar e.val ≠ '_' := by decide
      exact all e
    have hrest := ih e
    rw [List.map_cons] at hrest ⊢
    rw [List.map_cons, grouped, isDigitIn_digitChar, hrest]
    · rfl
    · exact nofun
    · exact fun rest heq => absurd (List.cons.inj heq).1 hne

theorem digitsValue_digits (ds : List Json.Digit) :
    digitsValue 10 (ds.map fun d => Nat.digitChar d.val) = Json.Number.ofDigitList ds := by
  have hdigits : (ds.map fun d => Nat.digitChar d.val).filterMap hexValue? = ds.map (·.val) := by
    rw [List.filterMap_map, List.filterMap_eq_map_iff_forall_eq_some]
    exact fun d _ => hexValue?_digitChar d
  rw [digitsValue, hdigits, List.foldl_map, Json.Number.ofDigitList]
  simp only [Nat.mul_comm]

/-- No zero stands before other digits. -/
theorem decimal?_naturalText (n : Nat) : decimal? (naturalText n) = some n := by
  have hvalue := Json.Number.ofDigitList_digitsOf n
  rw [naturalText_eq]
  cases hdigits : digitsOf n with
  | nil => exact absurd hdigits (Json.Number.digitsOf_ne_nil n)
  | cons d ds =>
    have hnatural : natural? 10 ((d :: ds).map fun d => Nat.digitChar d.val) = some n := by
      rw [natural?, if_pos (grouped_digits d ds), digitsValue_digits, ← hdigits, hvalue]
    unfold decimal?
    split
    · rename_i c cs heq
      cases ds with
      | nil => cases (List.cons.inj heq).2
      | cons e ds =>
        have hzero : ∀ d : Json.Digit, Nat.digitChar d.val = '0' → d.val = 0 := by decide
        exact absurd (hzero d (List.cons.inj heq).1) (Json.Number.ne_zero_of_digitsOf hdigits)
    · exact hnatural

/-- A number starts with a digit, and another digit follows if anything does. -/
theorem naturalText_cons (n : Nat) : ∃ (d : Json.Digit) (cs : List Char), naturalText n = Nat.digitChar d.val :: cs ∧
    ∀ c rest, cs = c :: rest → ∃ e : Json.Digit, c = Nat.digitChar e.val := by
  rw [naturalText_eq]
  cases hdigits : digitsOf n with
  | nil => exact absurd hdigits (Json.Number.digitsOf_ne_nil n)
  | cons d ds =>
    refine ⟨d, _, List.map_cons, ?_⟩
    intro c rest hcs
    cases ds with
    | nil => cases hcs
    | cons e ds => exact ⟨e, (List.cons.inj hcs).1.symm⟩

theorem integer?_naturalText {n : Nat} (h : n < UInt64.size) : integer? (naturalText n) = some (n : Int) := by
  obtain ⟨d, cs, hcs, hsecond⟩ := naturalText_cons n
  have hdecimal := decimal?_naturalText n
  have hrange : integerRange.least ≤ (n : Int) ∧ (n : Int) ≤ integerRange.greatest := by
    have hleast : integerRange.least ≤ 0 := by decide
    have hgreatest : (UInt64.size : Int) ≤ integerRange.greatest := by decide
    omega
  have hletter : ∀ c, (∀ e : Json.Digit, Nat.digitChar e.val ≠ c) → ∀ rest, cs ≠ c :: rest := by
    intro c hc rest heq
    obtain ⟨e, he⟩ := hsecond c rest heq
    exact hc e he.symm
  have hsign : signed (Nat.digitChar d.val :: cs) = (false, Nat.digitChar d.val :: cs) := by
    have hminus : ∀ d : Json.Digit, Nat.digitChar d.val ≠ '-' := by decide
    have hplus : ∀ d : Json.Digit, Nat.digitChar d.val ≠ '+' := by decide
    rw [signed]
    · exact fun rest heq => hminus d (List.cons.inj heq).1
    · exact fun rest heq => hplus d (List.cons.inj heq).1
  rw [hcs] at hdecimal ⊢
  unfold integer?
  split
  · rename_i rest heq
    exact absurd (List.cons.inj heq).2 (hletter 'x' (by decide) rest)
  · rename_i rest heq
    exact absurd (List.cons.inj heq).2 (hletter 'o' (by decide) rest)
  · rename_i rest heq
    exact absurd (List.cons.inj heq).2 (hletter 'b' (by decide) rest)
  · simp only [hsign, hdecimal, Option.pure_def, Option.map_some, Bool.false_eq_true, if_false, Option.bind_eq_bind,
      Option.bind_some]
    rw [if_pos hrange]

theorem word?_naturalText {n : Nat} (h : n < UInt64.size) : word? (naturalText n) = some (.integer n) := by
  obtain ⟨d, cs, hcs, -⟩ := naturalText_cons n
  have htrue : ∀ d : Json.Digit, Nat.digitChar d.val ≠ 't' := by decide
  have hfalse : ∀ d : Json.Digit, Nat.digitChar d.val ≠ 'f' := by decide
  unfold word?
  rw [integer?_naturalText h, if_neg, if_neg]
  · rw [hcs]
    exact fun heq => hfalse d (List.cons.inj heq).1
  · rw [hcs]
    exact fun heq => htrue d (List.cons.inj heq).1

theorem value?_naturalText {n : Nat} (h : n < UInt64.size) (fuel depth : Nat) (rest : List Char) :
    value? (fuel + 1) depth (naturalText n ++ '\n' :: rest) = some (.integer n, '\n' :: rest) := by
  apply value?_word ?_ (word?_naturalText h)
  intro c hc
  have hdigit := Nat.isDigit_of_mem_toDigits (by decide) (by decide) hc
  simp only [isWordChar, Char.isAlphanum, hdigit, Bool.or_true, Bool.true_or]

/-! ## Truth values -/

theorem value?_booleanText (b : Bool) (fuel depth : Nat) (rest : List Char) :
    value? (fuel + 1) depth (booleanText b ++ '\n' :: rest) = some (.boolean b, '\n' :: rest) := by
  have hword : (booleanText b).all isWordChar = true := by cases b <;> decide
  apply value?_word (List.all_eq_true.1 hword)
  cases b <;> rfl

/-! ## Arrays -/

/-- Whether a character is left out between values. -/
def IsFiller (c : Char) : Prop := c = ' ' ∨ c = '\t' ∨ c = '#' ∨ c = '\n' ∨ c = '\r'

instance (c : Char) : Decidable (IsFiller c) := inferInstanceAs (Decidable (_ ∨ _))

theorem skipSpaces_of_not_filler {c : Char} (h : ¬IsFiller c) (cs : List Char) : skipSpaces (c :: cs) = c :: cs := by
  apply List.dropWhile_cons_of_neg
  rw [isSpace, Bool.or_eq_true, decide_eq_true_eq, decide_eq_true_eq]
  exact fun hc => h (hc.imp_right Or.inl)

theorem skipLines?_of_not_filler {c : Char} (h : ¬IsFiller c) (fuel : Nat) (cs : List Char) :
    skipLines? (fuel + 1) (c :: cs) = some (c :: cs) := by
  rw [skipLines?, skipSpaces_of_not_filler h]
  simp only [IsFiller, not_or] at h
  obtain ⟨-, -, hmark, hline, hreturn⟩ := h
  split
  · rename_i heq
    exact absurd (List.cons.inj heq).1 hmark
  · rename_i heq
    exact absurd (List.cons.inj heq).1 hline
  · rename_i heq
    exact absurd (List.cons.inj heq).1 hreturn
  · rfl

theorem skipLines?_space (fuel : Nat) (cs : List Char) : skipLines? fuel (' ' :: cs) = skipLines? fuel cs := by
  cases fuel with
  | zero => rfl
  | succ fuel => rfl

theorem skipLines?_line (fuel : Nat) (cs : List Char) : skipLines? (fuel + 1) ('\n' :: cs) = skipLines? fuel cs := rfl

theorem elements?_space (fuel depth : Nat) (cs : List Char) :
    elements? fuel depth (' ' :: cs) = elements? fuel depth cs := by
  cases fuel with
  | zero => rfl
  | succ fuel => simp only [elements?, skipLines?_space]

theorem elements?_end (fuel depth : Nat) (rest : List Char) :
    elements? (fuel + 2) depth (']' :: rest) = some ([], rest) := by
  rw [elements?, skipLines?_of_not_filler (by decide)]
  rfl

theorem skipLines?_quoted (s : String) (fuel : Nat) (rest : List Char) :
    skipLines? (fuel + 1) (quoted s ++ rest) = some (quoted s ++ rest) :=
  skipLines?_of_not_filler (by decide) fuel _

/-- The string before the bracket. -/
theorem elements?_last (s : String) (fuel depth : Nat) (rest : List Char) :
    elements? (fuel + 2) depth (quoted s ++ ']' :: rest) = some ([.string s], rest) := by
  have hvalue : value? (fuel + 1) depth (quoted s ++ ']' :: rest) = some (.string s, ']' :: rest) := by
    apply value?_quoted
    exact fun other heq => absurd (List.cons.inj heq).1 (by decide)
  have hclose := skipLines?_of_not_filler (show ¬IsFiller ']' by decide) fuel rest
  rw [elements?, skipLines?_quoted]
  simp only [Option.bind_eq_bind, Option.bind_some]
  split
  · rename_i heq
    exact absurd (List.cons.inj heq).1 (by decide)
  · simp only [hvalue, Option.bind_some, hclose]
    rfl

/-- A string before a comma. -/
theorem elements?_next (s : String) (fuel depth : Nat) (cs : List Char) :
    elements? (fuel + 2) depth (quoted s ++ ',' :: ' ' :: cs) =
      (elements? (fuel + 1) depth cs).map fun r => (.string s :: r.1, r.2) := by
  have hvalue : value? (fuel + 1) depth (quoted s ++ ',' :: ' ' :: cs) = some (.string s, ',' :: ' ' :: cs) := by
    apply value?_quoted
    exact fun other heq => absurd (List.cons.inj heq).1 (by decide)
  have hcomma := skipLines?_of_not_filler (show ¬IsFiller ',' by decide) fuel (' ' :: cs)
  rw [elements?, skipLines?_quoted]
  simp only [Option.bind_eq_bind, Option.bind_some]
  split
  · rename_i heq
    exact absurd (List.cons.inj heq).1 (by decide)
  · simp only [hvalue, Option.bind_some, hcomma, elements?_space]
    cases elements? (fuel + 1) depth cs <;> rfl

/-- Strings with commas between them are read as they were. -/
theorem elements?_separated (ss : List String) {fuel : Nat} (h : ss.length + 1 < fuel) (depth : Nat)
    (rest : List Char) : elements? fuel depth (separated (ss.map quoted) ++ ']' :: rest) = some (ss.map .string, rest) := by
  induction ss generalizing fuel with
  | nil =>
    obtain ⟨fuel, rfl⟩ : ∃ n, fuel = n + 2 := ⟨fuel - 2, by rw [List.length_nil] at h; omega⟩
    exact elements?_end fuel depth rest
  | cons s ss ih =>
    rw [List.length_cons] at h
    obtain ⟨fuel, rfl⟩ : ∃ n, fuel = n + 2 := ⟨fuel - 2, by omega⟩
    cases ss with
    | nil => exact elements?_last s fuel depth rest
    | cons next ss =>
      have hrest := @ih (fuel + 1) (by omega)
      rw [List.map_cons, List.map_cons, separated, ← List.map_cons, List.append_assoc, List.append_assoc]
      · exact (elements?_next s fuel depth _).trans (congrArg (Option.map _) hrest)
      · exact nofun

theorem length_le_length_separated {parts : List (List Char)} (h : ∀ part ∈ parts, part ≠ []) :
    parts.length ≤ (separated parts).length := by
  induction parts with
  | nil => exact Nat.le_refl 0
  | cons part rest ih =>
    have hpart := List.length_pos_iff.2 (h part List.mem_cons_self)
    have hrest := ih fun other ho => h other (List.mem_cons_of_mem _ ho)
    cases rest with
    | nil => exact hpart
    | cons next rest =>
      rw [separated, List.length_append, List.length_append, List.length_cons]
      · omega
      · exact nofun

theorem length_le_length_stringsText (ss : List String) : ss.length ≤ (stringsText ss).length := by
  have hparts : ∀ part ∈ ss.map quoted, part ≠ [] := by
    intro part hpart
    obtain ⟨s, -, rfl⟩ := List.mem_map.1 hpart
    exact List.cons_ne_nil _ _
  have hlength := length_le_length_separated hparts
  rw [List.length_map] at hlength
  rw [stringsText, List.length_append, List.length_cons]
  omega

theorem value?_stringsText (ss : List String) {fuel : Nat} (h : ss.length + 2 < fuel) (depth : Nat) (rest : List Char) :
    value? fuel (depth + 1) (stringsText ss ++ rest) = some (.array (ss.map .string), rest) := by
  obtain ⟨fuel, rfl⟩ : ∃ n, fuel = n + 1 := ⟨fuel - 1, by omega⟩
  rw [stringsText, List.append_assoc, List.cons_append, value?, List.singleton_append,
    elements?_separated ss (by omega) depth rest]
  rfl

end TransferRegistry.Toml
