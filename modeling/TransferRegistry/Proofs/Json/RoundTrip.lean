import TransferRegistry.Proofs.Json.Number

/-!
# Reading values that were written

* `pieces?_escape`: an escaped character is one piece; `string?_stringChars`: a string is read as it was.
* `Proper`: every number in the value has a digit after its point, if it has a point.
* `Layout.Blank`: a layout puts nothing but blanks between the parts.
* `ReadsBack`: a value is read as it was. There is a lemma for each way to make one (`readsBack_num`, `readsBack_arr` and so
  on), of which `Proper.readsBack` is made; `parse?_compact` and `parse?_pretty` are on whole texts.
-/

namespace TransferRegistry.Json

open Text (hexDigit hexValue?_hexDigit)

/-! ## Strings -/

theorem pieces?_plain {c : Char} (hquote : c ≠ '"') (hslash : c ≠ '\\') (hc : ¬c.toNat < 0x20) (s : List Char) :
    pieces? (c :: s) = (pieces? s).map fun p => (.char c :: p.1, p.2) := by
  rw [pieces?.eq_def]
  split
  · rename_i heq
    exact absurd (List.cons.inj heq).1 hquote
  · rename_i heq
    exact absurd (List.cons.inj heq).1 hslash
  · rename_i heq
    exact absurd (List.cons.inj heq).1 hslash
  · rename_i heq
    obtain ⟨rfl, rfl⟩ := List.cons.inj heq
    rw [if_neg hc]
    cases pieces? _ <;> rfl
  · rename_i heq
    cases heq

theorem pieces?_unit {n : Nat} (hn : n < 0x20) (s : List Char) :
    pieces? ('\\' :: 'u' :: '0' :: '0' :: hexDigit (n / 16) :: hexDigit (n % 16) :: s) =
      (pieces? s).map fun p => (.char (Char.ofNat n) :: p.1, p.2) := by
  have hunit : hexUnit? '0' '0' (hexDigit (n / 16)) (hexDigit (n % 16)) = some n := by
    have hzero : Text.hexValue? '0' = some 0 := by decide
    have hvalue : ((0 * 16 + 0) * 16 + n / 16) * 16 + n % 16 = n := by omega
    simp only [hexUnit?, hzero, hexValue?_hexDigit (show n / 16 < 16 by omega),
      hexValue?_hexDigit (show n % 16 < 16 by omega), Option.bind_eq_bind, Option.bind_some, Option.pure_def, hvalue]
  have hpiece : Piece.ofUnit n = .char (Char.ofNat n) := by
    rw [Piece.ofUnit, if_neg (by omega), if_neg (by omega)]
  rw [pieces?, hunit]
  simp only [Option.bind_eq_bind, Option.bind_some, hpiece]
  cases pieces? s <;> rfl

theorem pieces?_short {e c : Char} (he : shortEscape? e = some c) (hu : e ≠ 'u') (s : List Char) :
    pieces? ('\\' :: e :: s) = (pieces? s).map fun p => (.char c :: p.1, p.2) := by
  rw [pieces?.eq_def]
  split
  · rename_i heq
    cases heq
  · rename_i heq
    exact absurd (List.cons.inj (List.cons.inj heq).2).1 hu
  · rename_i heq
    obtain ⟨rfl, rfl⟩ := List.cons.inj (List.cons.inj heq).2
    rw [he]
    cases pieces? _ <;> rfl
  · rename_i hother heq
    obtain ⟨rfl, rfl⟩ := List.cons.inj heq
    exact absurd rfl (hother e s rfl)
  · rename_i heq
    cases heq

theorem pieces?_escape (c : Char) (s : List Char) :
    pieces? (escape c ++ s) = (pieces? s).map fun p => (.char c :: p.1, p.2) := by
  unfold escape
  split
  · exact pieces?_short rfl (by decide) s
  · exact pieces?_short rfl (by decide) s
  · exact pieces?_short rfl (by decide) s
  · exact pieces?_short rfl (by decide) s
  · exact pieces?_short rfl (by decide) s
  · exact pieces?_short rfl (by decide) s
  · exact pieces?_short rfl (by decide) s
  · rename_i hquote hslash _ _ _ _ _
    split
    · rename_i hc
      have h := pieces?_unit hc s
      rwa [Char.ofNat_toNat] at h
    · rename_i hc
      exact pieces?_plain hquote hslash hc s

theorem pieces?_escaped (cs rest : List Char) :
    pieces? (cs.flatMap escape ++ '"' :: rest) = some (cs.map .char, rest) := by
  induction cs with
  | nil => rfl
  | cons c cs ih =>
    rw [List.flatMap_cons, List.append_assoc, pieces?_escape, ih]
    rfl

theorem joinPieces?_chars (cs : List Char) : joinPieces? (cs.map .char) = some cs := by
  induction cs with
  | nil => rfl
  | cons c cs ih => rw [List.map_cons, joinPieces?, ih, Option.map_some]

theorem string?_stringChars (s : Json.Text) : ∃ cs, stringChars s = '"' :: cs ∧
    ∀ rest, string? (cs ++ rest) = some (s, rest) := by
  cases s with
  | none => exact ⟨_, rfl, fun rest => rfl⟩
  | some s =>
    refine ⟨s.toList.flatMap escape ++ ['"'], rfl, fun rest => ?_⟩
    rw [List.append_assoc, List.singleton_append, string?, pieces?_escaped]
    simp only [Option.bind_eq_bind, Option.bind_some, joinPieces?_chars, Option.map_some, String.ofList_toList,
      Option.pure_def]

/-! ## Blanks -/

/-- The characters between the parts of a value. -/
def IsBlank (c : Char) : Prop := c = ' ' ∨ c = '\t' ∨ c = '\n' ∨ c = '\r'

instance (c : Char) : Decidable (IsBlank c) :=
  inferInstanceAs (Decidable (c = ' ' ∨ c = '\t' ∨ c = '\n' ∨ c = '\r'))

theorem skipBlanks_of_blank {c : Char} (h : IsBlank c) (s : List Char) : skipBlanks (c :: s) = skipBlanks s := if_pos h

theorem skipBlanks_cons {c : Char} (h : ¬IsBlank c) (s : List Char) : skipBlanks (c :: s) = c :: s := if_neg h

theorem skipBlanks_append {blanks : List Char} (h : ∀ c ∈ blanks, IsBlank c) (s : List Char) :
    skipBlanks (blanks ++ s) = skipBlanks s := by
  induction blanks with
  | nil => rfl
  | cons c blanks ih =>
    rw [List.cons_append, skipBlanks_of_blank (h c List.mem_cons_self)]
    exact ih fun d hd => h d (List.mem_cons_of_mem _ hd)

/-- A layout that puts nothing but blanks between the parts, and a colon before those of a member. -/
structure Layout.Blank (layout : Layout) : Prop where
  line : ∀ depth, ∀ c ∈ layout.line depth, IsBlank c
  colon : ∃ blanks, layout.colon = ':' :: blanks ∧ ∀ c ∈ blanks, IsBlank c

theorem Layout.blank_compact : Layout.compact.Blank where
  line _ _ hc := absurd hc List.not_mem_nil
  colon := ⟨[], rfl, fun _ hc => absurd hc List.not_mem_nil⟩

theorem Layout.blank_pretty : Layout.pretty.Blank where
  line depth c hc := by
    rcases List.mem_cons.1 hc with rfl | hc
    · exact Or.inr (Or.inr (Or.inl rfl))
    · exact Or.inl (List.eq_of_mem_replicate hc)
  colon := ⟨[' '], rfl, fun c hc => Or.inl (List.mem_singleton.1 hc)⟩

/-! ## Values -/

/-- Every number in the value has a digit after its point, if it has a point. -/
inductive Proper : Json → Prop where
  | null : Proper .null
  | bool (b : Bool) : Proper (.bool b)
  | num {n : Number} (h : n.fraction ≠ some []) : Proper (.num n)
  | str (s : Json.Text) : Proper (.str s)
  | arr {es : List Json} (h : ∀ e ∈ es, Proper e) : Proper (.arr es)
  | obj {ms : List (Json.Text × Json)} (h : ∀ m ∈ ms, Proper m.2) : Proper (.obj ms)

/-! ### One step of the reader -/

theorem value?_blanks {blanks : List Char} (h : ∀ c ∈ blanks, IsBlank c) (fuel : Nat) (s : List Char) :
    value? fuel (blanks ++ s) = value? fuel s := by
  cases fuel with
  | zero => rfl
  | succ fuel => rw [value?, value?, skipBlanks_append h]

theorem elements?_blanks {blanks : List Char} (h : ∀ c ∈ blanks, IsBlank c) (fuel : Nat) (s : List Char) :
    elements? fuel (blanks ++ s) = elements? fuel s := by
  cases fuel with
  | zero => rfl
  | succ fuel => rw [elements?, elements?, value?_blanks h]

theorem members?_blanks {blanks : List Char} (h : ∀ c ∈ blanks, IsBlank c) (fuel : Nat) (s : List Char) :
    members? fuel (blanks ++ s) = members? fuel s := by
  cases fuel with
  | zero => rfl
  | succ fuel => rw [members?, members?, skipBlanks_append h]

/-- The first character of a number. -/
def IsNumberStart (c : Char) : Prop := c = '-' ∨ ∃ d : Digit, c = Nat.digitChar d.val

theorem IsNumberStart.ne {c other : Char} (h : IsNumberStart c) (hminus : '-' ≠ other)
    (hdigits : ∀ d : Digit, Nat.digitChar d.val ≠ other) : c ≠ other := by
  rcases h with rfl | ⟨d, rfl⟩
  · exact hminus
  · exact hdigits d

theorem IsNumberStart.not_blank {c : Char} (h : IsNumberStart c) : ¬IsBlank c := by
  rcases h with rfl | ⟨d, rfl⟩
  · decide
  · have all : ∀ d : Digit, ¬IsBlank (Nat.digitChar d.val) := by decide
    exact all d

theorem numberChars_cons (n : Number) : ∃ c cs, numberChars n = c :: cs ∧ IsNumberStart c := by
  rw [numberChars_eq]
  cases n.negative with
  | true => exact ⟨_, _, rfl, Or.inl rfl⟩
  | false =>
    obtain ⟨d, cs, hcs⟩ := natChars_cons n.whole
    rw [hcs]
    exact ⟨_, _, rfl, Or.inr ⟨d, rfl⟩⟩

theorem value?_number {c : Char} (hc : IsNumberStart c) (fuel : Nat) (s : List Char) :
    value? (fuel + 1) (c :: s) = (number? (c :: s)).map fun p => (.num p.1, p.2) := by
  rw [value?, skipBlanks_cons hc.not_blank]
  split
  · rename_i heq
    exact absurd (List.cons.inj heq).1 (hc.ne (by decide) (by decide))
  · rename_i heq
    exact absurd (List.cons.inj heq).1 (hc.ne (by decide) (by decide))
  · rename_i heq
    exact absurd (List.cons.inj heq).1 (hc.ne (by decide) (by decide))
  · rename_i heq
    exact absurd (List.cons.inj heq).1 (hc.ne (by decide) (by decide))
  · rename_i heq
    exact absurd (List.cons.inj heq).1 (hc.ne (by decide) (by decide))
  · rename_i heq
    exact absurd (List.cons.inj heq).1 (hc.ne (by decide) (by decide))
  · rfl

theorem value?_array {c : Char} (hc : ¬IsBlank c) (hclose : c ≠ ']') {blanks : List Char}
    (h : ∀ c ∈ blanks, IsBlank c) (fuel : Nat) (s : List Char) :
    value? (fuel + 1) ('[' :: (blanks ++ c :: s)) =
      (elements? fuel (c :: s)).map fun p => (.arr p.1, p.2) := by
  rw [value?, skipBlanks_cons (by decide)]
  simp only [skipBlanks_append h, skipBlanks_cons hc]
  split
  · rename_i heq
    exact absurd (List.cons.inj heq).1 hclose
  · rfl

theorem value?_object {blanks : List Char} (h : ∀ c ∈ blanks, IsBlank c) (fuel : Nat) (s : List Char) :
    value? (fuel + 1) ('\x7b' :: (blanks ++ '"' :: s)) =
      (members? fuel ('"' :: s)).map fun p => (.obj p.1, p.2) := by
  rw [value?, skipBlanks_cons (by decide)]
  simp only [skipBlanks_append h, skipBlanks_cons (show ¬IsBlank '"' by decide)]
  rfl

/-! ### Whole values -/

variable {layout : Layout}

/-- The characters of a value, with anything after them that ends a number, are read as the value. -/
def ReadsBack (layout : Layout) (v : Json) : Prop :=
  ∀ (depth fuel : Nat) (rest : List Char), (chars layout depth v).length ≤ fuel → Ends rest →
    value? fuel (chars layout depth v ++ rest) = some (v, rest)

/-- The first character of a value is no blank and no closing bracket. -/
theorem chars_cons (layout : Layout) (depth : Nat) (v : Json) :
    ∃ c cs, chars layout depth v = c :: cs ∧ ¬IsBlank c ∧ c ≠ ']' := by
  have hbracketed : ∀ (opening closing : Char) (parts : List (List Char)),
      ∃ cs, layout.bracketed depth opening closing parts = opening :: cs := fun _ _ parts => by
    rw [Layout.bracketed]
    split <;> exact ⟨_, rfl⟩
  cases v with
  | null => exact ⟨'n', _, rfl, by decide, by decide⟩
  | bool b => cases b <;> exact ⟨_, _, rfl, by decide, by decide⟩
  | num n =>
    obtain ⟨c, cs, hcs, hc⟩ := numberChars_cons n
    exact ⟨c, cs, by rw [chars, hcs], hc.not_blank, hc.ne (by decide) (by decide)⟩
  | str s =>
    obtain ⟨cs, hcs, -⟩ := string?_stringChars s
    exact ⟨'"', cs, by rw [chars, hcs], by decide, by decide⟩
  | arr es =>
    obtain ⟨cs, hcs⟩ := hbracketed '[' ']' (elementChars layout (depth + 1) es)
    exact ⟨'[', cs, by rw [chars, hcs], by decide, by decide⟩
  | obj ms =>
    obtain ⟨cs, hcs⟩ := hbracketed '\x7b' '\x7d' (memberChars layout (depth + 1) ms)
    exact ⟨'\x7b', cs, by rw [chars, hcs], by decide, by decide⟩

theorem ends_cons {c : Char} (hc : digit? c = none ∧ c ≠ '.' ∧ c ≠ 'e' ∧ c ≠ 'E') (s : List Char) : Ends (c :: s) := by
  intro d hd
  obtain rfl : c = d := Option.some.inj hd
  exact hc

/-- What stands after a part of a value ends a number. -/
theorem ends_blanks {blanks : List Char} (h : ∀ c ∈ blanks, IsBlank c) {c : Char}
    (hc : digit? c = none ∧ c ≠ '.' ∧ c ≠ 'e' ∧ c ≠ 'E') (s : List Char) : Ends (blanks ++ c :: s) := by
  cases blanks with
  | nil => exact ends_cons hc s
  | cons b blanks =>
    refine ends_cons ?_ _
    rcases h b List.mem_cons_self with rfl | rfl | rfl | rfl <;> decide

theorem joined_cons (separator part : List Char) {parts : List (List Char)} (h : parts ≠ []) :
    joined separator (part :: parts) = part ++ (separator ++ joined separator parts) := by
  cases parts with
  | nil => exact absurd rfl h
  | cons second parts =>
    rw [joined, List.append_assoc]
    exact h

theorem joined_append (separator part : List Char) (parts : List (List Char)) :
    ∃ tail, joined separator (part :: parts) = part ++ tail := by
  cases parts with
  | nil => exact ⟨[], (List.append_nil part).symm⟩
  | cons second parts => exact ⟨_, joined_cons separator part (List.cons_ne_nil second parts)⟩

theorem elements?_chars (hl : layout.Blank) (depth : Nat) {closers : List Char} (hc : ∀ c ∈ closers, IsBlank c)
    (rest : List Char) {es : List Json} (hne : es ≠ []) (hes : ∀ e ∈ es, ReadsBack layout e) (fuel : Nat)
    (hfuel : (joined (',' :: layout.line depth) (elementChars layout depth es)).length < fuel) :
    elements? fuel (joined (',' :: layout.line depth) (elementChars layout depth es) ++ (closers ++ ']' :: rest)) =
      some (es, rest) := by
  induction es generalizing fuel with
  | nil => exact absurd rfl hne
  | cons e es ih =>
    obtain ⟨fuel, rfl⟩ := Nat.exists_eq_succ_of_ne_zero (Nat.ne_of_gt (Nat.zero_lt_of_lt hfuel))
    have he := hes e List.mem_cons_self
    by_cases hlast : es = []
    · subst hlast
      rw [elementChars, elementChars, joined] at hfuel ⊢
      have hread := he depth fuel (closers ++ ']' :: rest) (by omega) (ends_blanks hc (by decide) rest)
      rw [elements?, hread]
      simp only [Option.bind_eq_bind, Option.bind_some, skipBlanks_append hc,
        skipBlanks_cons (show ¬IsBlank ']' by decide), Option.pure_def]
    · have hparts : elementChars layout depth es ≠ [] := by
        cases es with
        | nil => exact absurd rfl hlast
        | cons second es => exact List.cons_ne_nil _ _
      rw [elementChars, joined_cons _ _ hparts] at hfuel ⊢
      simp only [List.length_append, List.length_cons] at hfuel
      have hread := he depth fuel
        (',' :: (layout.line depth ++ (joined (',' :: layout.line depth) (elementChars layout depth es) ++
          (closers ++ ']' :: rest)))) (by omega) (ends_cons (by decide) _)
      have hrest := ih hlast (fun e' h => hes e' (List.mem_cons_of_mem _ h)) fuel (by omega)
      simp only [List.append_assoc, List.cons_append]
      rw [elements?, hread]
      simp only [Option.bind_eq_bind, Option.bind_some, skipBlanks_cons (show ¬IsBlank ',' by decide),
        elements?_blanks (hl.line depth), hrest, Option.pure_def]

/-- The characters of a member, in front of what ends it. -/
theorem members?_chars (hl : layout.Blank) (depth : Nat) {closers : List Char} (hc : ∀ c ∈ closers, IsBlank c)
    (rest : List Char) {ms : List (Json.Text × Json)} (hne : ms ≠ []) (hms : ∀ m ∈ ms, ReadsBack layout m.2) (fuel : Nat)
    (hfuel : (joined (',' :: layout.line depth) (memberChars layout depth ms)).length < fuel) :
    members? fuel (joined (',' :: layout.line depth) (memberChars layout depth ms) ++ (closers ++ '\x7d' :: rest)) =
      some (ms, rest) := by
  obtain ⟨blanks, hcolon, hblanks⟩ := hl.colon
  induction ms generalizing fuel with
  | nil => exact absurd rfl hne
  | cons m ms ih =>
    obtain ⟨key, v⟩ := m
    obtain ⟨fuel, rfl⟩ := Nat.exists_eq_succ_of_ne_zero (Nat.ne_of_gt (Nat.zero_lt_of_lt hfuel))
    have hv : ReadsBack layout v := hms (key, v) List.mem_cons_self
    obtain ⟨cs, hcs, hkey⟩ := string?_stringChars key
    by_cases hlast : ms = []
    · subst hlast
      rw [memberChars, memberChars, joined] at hfuel ⊢
      simp only [hcs, hcolon, List.length_append, List.length_cons] at hfuel
      have hread := hv depth fuel (closers ++ '\x7d' :: rest) (by omega) (ends_blanks hc (by decide) rest)
      simp only [hcs, hcolon, List.append_assoc, List.cons_append]
      rw [members?, skipBlanks_cons (by decide)]
      simp only [hkey, Option.bind_eq_bind, Option.bind_some, skipBlanks_cons (show ¬IsBlank ':' by decide),
        value?_blanks hblanks, hread, skipBlanks_append hc, skipBlanks_cons (show ¬IsBlank '\x7d' by decide),
        Option.pure_def]
    · have hparts : memberChars layout depth ms ≠ [] := by
        cases ms with
        | nil => exact absurd rfl hlast
        | cons second ms => exact List.cons_ne_nil _ _
      rw [memberChars, joined_cons _ _ hparts] at hfuel ⊢
      simp only [hcs, hcolon, List.length_append, List.length_cons] at hfuel
      have hread := hv depth fuel
        (',' :: (layout.line depth ++ (joined (',' :: layout.line depth) (memberChars layout depth ms) ++
          (closers ++ '\x7d' :: rest)))) (by omega) (ends_cons (by decide) _)
      have hrest := ih hlast (fun m h => hms m (List.mem_cons_of_mem _ h)) fuel (by omega)
      simp only [hcs, hcolon, List.append_assoc, List.cons_append]
      rw [members?, skipBlanks_cons (by decide)]
      simp only [hkey, Option.bind_eq_bind, Option.bind_some, skipBlanks_cons (show ¬IsBlank ':' by decide),
        value?_blanks hblanks, hread, skipBlanks_cons (show ¬IsBlank ',' by decide),
        members?_blanks (hl.line depth), hrest, Option.pure_def]

theorem bracketed_of_ne_nil (layout : Layout) (depth : Nat) (opening closing : Char) {parts : List (List Char)}
    (h : parts ≠ []) :
    layout.bracketed depth opening closing parts = opening :: (layout.line (depth + 1) ++
      (joined (',' :: layout.line (depth + 1)) parts ++ (layout.line depth ++ [closing]))) := by
  have hempty : parts.isEmpty = false := by rwa [List.isEmpty_eq_false_iff]
  rw [Layout.bracketed, hempty]
  simp only [Bool.false_eq_true, if_false, List.cons_append, List.append_assoc]

/-- A value has a first character, so there is fuel to read it. -/
theorem readsBack_of_succ {v : Json} (h : ∀ (depth fuel : Nat) (rest : List Char),
    (chars layout depth v).length ≤ fuel + 1 → Ends rest →
      value? (fuel + 1) (chars layout depth v ++ rest) = some (v, rest)) : ReadsBack layout v := by
  intro depth fuel rest hfuel hrest
  cases fuel with
  | zero =>
    obtain ⟨c, cs, hcs, -⟩ := chars_cons layout depth v
    rw [hcs] at hfuel
    cases hfuel
  | succ fuel => exact h depth fuel rest hfuel hrest

theorem readsBack_null : ReadsBack layout .null := readsBack_of_succ fun _ _ _ _ _ => rfl

theorem readsBack_bool (b : Bool) : ReadsBack layout (.bool b) := by
  cases b <;> exact readsBack_of_succ fun _ _ _ _ _ => rfl

theorem readsBack_num {n : Number} (hn : n.fraction ≠ some []) : ReadsBack layout (.num n) := by
  refine readsBack_of_succ fun depth fuel rest _ hrest => ?_
  obtain ⟨c, cs, hcs, hc⟩ := numberChars_cons n
  have hread := number?_numberChars n hn hrest
  rw [hcs] at hread
  rw [chars, hcs, List.cons_append, value?_number hc, ← List.cons_append, hread, Option.map_some]

theorem readsBack_str (s : Json.Text) : ReadsBack layout (.str s) := by
  refine readsBack_of_succ fun depth fuel rest _ _ => ?_
  obtain ⟨cs, hcs, hread⟩ := string?_stringChars s
  rw [chars, hcs, List.cons_append, value?, skipBlanks_cons (by decide)]
  simp only [hread, Option.map_some]

theorem readsBack_arr (hl : layout.Blank) {es : List Json} (hes : ∀ e ∈ es, ReadsBack layout e) :
    ReadsBack layout (.arr es) := by
  refine readsBack_of_succ fun depth fuel rest hfuel _ => ?_
  cases es with
  | nil => rfl
  | cons e es =>
    have hparts : elementChars layout (depth + 1) (e :: es) ≠ [] := List.cons_ne_nil _ _
    rw [chars, bracketed_of_ne_nil _ _ _ _ hparts] at hfuel ⊢
    simp only [List.length_append, List.length_cons] at hfuel
    have hread := elements?_chars hl (depth + 1) (hl.line depth) rest (List.cons_ne_nil e es) hes fuel (by omega)
    -- the first element tells the list from an empty one
    obtain ⟨c, cs, hcs, hblank, hclose⟩ := chars_cons layout (depth + 1) e
    obtain ⟨tail, htail⟩ := joined_append (',' :: layout.line (depth + 1)) (chars layout (depth + 1) e)
      (elementChars layout (depth + 1) es)
    simp only [List.cons_append, List.append_assoc, List.nil_append]
    rw [elementChars, htail, hcs] at hread ⊢
    rw [List.cons_append, List.cons_append] at hread ⊢
    rw [value?_array hblank hclose (hl.line (depth + 1)), hread, Option.map_some]

theorem readsBack_obj (hl : layout.Blank) {ms : List (Json.Text × Json)} (hms : ∀ m ∈ ms, ReadsBack layout m.2) :
    ReadsBack layout (.obj ms) := by
  refine readsBack_of_succ fun depth fuel rest hfuel _ => ?_
  cases ms with
  | nil => rfl
  | cons m ms =>
    obtain ⟨key, v⟩ := m
    have hparts : memberChars layout (depth + 1) ((key, v) :: ms) ≠ [] := List.cons_ne_nil _ _
    rw [chars, bracketed_of_ne_nil _ _ _ _ hparts] at hfuel ⊢
    simp only [List.length_append, List.length_cons] at hfuel
    have hread := members?_chars hl (depth + 1) (hl.line depth) rest (List.cons_ne_nil (key, v) ms) hms fuel (by omega)
    obtain ⟨cs, hcs, -⟩ := string?_stringChars key
    obtain ⟨tail, htail⟩ := joined_append (',' :: layout.line (depth + 1))
      (stringChars key ++ layout.colon ++ chars layout (depth + 1) v) (memberChars layout (depth + 1) ms)
    simp only [List.cons_append, List.append_assoc, List.nil_append]
    rw [memberChars, htail, hcs] at hread ⊢
    simp only [List.cons_append] at hread ⊢
    rw [value?_object (hl.line (depth + 1)), hread, Option.map_some]

theorem Proper.readsBack (hl : layout.Blank) {v : Json} (h : Proper v) : ReadsBack layout v := by
  induction h with
  | null => exact readsBack_null
  | bool b => exact readsBack_bool b
  | num hn => exact readsBack_num hn
  | str s => exact readsBack_str s
  | arr _ ih => exact readsBack_arr hl ih
  | obj _ ih => exact readsBack_obj hl ih

/-! ## Whole texts -/

theorem Proper.parse? {v : Json} (h : Proper v) (hl : layout.Blank) :
    parse? (String.ofList (chars layout 0 v)) = some v := by
  have hread := h.readsBack hl 0 ((chars layout 0 v).length + 1) [] (Nat.le_succ _) fun c hc => by cases hc
  rw [List.append_nil] at hread
  simp only [Json.parse?, String.toList_ofList, hread, Option.bind_eq_bind, Option.bind_some]
  rfl

theorem parse?_compact {v : Json} (h : Proper v) : Json.parse? v.compact = some v := h.parse? Layout.blank_compact

theorem parse?_pretty {v : Json} (h : Proper v) : Json.parse? v.pretty = some v := h.parse? Layout.blank_pretty

end TransferRegistry.Json
