import TransferRegistry.Proofs.Toml.Value

/-!
# TOML documents that were written

* `key?_bare`: a key without quotes is read as it was.
* `Reads`: a text at the end of a line is read as a value; `ReadsLine`: a line is read as a statement.
  `readsLine_assignment` and `readsLine_heading` are the lines that are written.
* `statements?_lines`: a document of such lines is read as their statements.
-/

namespace TransferRegistry.Toml

/-! ## Keys -/

/-- A key that needs no quotes. -/
def IsKey (key : String) : Prop := key.toList ≠ [] ∧ ∀ c ∈ key.toList, isBare c = true

instance (key : String) : Decidable (IsKey key) :=
  decidable_of_iff (key.toList ≠ [] ∧ key.toList.all isBare = true) (and_congr_right fun _ => List.all_eq_true)

theorem not_filler_of_isBare {c : Char} (h : isBare c = true) : ¬IsFiller c := by
  rintro (rfl | rfl | rfl | rfl | rfl) <;> exact absurd h (by decide)

theorem IsKey.eq_cons {key : String} (h : IsKey key) : ∃ c cs, key.toList = c :: cs ∧ isBare c = true := by
  obtain ⟨hne, hbare⟩ := h
  cases hkey : key.toList with
  | nil => exact absurd hkey hne
  | cons c cs => exact ⟨c, cs, rfl, hbare c (hkey ▸ List.mem_cons_self)⟩

theorem skipSpaces_key {key : String} (h : IsKey key) (rest : List Char) :
    skipSpaces (key.toList ++ rest) = key.toList ++ rest := by
  obtain ⟨c, cs, hkey, hc⟩ := h.eq_cons
  rw [hkey]
  exact skipSpaces_of_not_filler (not_filler_of_isBare hc) _

theorem simpleKey?_bare {key : String} (h : IsKey key) {rest : List Char} (hrest : ∀ c ∈ rest.head?, isBare c = false) :
    simpleKey? (key.toList ++ rest) = some (key, rest) := by
  obtain ⟨c, cs, hkey, hc⟩ := h.eq_cons
  have hspan : (key.toList ++ rest).span isBare = (key.toList, rest) := by
    rw [List.span_eq_takeWhile_dropWhile, List.takeWhile_append_of_pos h.2, List.dropWhile_append_of_pos h.2]
    cases rest with
    | nil => simp
    | cons d rest => simp [hrest d rfl]
  have hquote : c ≠ '"' := by
    rintro rfl
    exact absurd hc (by decide)
  have hsingle : c ≠ '\'' := by
    rintro rfl
    exact absurd hc (by decide)
  unfold simpleKey?
  split
  · rename_i heq
    rw [hkey] at heq
    exact absurd (List.cons.inj heq).1 hquote
  · rename_i heq
    rw [hkey] at heq
    exact absurd (List.cons.inj heq).1 hsingle
  · rw [hspan]
    split
    · rename_i heq
      exact absurd (Prod.mk.inj heq).1 h.1
    · rename_i heq
      obtain ⟨rfl, rfl⟩ := Prod.mk.inj heq
      rw [String.ofList_toList]

/-- A key that no other one follows. -/
theorem key?_bare {key : String} (h : IsKey key) {rest : List Char} (hrest : ∀ c ∈ rest.head?, isBare c = false)
    (hpoint : ∀ other, skipSpaces rest ≠ '.' :: other) (fuel : Nat) :
    key? (fuel + 1) (key.toList ++ rest) = some (([], key), skipSpaces rest) := by
  have hdotted : dottedKey? (fuel + 1) (key.toList ++ rest) = some (([], key), skipSpaces rest) := by
    rw [dottedKey?, skipSpaces_key h, simpleKey?_bare h hrest]
    simp only [Option.bind_eq_bind, Option.bind_some]
    rfl
  rw [key?, hdotted]
  rfl

theorem key?_assigned {key : String} (h : IsKey key) (fuel : Nat) (cs : List Char) :
    key? (fuel + 1) (key.toList ++ ' ' :: '=' :: cs) = some (([], key), '=' :: cs) := by
  apply key?_bare h
  · intro c hc
    obtain rfl := Option.some.inj hc
    decide
  · exact fun other heq => absurd (List.cons.inj heq).1 (by decide)

theorem key?_bracketed {key : String} (h : IsKey key) (fuel : Nat) (cs : List Char) :
    key? (fuel + 1) (key.toList ++ ']' :: cs) = some (([], key), ']' :: cs) := by
  apply key?_bare h
  · intro c hc
    obtain rfl := Option.some.inj hc
    decide
  · exact fun other heq => absurd (List.cons.inj heq).1 (by decide)

/-! ## Statements -/

/-- At the end of a line a text is read as a value. -/
structure Reads (fuel : Nat) (text : List Char) (v : Toml) : Prop where
  starts : ∃ c cs, text = c :: cs ∧ ¬IsFiller c
  value : ∀ rest, value? fuel greatestDepth (text ++ '\n' :: rest) = some (v, '\n' :: rest)

theorem reads_quoted (s : String) (fuel : Nat) : Reads (fuel + 1) (quoted s) (.string s) where
  starts := ⟨'"', _, rfl, by decide⟩
  value rest := by
    apply value?_quoted
    exact fun other heq => absurd (List.cons.inj heq).1 (by decide)

theorem reads_naturalText {n : Nat} (h : n < UInt64.size) (fuel : Nat) : Reads (fuel + 1) (naturalText n) (.integer n) where
  starts := by
    obtain ⟨d, cs, hcs, -⟩ := naturalText_cons n
    have hdigit : ∀ d : Json.Digit, ¬IsFiller (Nat.digitChar d.val) := by decide
    exact ⟨_, cs, hcs, hdigit d⟩
  value := value?_naturalText h fuel greatestDepth

theorem reads_booleanText (b : Bool) (fuel : Nat) : Reads (fuel + 1) (booleanText b) (.boolean b) where
  starts := by
    cases b with
    | false => exact ⟨'f', _, rfl, by decide⟩
    | true => exact ⟨'t', _, rfl, by decide⟩
  value := value?_booleanText b fuel greatestDepth

theorem reads_stringsText (ss : List String) {fuel : Nat} (h : ss.length + 2 < fuel) :
    Reads fuel (stringsText ss) (.array (ss.map .string)) where
  starts := ⟨'[', _, rfl, by decide⟩
  value rest := value?_stringsText ss h _ _

theorem statement?_assignment {fuel : Nat} {key : String} {text : List Char} {v : Toml} (hkey : IsKey key)
    (h : Reads (fuel + 1) text v) (rest : List Char) :
    statement? (fuel + 1) (assignment key text ++ rest) = some (.assignment [] key v, '\n' :: rest) := by
  obtain ⟨c, cs, hcons, hc⟩ := hkey.eq_cons
  obtain ⟨d, ds, htext, hd⟩ := h.starts
  have hchars : assignment key text ++ rest = key.toList ++ ' ' :: '=' :: ' ' :: (text ++ '\n' :: rest) := by
    simp [assignment]
  have hbracket : c ≠ '[' := by
    rintro rfl
    exact absurd hc (by decide)
  have hspaces : skipSpaces (' ' :: (text ++ '\n' :: rest)) = text ++ '\n' :: rest := by
    rw [htext]
    exact skipSpaces_of_not_filler hd _
  have hread := key?_assigned hkey fuel (' ' :: (text ++ '\n' :: rest))
  rw [hchars]
  rw [hcons, List.cons_append] at hread ⊢
  rw [statement?, hread]
  · simp only [Option.bind_eq_bind, Option.bind_some, hspaces, h.value]
    rfl
  · exact fun rest heq => hbracket (List.cons.inj heq).1
  · exact fun rest heq => hbracket (List.cons.inj heq).1

theorem statement?_heading {key : String} (hkey : IsKey key) (fuel : Nat) (rest : List Char) :
    statement? (fuel + 1) ('[' :: (key.toList ++ ']' :: rest)) = some (.header [] key, rest) := by
  obtain ⟨c, cs, hcons, hc⟩ := hkey.eq_cons
  have hbracket : c ≠ '[' := by
    rintro rfl
    exact absurd hc (by decide)
  have hread := key?_bracketed hkey fuel rest
  rw [hcons, List.cons_append] at hread ⊢
  rw [statement?, hread]
  · rfl
  · exact fun other heq => absurd (List.cons.inj heq).1 hbracket

/-! ## Lines -/

/-- A line is read as a statement. -/
def ReadsLine (least : Nat) (text : List Char) (s : Statement) : Prop :=
  ∀ fuel rest, least ≤ fuel → statements? (fuel + 1) (text ++ rest) = (statements? fuel rest).map (s :: ·)

/-- A statement that a line break follows. -/
theorem statements?_cons {fuel : Nat} {cs others rest : List Char} {c : Char} {s : Statement}
    (hskip : skipLines? (fuel + 1) cs = some (c :: others))
    (h : statement? fuel (c :: others) = some (s, '\n' :: rest)) :
    statements? (fuel + 1) cs = (statements? fuel rest).map (s :: ·) := by
  have hfinish : finishLine? ('\n' :: rest) = some rest := rfl
  rw [statements?, hskip]
  simp only [Option.bind_eq_bind, Option.bind_some, h, hfinish]
  cases statements? fuel rest <;> rfl

theorem readsLine_assignment {least : Nat} {key : String} {text : List Char} {v : Toml} (hkey : IsKey key)
    (h : ∀ fuel, least ≤ fuel → Reads (fuel + 1) text v) :
    ReadsLine (least + 1) (assignment key text) (.assignment [] key v) := by
  intro fuel rest hfuel
  obtain ⟨fuel, rfl⟩ : ∃ n, fuel = n + 1 := ⟨fuel - 1, by omega⟩
  obtain ⟨c, cs, hcons, hc⟩ := hkey.eq_cons
  have hstatement := statement?_assignment hkey (h fuel (by omega)) rest
  have hchars : assignment key text ++ rest = c :: (cs ++ [' ', '=', ' '] ++ text ++ ['\n'] ++ rest) := by
    rw [assignment, hcons]
    rfl
  rw [hchars] at hstatement ⊢
  exact statements?_cons (skipLines?_of_not_filler (not_filler_of_isBare hc) _ _) hstatement

theorem readsLine_heading {key : String} (hkey : IsKey key) : ReadsLine 1 (heading key) (.header [] key) := by
  intro fuel rest hfuel
  obtain ⟨fuel, rfl⟩ : ∃ n, fuel = n + 1 := ⟨fuel - 1, by omega⟩
  have hchars : heading key ++ rest = '\n' :: '[' :: (key.toList ++ ']' :: '\n' :: rest) := by simp [heading]
  have hskip : skipLines? (fuel + 2) ('\n' :: '[' :: (key.toList ++ ']' :: '\n' :: rest)) =
      some ('[' :: (key.toList ++ ']' :: '\n' :: rest)) :=
    (skipLines?_line _ _).trans (skipLines?_of_not_filler (by decide) fuel _)
  rw [hchars]
  exact statements?_cons hskip (statement?_heading hkey fuel _)

theorem ReadsLine.mono {least other : Nat} {text : List Char} {s : Statement} (h : ReadsLine least text s)
    (hle : least ≤ other) : ReadsLine other text s :=
  fun fuel rest hfuel => h fuel rest (Nat.le_trans hle hfuel)

/-- Lines one after the other are read as their statements. -/
theorem statements?_lines {least : Nat} (lines : List (List Char × Statement))
    (h : ∀ line ∈ lines, ReadsLine least line.1 line.2) {fuel : Nat} (hfuel : least + lines.length ≤ fuel) :
    statements? (fuel + 1) (lines.flatMap (·.1)) = some (lines.map (·.2)) := by
  induction lines generalizing fuel with
  | nil => rfl
  | cons line lines ih =>
    rw [List.length_cons] at hfuel
    obtain ⟨fuel, rfl⟩ : ∃ n, fuel = n + 1 := ⟨fuel - 1, by omega⟩
    rw [List.flatMap_cons, h line List.mem_cons_self (fuel + 1) _ (by omega),
      ih (fun other ho => h other (List.mem_cons_of_mem _ ho)) (by omega)]
    rfl

end TransferRegistry.Toml
