import TransferRegistry.Proofs.Item.Codec

/-!
# The texts of ids

* `HasDigits`: a text of 64 bytes, each a hexadecimal digit of either case. `HasOffender`: a text of 64 bytes whose first
  byte that is no digit is the given one.
* `readPairs_of_digits`, `readPairs_of_offender`: pairs of digits are read up to the first byte that is none.
* `parse_of_digits`, `parse_of_offender`, `parse_of_odd`, `parse_of_length`: the four ways in which a text is read, one of
  which every text takes (`text_cases`).
* `sixtyFour_digits`: the text of an id is read as that id, and every text is read as `ReadsAsId` says, by itself and as a
  field of a record.
-/

namespace TransferRegistry.ItemId

open Crypto (Bytes)
open Json (fromJson?)
open Text (utf8 length_utf8 toList_of_ascii Hex.encode hexDigit hexByte hexValue?)

/-! ## Digits -/

/-- The code of a digit, of either case. -/
def IsHexDigit (b : UInt8) : Prop := (0x30 ≤ b ∧ b ≤ 0x39) ∨ (0x41 ≤ b ∧ b ≤ 0x46) ∨ (0x61 ≤ b ∧ b ≤ 0x66)

instance : DecidablePred IsHexDigit := fun _ => inferInstanceAs (Decidable (_ ∨ _))

/-- The digits in which ids are written. -/
def digits : List Char := "0123456789abcdef".toList

/-- The character of a byte, in lower case. -/
def lowerChar (b : UInt8) : Char := (Char.ofNat b.toNat).toLower

theorem IsHexDigit.ascii {b : UInt8} (h : IsHexDigit b) : b < 0x80 := by
  unfold IsHexDigit at h
  simp only [UInt8.le_iff_toNat_le, UInt8.lt_iff_toNat_lt, UInt8.reduceToNat] at h ⊢
  omega

theorem hexValue?_of_digit {b : UInt8} (h : IsHexDigit b) :
    ∃ n < 16, hexValue? (Char.ofNat b.toNat) = some n ∧ hexDigit n = lowerChar b := by
  have all : ∀ k < 256, IsHexDigit (UInt8.ofNat k) → ∃ n < 16,
      hexValue? (Char.ofNat (UInt8.ofNat k).toNat) = some n ∧ hexDigit n = lowerChar (UInt8.ofNat k) := by
    decide +kernel
  have hbyte := all b.toNat b.toNat_lt
  rw [UInt8.ofNat_toNat] at hbyte
  exact hbyte h

theorem hexValue?_of_not_digit {b : UInt8} (h : ¬IsHexDigit b) : hexValue? (Char.ofNat b.toNat) = none := by
  have all : ∀ k < 256, ¬IsHexDigit (UInt8.ofNat k) → hexValue? (Char.ofNat (UInt8.ofNat k).toNat) = none := by
    decide +kernel
  have hbyte := all b.toNat b.toNat_lt
  rw [UInt8.ofNat_toNat] at hbyte
  exact hbyte h

theorem digitAt_of_digit {b : UInt8} (h : IsHexDigit b) (offset : Nat) :
    ∃ n < 16, digitAt offset b = .ok n ∧ hexDigit n = lowerChar b := by
  obtain ⟨n, hn, hvalue, hdigit⟩ := hexValue?_of_digit h
  exact ⟨n, hn, by rw [digitAt, hvalue], hdigit⟩

theorem digitAt_of_not_digit {b : UInt8} (h : ¬IsHexDigit b) (offset : Nat) :
    digitAt offset b = .error (.badDigit b offset) := by
  rw [digitAt, hexValue?_of_not_digit h]

/-! ## Pairs of digits -/

/-- Two digits are one byte, which is written as the two in lower case. -/
theorem hexByte_pair {x y : Nat} (hx : x < 16) (hy : y < 16) :
    hexByte (UInt8.ofNat (16 * x + y)) = [hexDigit x, hexDigit y] := by
  have hbyte : (UInt8.ofNat (16 * x + y)).toNat = 16 * x + y := UInt8.toNat_ofNat_of_lt' (by show _ < 256; omega)
  rw [hexByte, hbyte, show (16 * x + y) / 16 = x by omega, show (16 * x + y) % 16 = y by omega]

theorem readPairs_of_digits (bytes : Bytes) (offset : Nat) (heven : bytes.length % 2 = 0)
    (h : ∀ b ∈ bytes, IsHexDigit b) :
    ∃ read, readPairs offset bytes = .ok read ∧ 2 * read.length = bytes.length ∧
      read.flatMap hexByte = bytes.map lowerChar := by
  match bytes with
  | [] => exact ⟨[], rfl, rfl, rfl⟩
  | [b] => exact absurd heven (by simp)
  | a :: b :: rest =>
    obtain ⟨x, hx, hdigit, hlower⟩ := digitAt_of_digit (h a (by simp)) offset
    obtain ⟨y, hy, hdigit', hlower'⟩ := digitAt_of_digit (h b (by simp)) (offset + 1)
    have hrest : ∀ c ∈ rest, IsHexDigit c := fun c hc => h c (by simp [hc])
    simp only [List.length_cons] at heven
    obtain ⟨read, hread, hlength, hwritten⟩ := readPairs_of_digits rest (offset + 2) (by omega) hrest
    refine ⟨UInt8.ofNat (16 * x + y) :: read, ?_, ?_, ?_⟩
    · rw [readPairs, hdigit, hdigit', hread]
      rfl
    · simp only [List.length_cons]
      omega
    · rw [List.flatMap_cons, hexByte_pair hx hy, hwritten, hlower, hlower']
      rfl

/-- The first byte that is no digit is told, with the number of bytes before it. -/
theorem readPairs_of_offender (before after : Bytes) {b : UInt8} (offset : Nat)
    (heven : (before ++ b :: after).length % 2 = 0) (hbefore : ∀ c ∈ before, IsHexDigit c) (hb : ¬IsHexDigit b) :
    readPairs offset (before ++ b :: after) = .error (.badDigit b (offset + before.length)) := by
  match before with
  | [] =>
    match after with
    | [] => exact absurd heven (by simp)
    | _ :: _ =>
      rw [List.nil_append, readPairs, digitAt_of_not_digit hb]
      rfl
  | [a] =>
    obtain ⟨x, -, hdigit, -⟩ := digitAt_of_digit (hbefore a (by simp)) offset
    rw [List.singleton_append, readPairs, hdigit, digitAt_of_not_digit hb]
    rfl
  | a :: c :: before =>
    obtain ⟨x, -, hdigit, -⟩ := digitAt_of_digit (hbefore a (by simp)) offset
    obtain ⟨y, -, hdigit', -⟩ := digitAt_of_digit (hbefore c (by simp)) (offset + 1)
    have hrest : ∀ d ∈ before, IsHexDigit d := fun d hd => hbefore d (by simp [hd])
    simp only [List.cons_append, List.length_cons] at heven
    have ih := readPairs_of_offender before after (offset + 2) (by omega) hrest hb
    rw [List.cons_append, List.cons_append, readPairs, hdigit, hdigit', ih,
      show offset + 2 + before.length = offset + (a :: c :: before).length by simp only [List.length_cons]; omega]
    rfl

/-! ## Texts -/

/-- A text of 64 bytes, each of them a digit. -/
def HasDigits (s : String) : Prop := s.utf8ByteSize = 64 ∧ ∀ b ∈ utf8 s, IsHexDigit b

/-- A text of 64 bytes, the first of which that is no digit comes after `offset` others. -/
def HasOffender (s : String) (b : UInt8) (offset : Nat) : Prop :=
  s.utf8ByteSize = 64 ∧ ∃ before after, utf8 s = before ++ b :: after ∧ before.length = offset ∧
    (∀ c ∈ before, IsHexDigit c) ∧ ¬IsHexDigit b

/-- Bytes that are digits all the way, or up to a first one that is none. -/
theorem digits_or_offender (bytes : Bytes) : (∀ b ∈ bytes, IsHexDigit b) ∨
    ∃ before b after, bytes = before ++ b :: after ∧ (∀ c ∈ before, IsHexDigit c) ∧ ¬IsHexDigit b := by
  induction bytes with
  | nil => exact Or.inl (List.forall_mem_nil _)
  | cons a rest ih =>
    by_cases ha : IsHexDigit a
    · rcases ih with hall | ⟨before, b, after, rfl, hbefore, hb⟩
      · exact Or.inl (List.forall_mem_cons.2 ⟨ha, hall⟩)
      · exact Or.inr ⟨a :: before, b, after, rfl, List.forall_mem_cons.2 ⟨ha, hbefore⟩, hb⟩
    · exact Or.inr ⟨[], a, rest, rfl, List.forall_mem_nil _, ha⟩

theorem text_cases (s : String) : s.utf8ByteSize % 2 = 1 ∨ (s.utf8ByteSize % 2 = 0 ∧ s.utf8ByteSize ≠ 64) ∨
    HasDigits s ∨ ∃ b offset, HasOffender s b offset := by
  by_cases hlength : s.utf8ByteSize = 64
  · rcases digits_or_offender (utf8 s) with hall | ⟨before, b, after, hs, hbefore, hb⟩
    · exact Or.inr (Or.inr (Or.inl ⟨hlength, hall⟩))
    · exact Or.inr (Or.inr (Or.inr ⟨b, before.length, hlength, before, after, hs, rfl, hbefore, hb⟩))
  · rcases Nat.mod_two_eq_zero_or_one s.utf8ByteSize with heven | hodd
    · exact Or.inr (Or.inl ⟨heven, hlength⟩)
    · exact Or.inl hodd

variable {s : String}

theorem parse_of_odd (h : s.utf8ByteSize % 2 = 1) : parse s = .error .oddLength := by
  rw [← length_utf8] at h
  simp only [parse, if_pos h]
  rfl

theorem parse_of_length (heven : s.utf8ByteSize % 2 = 0) (h : s.utf8ByteSize ≠ 64) :
    parse s = .error .wrongLength := by
  rw [← length_utf8] at heven h
  simp only [parse, if_neg (show ¬(utf8 s).length % 2 = 1 by omega), if_pos h]
  rfl

theorem parse_of_offender {b : UInt8} {offset : Nat} (h : HasOffender s b offset) :
    parse s = .error (.badDigit b offset) := by
  obtain ⟨hlength, before, after, hs, rfl, hbefore, hb⟩ := h
  have hread : readPairs 0 (utf8 s) = .error (.badDigit b (0 + before.length)) := by
    rw [← length_utf8] at hlength
    rw [hs] at hlength ⊢
    exact readPairs_of_offender before after 0 (by omega) hbefore hb
  rw [← length_utf8] at hlength
  simp only [parse, hlength, hread, Nat.zero_add]
  rfl

theorem parse_of_digits (h : HasDigits s) : ∃ id, parse s = .ok id ∧ id.text = s.toLower := by
  obtain ⟨hlength, hall⟩ := h
  rw [← length_utf8] at hlength
  obtain ⟨read, hread, hsize, hwritten⟩ := readPairs_of_digits (utf8 s) 0 (by omega) hall
  have hread' : read.toArray.size = 32 := by
    rw [List.size_toArray]
    omega
  refine ⟨⟨⟨read.toArray, hread'⟩⟩, ?_, ?_⟩
  · simp only [parse, hlength, hread, bind, Except.bind, dif_pos hread']
    rfl
  · have hascii : ∀ b ∈ utf8 s, b < 0x80 := fun b hb => (hall b hb).ascii
    apply String.toList_injective
    rw [text, Hex.encode, String.toList_ofList, String.toLower, String.toList_map, toList_of_ascii hascii, List.map_map]
    exact hwritten

/-! ## Written ids -/

theorem hexDigit_mem {n : Nat} (h : n < 16) : hexDigit n ∈ digits := by
  have all : ∀ m < 16, hexDigit m ∈ digits := by decide +kernel
  exact all n h

theorem mem_digits_of_mem_text {id : ItemId} {c : Char} (h : c ∈ id.text.toList) : c ∈ digits := by
  rw [text, Hex.encode, String.toList_ofList] at h
  obtain ⟨b, -, hc⟩ := List.mem_flatMap.1 h
  have hb := b.toNat_lt
  rw [hexByte, List.mem_pair] at hc
  rcases hc with rfl | rfl
  · exact hexDigit_mem (by omega)
  · exact hexDigit_mem (by omega)

theorem length_text (id : ItemId) : id.text.length = 64 := by
  have hpairs : ∀ bytes : Bytes, (bytes.flatMap hexByte).length = 2 * bytes.length := by
    intro bytes
    induction bytes with
    | nil => rfl
    | cons b bytes ih =>
      rw [List.flatMap_cons, List.length_append, ih]
      show 2 + _ = 2 * (_ + 1)
      omega
  rw [text, Hex.encode, String.length_ofList, hpairs, Vector.length_toList]

/-! ## Reading -/

/-- How a text is read as an id, by itself and as a field of a record. -/
structure ReadsAsId (s : String) : Prop where
  accepted : (∃ id, parse s = .ok id) ↔ HasDigits s
  /-- The id is written as the text in lower case. -/
  lower : ∀ id, parse s = .ok id → id.text = s.toLower
  odd : parse s = .error .oddLength ↔ s.utf8ByteSize % 2 = 1
  length : parse s = .error .wrongLength ↔ s.utf8ByteSize % 2 = 0 ∧ s.utf8ByteSize ≠ 64
  badDigit : ∀ b offset, parse s = .error (.badDigit b offset) ↔ HasOffender s b offset
  field : ∀ id, ofField s = .ok id ↔ parse s = .ok id
  record : ∀ id : ItemId, fromJson? (Json.ofString s) = some id ↔ parse s = .ok id

theorem parse_cases (s : String) :
    (parse s = .error .oddLength ∧ s.utf8ByteSize % 2 = 1) ∨
      (parse s = .error .wrongLength ∧ s.utf8ByteSize % 2 = 0 ∧ s.utf8ByteSize ≠ 64) ∨
      (∃ id, parse s = .ok id ∧ id.text = s.toLower ∧ HasDigits s) ∨
      ∃ b offset, parse s = .error (.badDigit b offset) ∧ HasOffender s b offset := by
  rcases text_cases s with hodd | ⟨heven, hlength⟩ | hdigits | ⟨b, offset, hoffender⟩
  · exact Or.inl ⟨parse_of_odd hodd, hodd⟩
  · exact Or.inr (Or.inl ⟨parse_of_length heven hlength, heven, hlength⟩)
  · obtain ⟨id, hparse, hlower⟩ := parse_of_digits hdigits
    exact Or.inr (Or.inr (Or.inl ⟨id, hparse, hlower, hdigits⟩))
  · exact Or.inr (Or.inr (Or.inr ⟨b, offset, parse_of_offender hoffender, hoffender⟩))

theorem digits_of_parse {id : ItemId} (h : parse s = .ok id) : HasDigits s ∧ id.text = s.toLower := by
  rcases parse_cases s with ⟨hparse, -⟩ | ⟨hparse, -⟩ | ⟨other, hparse, hlower, hdigits⟩ | ⟨b, offset, hparse, -⟩ <;>
    rw [hparse] at h <;> cases h
  exact ⟨hdigits, hlower⟩

theorem parse_eq_oddLength_iff : parse s = .error .oddLength ↔ s.utf8ByteSize % 2 = 1 := by
  refine ⟨fun h => ?_, parse_of_odd⟩
  rcases parse_cases s with ⟨hparse, hodd⟩ | ⟨hparse, -⟩ | ⟨id, hparse, -⟩ | ⟨b, offset, hparse, -⟩ <;>
    rw [hparse] at h <;> cases h
  exact hodd

theorem parse_eq_wrongLength_iff :
    parse s = .error .wrongLength ↔ s.utf8ByteSize % 2 = 0 ∧ s.utf8ByteSize ≠ 64 := by
  refine ⟨fun h => ?_, fun h => parse_of_length h.1 h.2⟩
  rcases parse_cases s with ⟨hparse, -⟩ | ⟨hparse, hlength⟩ | ⟨id, hparse, -⟩ | ⟨b, offset, hparse, -⟩ <;>
    rw [hparse] at h <;> cases h
  exact hlength

theorem parse_eq_badDigit_iff {b : UInt8} {offset : Nat} :
    parse s = .error (.badDigit b offset) ↔ HasOffender s b offset := by
  refine ⟨fun h => ?_, parse_of_offender⟩
  rcases parse_cases s with ⟨hparse, -⟩ | ⟨hparse, -⟩ | ⟨id, hparse, -⟩ | ⟨other, before, hparse, hoffender⟩ <;>
    rw [hparse] at h <;> cases h
  exact hoffender

/-- The length that a field is checked for beforehand is that of every text which is read. -/
theorem ofField_eq_ok_iff {id : ItemId} : ofField s = .ok id ↔ parse s = .ok id := by
  unfold ofField
  split
  · rename_i hlength
    exact ⟨nofun, fun h => absurd (digits_of_parse h).1.1 hlength⟩
  · cases parse s with
    | ok other => exact ⟨fun h => congrArg _ (Except.ok.inj h), fun h => congrArg _ (Except.ok.inj h)⟩
    | error e => exact ⟨nofun, nofun⟩

theorem fromJson?_ofString {id : ItemId} : fromJson? (Json.ofString s) = some id ↔ parse s = .ok id := by
  have hfield : (fromJson? (Json.ofString s) : Option ItemId) = (ofField s).toOption := rfl
  rw [hfield, ← ofField_eq_ok_iff]
  cases ofField s with
  | ok other => exact ⟨fun h => congrArg _ (Option.some.inj h), fun h => congrArg _ (Except.ok.inj h)⟩
  | error e => exact ⟨nofun, nofun⟩

theorem readsAsId (s : String) : ReadsAsId s where
  accepted := ⟨fun ⟨_, h⟩ => (digits_of_parse h).1, fun h => (parse_of_digits h).imp fun _ => And.left⟩
  lower _ h := (digits_of_parse h).2
  odd := parse_eq_oddLength_iff
  length := parse_eq_wrongLength_iff
  badDigit _ _ := parse_eq_badDigit_iff
  field _ := ofField_eq_ok_iff
  record _ := fromJson?_ofString

/-- **The text of an id is 64 hexadecimal digits.** It is written in lower case and read as the id it was written for; a
text is read where it has 64 digits of either case, and else the first thing wrong with it is told. -/
theorem sixtyFour_digits :
    (∀ id : ItemId, parse id.text = .ok id ∧ id.text.length = 64 ∧ ∀ c ∈ id.text.toList, c ∈ digits) ∧
      ∀ s, ReadsAsId s :=
  ⟨fun id => ⟨parse_text id, length_text id, fun _ => mem_digits_of_mem_text⟩, readsAsId⟩

end TransferRegistry.ItemId
