import Mathlib.Data.List.Basic
import TransferRegistry.Text.Base64
import TransferRegistry.Text.Utf8

/-!
# Texts and byte strings

* `utf8_injective`, `length_utf8` and `utf8_ofList`: the bytes of a text.
* `lossyChars_utf8EncodeChar`: the bytes of a character are read as it, by how many there are (`leadByte?_two`,
  `leadByte?_three`, `leadByte?_four`); so nothing of a text is replaced (`ofUtf8Lossy_utf8`), and a text of ASCII has a
  character for each byte (`toList_of_ascii`).
* `Base64.decode?_encode`: Base64 is read as it was written. `encode_of_decode?`: only what was written is read.
-/

namespace TransferRegistry.Text

open Crypto (Bytes)

/-! ## UTF-8 -/

theorem utf8_injective {a b : String} (h : utf8 a = utf8 b) : a = b := by
  have := ofUtf8?_utf8 a
  rw [h, ofUtf8?_utf8] at this
  exact (Option.some.inj this).symm

theorem length_utf8 (s : String) : (utf8 s).length = s.utf8ByteSize := by simp [utf8]

theorem utf8_ofList (cs : List Char) : utf8 (String.ofList cs) = cs.flatMap String.utf8EncodeChar := by
  simp [utf8, List.utf8Encode, List.data_toByteArray]

/-! ## Reading UTF-8 -/

theorem toNat_ofNat_of_lt {n : Nat} (h : n < 256) : (UInt8.ofNat n).toNat = n := UInt8.toNat_ofNat_of_lt' h

/-- A byte of its own. -/
theorem lossyChars_ascii {n : Nat} (h : n < 128) (rest : Bytes) :
    lossyChars (UInt8.ofNat n :: rest) = Char.ofNat n :: lossyChars rest := by
  have hn := toNat_ofNat_of_lt (show n < 256 by omega)
  rw [lossyChars, if_pos (by rw [UInt8.lt_iff_toNat_lt, hn]; exact h), hn]

/-- A first byte with all that belongs to it. -/
theorem lossyChars_lead {b low high : UInt8} {count bits n : Nat} {rest tail : Bytes} (hb : ¬b < 0x80)
    (hlead : leadByte? b = some (low, high, count, bits)) (hrest : takeRest low high bits count rest = (n, 0, tail)) :
    lossyChars (b :: rest) = Char.ofNat n :: lossyChars tail := by
  rw [lossyChars, if_neg hb, hlead]
  simp only [hrest, if_true]

theorem takeRest_cons {low high : UInt8} {n : Nat} (hn : n < 64) (hlow : low.toNat ≤ n + 128)
    (hhigh : n + 128 ≤ high.toNat) (bits count : Nat) (rest : Bytes) :
    takeRest low high bits (count + 1) (UInt8.ofNat (n + 128) :: rest) =
      takeRest 0x80 0xBF (bits * 64 + n) count rest := by
  have hbyte := toNat_ofNat_of_lt (show n + 128 < 256 by omega)
  have hbits : (n + 128) % 64 = n := by omega
  rw [takeRest, if_pos (by rw [UInt8.le_iff_toNat_le, UInt8.le_iff_toNat_le, hbyte]; exact ⟨hlow, hhigh⟩), hbyte, hbits]

/-- A byte after the second one. -/
theorem takeRest_tail {n : Nat} (hn : n < 64) (bits count : Nat) (rest : Bytes) :
    takeRest 0x80 0xBF bits (count + 1) (UInt8.ofNat (n + 128) :: rest) =
      takeRest 0x80 0xBF (bits * 64 + n) count rest := by
  have hlow : (0x80 : UInt8).toNat ≤ n + 128 := Nat.le_add_left 128 n
  have hhigh : n + 128 ≤ (0xBF : UInt8).toNat := show n + 128 ≤ 191 by omega
  exact takeRest_cons hn hlow hhigh bits count rest

theorem leadByte?_two {n : Nat} (hlow : 2 ≤ n) (hhigh : n < 32) :
    leadByte? (UInt8.ofNat (n + 192)) = some (0x80, 0xBF, 1, n) := by
  have hbyte := toNat_ofNat_of_lt (show n + 192 < 256 by omega)
  have hbits : (n + 192) % 32 = n := by omega
  simp only [leadByte?, hbyte, hbits]
  rw [if_pos (by omega)]

/-- The first byte of three allows the second byte of each character. -/
theorem leadByte?_three {n m : Nat} (hn : n < 16) (hm : m < 64) (hlow : n = 0 → 32 ≤ m) (hhigh : n = 13 → m < 32) :
    ∃ low high : UInt8, leadByte? (UInt8.ofNat (n + 224)) = some (low, high, 2, n) ∧
      low.toNat ≤ m + 128 ∧ m + 128 ≤ high.toNat := by
  have hbyte := toNat_ofNat_of_lt (show n + 224 < 256 by omega)
  have hbits : (n + 224) % 16 = n := by omega
  simp only [leadByte?, hbyte, hbits]
  rw [if_neg (by omega)]
  by_cases hzero : n = 0
  · subst hzero
    exact ⟨0xA0, 0xBF, rfl, show 160 ≤ m + 128 by omega, show m + 128 ≤ 191 by omega⟩
  · rw [if_neg (by omega)]
    by_cases hd : n = 13
    · subst hd
      exact ⟨0x80, 0x9F, rfl, show 128 ≤ m + 128 by omega, show m + 128 ≤ 159 by omega⟩
    · rw [if_neg (by omega), if_pos (by omega)]
      exact ⟨0x80, 0xBF, rfl, show 128 ≤ m + 128 by omega, show m + 128 ≤ 191 by omega⟩

theorem leadByte?_four {n m : Nat} (hn : n < 5) (hm : m < 64) (hlow : n = 0 → 16 ≤ m) (hhigh : n = 4 → m < 16) :
    ∃ low high : UInt8, leadByte? (UInt8.ofNat (n + 240)) = some (low, high, 3, n) ∧
      low.toNat ≤ m + 128 ∧ m + 128 ≤ high.toNat := by
  have hbyte := toNat_ofNat_of_lt (show n + 240 < 256 by omega)
  have hbits : (n + 240) % 8 = n := by omega
  simp only [leadByte?, hbyte, hbits]
  rw [if_neg (by omega), if_neg (by omega), if_neg (by omega), if_neg (by omega)]
  by_cases hzero : n = 0
  · subst hzero
    exact ⟨0x90, 0xBF, rfl, show 144 ≤ m + 128 by omega, show m + 128 ≤ 191 by omega⟩
  · rw [if_neg (by omega)]
    by_cases hd : n = 4
    · subst hd
      exact ⟨0x80, 0x8F, rfl, show 128 ≤ m + 128 by omega, show m + 128 ≤ 143 by omega⟩
    · rw [if_neg (by omega), if_pos (by omega)]
      exact ⟨0x80, 0xBF, rfl, show 128 ≤ m + 128 by omega, show m + 128 ≤ 191 by omega⟩

theorem not_ascii {n : Nat} (hlow : 128 ≤ n) (hhigh : n < 256) : ¬UInt8.ofNat n < 0x80 := by
  rw [UInt8.lt_iff_toNat_lt, toNat_ofNat_of_lt hhigh]
  exact Nat.not_lt.2 hlow

/-- The bytes of a character are read as the character. -/
theorem lossyChars_utf8EncodeChar (c : Char) (rest : Bytes) :
    lossyChars (String.utf8EncodeChar c ++ rest) = c :: lossyChars rest := by
  have hvalid : c.toNat.isValidChar := c.valid
  have hback : Char.ofNat c.toNat = c := Char.ofNat_toNat c
  unfold String.utf8EncodeChar
  simp only [show c.val.toNat = c.toNat from rfl]
  generalize c.toNat = v at hvalid hback
  unfold Nat.isValidChar at hvalid
  split
  · rw [List.singleton_append, lossyChars_ascii (by omega), hback]
  split
  · have hlead := leadByte?_two (show 2 ≤ v / 64 % 32 by omega) (by omega)
    have hvalue : v / 64 % 32 * 64 + v % 64 = v := by omega
    simp only [List.cons_append, List.nil_append]
    refine (lossyChars_lead (not_ascii (by omega) (by omega)) hlead ?_).trans (by rw [hback])
    rw [takeRest_tail (by omega), hvalue, takeRest]
  split
  · obtain ⟨low, high, hlead, hlow, hhigh⟩ := leadByte?_three (n := v / 4096 % 16) (m := v / 64 % 64) (by omega)
      (by omega) (by omega) (by omega)
    have hvalue : (v / 4096 % 16 * 64 + v / 64 % 64) * 64 + v % 64 = v := by omega
    simp only [List.cons_append, List.nil_append]
    refine (lossyChars_lead (not_ascii (by omega) (by omega)) hlead ?_).trans (by rw [hback])
    rw [takeRest_cons (by omega) hlow hhigh, takeRest_tail (by omega), hvalue, takeRest]
  · obtain ⟨low, high, hlead, hlow, hhigh⟩ := leadByte?_four (n := v / 262144 % 8) (m := v / 4096 % 64) (by omega)
      (by omega) (by omega) (by omega)
    have hvalue : ((v / 262144 % 8 * 64 + v / 4096 % 64) * 64 + v / 64 % 64) * 64 + v % 64 = v := by omega
    simp only [List.cons_append, List.nil_append]
    refine (lossyChars_lead (not_ascii (by omega) (by omega)) hlead ?_).trans (by rw [hback])
    rw [takeRest_cons (by omega) hlow hhigh, takeRest_tail (by omega), takeRest_tail (by omega), hvalue, takeRest]

theorem lossyChars_flatMap (cs : List Char) : lossyChars (cs.flatMap String.utf8EncodeChar) = cs := by
  induction cs with
  | nil => rw [List.flatMap_nil, lossyChars]
  | cons c cs ih => rw [List.flatMap_cons, lossyChars_utf8EncodeChar, ih]

/-- Nothing of a text is replaced. -/
theorem ofUtf8Lossy_utf8 (s : String) : ofUtf8Lossy (utf8 s) = s := by
  have hs : utf8 s = s.toList.flatMap String.utf8EncodeChar := by rw [← utf8_ofList, String.ofList_toList]
  rw [ofUtf8Lossy, hs, lossyChars_flatMap, String.ofList_toList]

/-- A text of ASCII has a character for each of its bytes. -/
theorem toList_of_ascii {s : String} (h : ∀ b ∈ utf8 s, b < 0x80) :
    s.toList = (utf8 s).map fun b => Char.ofNat b.toNat := by
  have hread : ∀ bytes : Bytes, (∀ b ∈ bytes, b < 0x80) → lossyChars bytes = bytes.map fun b => Char.ofNat b.toNat := by
    intro bytes hbytes
    induction bytes with
    | nil => rw [List.map_nil, lossyChars]
    | cons b bytes ih =>
      obtain ⟨hb, hrest⟩ := List.forall_mem_cons.1 hbytes
      rw [lossyChars, if_pos hb, ih hrest, List.map_cons]
  have hs : (ofUtf8Lossy (utf8 s)).toList = s.toList := congrArg String.toList (ofUtf8Lossy_utf8 s)
  rw [← hs, ofUtf8Lossy, String.toList_ofList, hread _ h]

/-! ## Base64 -/

namespace Base64

/-- No character of the alphabet is the padding. -/
theorem char_ne_padding {n : Nat} (h : n < 64) : standard.char n ≠ '=' := by
  have all : ∀ m < 64, standard.char m ≠ '=' := by decide
  exact all n h

/-- Four characters, the last of which is no padding, are three bytes. -/
theorem bytes?_four {a b c d : Char} {x y z w : Nat} (hd : d ≠ '=') (ha : value? a = some x) (hb : value? b = some y)
    (hc : value? c = some z) (hw : value? d = some w) (rest : List Char) :
    bytes? (a :: b :: c :: d :: rest) = (bytes? rest).map fun bytes =>
      UInt8.ofNat (x * 4 + y / 16) :: UInt8.ofNat (y % 16 * 16 + z / 4) :: UInt8.ofNat (z % 4 * 64 + w) :: bytes := by
  rw [bytes?.eq_def]
  split
  · rename_i heq
    cases heq
  · rename_i heq
    simp only [List.cons.injEq] at heq
    exact absurd heq.2.2.2.1 hd
  · rename_i heq
    simp only [List.cons.injEq] at heq
    exact absurd heq.2.2.2.1 hd
  · rename_i heq
    simp only [List.cons.injEq] at heq
    obtain ⟨rfl, rfl, rfl, rfl, rfl⟩ := heq
    rw [ha, hb, hc, hw]
    cases bytes? rest <;> rfl
  · rename_i hother
    exact absurd rfl (hother a b c d rest)

theorem ofNat_eq {n : Nat} {b : UInt8} (h : n = b.toNat) : UInt8.ofNat n = b := by rw [h, UInt8.ofNat_toNat]

theorem bytes?_chars (b : Bytes) : bytes? (chars standard ['='] b) = some b := by
  induction b using chars.induct with
  | case1 => rfl
  | case2 a =>
    have ha := a.toNat_lt
    have hx := value?_char (show a.toNat / 4 < 64 by omega)
    have hy := value?_char (show a.toNat % 4 * 16 < 64 by omega)
    have hzero : a.toNat % 4 * 16 % 16 = 0 := by omega
    have hbyte : UInt8.ofNat (a.toNat / 4 * 4 + a.toNat % 4 * 16 / 16) = a := ofNat_eq (by omega)
    rw [chars, List.singleton_append, bytes?, hx, hy]
    simp only [Option.bind_eq_bind, Option.bind_some, hzero, if_true, hbyte, Option.pure_def]
  | case3 a b =>
    have ha := a.toNat_lt
    have hb := b.toNat_lt
    have hx := value?_char (show a.toNat / 4 < 64 by omega)
    have hy := value?_char (show a.toNat % 4 * 16 + b.toNat / 16 < 64 by omega)
    have hz := value?_char (show b.toNat % 16 * 4 < 64 by omega)
    have hpad := char_ne_padding (show b.toNat % 16 * 4 < 64 by omega)
    have hzero : b.toNat % 16 * 4 % 4 = 0 := by omega
    have hfirst : UInt8.ofNat (a.toNat / 4 * 4 + (a.toNat % 4 * 16 + b.toNat / 16) / 16) = a := ofNat_eq (by omega)
    have hsecond : UInt8.ofNat ((a.toNat % 4 * 16 + b.toNat / 16) % 16 * 16 + b.toNat % 16 * 4 / 4) = b :=
      ofNat_eq (by omega)
    rw [chars, bytes?, hx, hy, hz]
    · simp only [Option.bind_eq_bind, Option.bind_some, hzero, if_true, hfirst, hsecond, Option.pure_def]
    · exact hpad
  | case4 a b c rest ih =>
    have ha := a.toNat_lt
    have hb := b.toNat_lt
    have hc := c.toNat_lt
    have hfirst : UInt8.ofNat (a.toNat / 4 * 4 + (a.toNat % 4 * 16 + b.toNat / 16) / 16) = a := ofNat_eq (by omega)
    have hsecond : UInt8.ofNat ((a.toNat % 4 * 16 + b.toNat / 16) % 16 * 16 + (b.toNat % 16 * 4 + c.toNat / 64) / 4) = b :=
      ofNat_eq (by omega)
    have hthird : UInt8.ofNat ((b.toNat % 16 * 4 + c.toNat / 64) % 4 * 64 + c.toNat % 64) = c := ofNat_eq (by omega)
    rw [chars, bytes?_four (char_ne_padding (by omega)) (value?_char (by omega)) (value?_char (by omega))
      (value?_char (by omega)) (value?_char (by omega)), ih, Option.map_some, hfirst, hsecond, hthird]

theorem decode?_encode (b : Bytes) : decode? (encode b) = some b := by
  rw [decode?, encode, String.toList_ofList, bytes?_chars]

/-- Each number is that of one character. -/
theorem char_of_value? {c : Char} {n : Nat} (h : value? c = some n) : n < 64 ∧ standard.char n = c := by
  have hback : Char.ofNat c.toNat = c := Char.ofNat_toNat c
  have hrange : ∀ low high : Char, low ≤ c ∧ c ≤ high → low.toNat ≤ c.toNat ∧ c.toNat ≤ high.toNat := fun _ _ h => h
  unfold value? at h
  split at h
  · rename_i hc
    have hlow := hrange 'A' 'Z' hc
    obtain rfl := Option.some.inj h
    simp only [Char.reduceToNat] at hlow
    refine ⟨by omega, ?_⟩
    rw [Alphabet.char, if_pos (by omega), show 65 + (c.toNat - 65) = c.toNat by omega, hback]
  split at h
  · rename_i hc
    have hlow := hrange 'a' 'z' hc
    obtain rfl := Option.some.inj h
    simp only [Char.reduceToNat] at hlow
    refine ⟨by omega, ?_⟩
    rw [Alphabet.char, if_neg (by omega), if_pos (by omega), show 71 + (c.toNat - 71) = c.toNat by omega, hback]
  split at h
  · rename_i hc
    have hlow := hrange '0' '9' hc
    obtain rfl := Option.some.inj h
    simp only [Char.reduceToNat] at hlow
    refine ⟨by omega, ?_⟩
    rw [Alphabet.char, if_neg (by omega), if_neg (by omega), if_pos (by omega), show c.toNat + 4 - 4 = c.toNat by omega,
      hback]
  split at h
  · rename_i hc
    obtain rfl := Option.some.inj h
    exact ⟨by omega, hc.symm⟩
  split at h
  · rename_i hc
    obtain rfl := Option.some.inj h
    exact ⟨by omega, hc.symm⟩
  · cases h

/-- The byte of two numbers is written with their characters, where no bit of them is left over. -/
theorem chars_two {x y : Nat} (hx : x < 64) (hy : y < 64) (hzero : y % 16 = 0) (pad : List Char) :
    chars standard pad [UInt8.ofNat (x * 4 + y / 16)] = standard.char x :: standard.char y :: (pad ++ pad) := by
  rw [chars, toNat_ofNat_of_lt (by omega), show (x * 4 + y / 16) / 4 = x by omega,
    show (x * 4 + y / 16) % 4 * 16 = y by omega]

theorem chars_three {x y z : Nat} (hx : x < 64) (hy : y < 64) (hz : z < 64) (hzero : z % 4 = 0) (pad : List Char) :
    chars standard pad [UInt8.ofNat (x * 4 + y / 16), UInt8.ofNat (y % 16 * 16 + z / 4)] =
      standard.char x :: standard.char y :: standard.char z :: pad := by
  rw [chars, toNat_ofNat_of_lt (by omega), toNat_ofNat_of_lt (by omega), show (x * 4 + y / 16) / 4 = x by omega,
    show (x * 4 + y / 16) % 4 * 16 + (y % 16 * 16 + z / 4) / 16 = y by omega,
    show (y % 16 * 16 + z / 4) % 16 * 4 = z by omega]

theorem chars_four {x y z w : Nat} (hx : x < 64) (hy : y < 64) (hz : z < 64) (hw : w < 64) (pad : List Char)
    (rest : Bytes) :
    chars standard pad (UInt8.ofNat (x * 4 + y / 16) :: UInt8.ofNat (y % 16 * 16 + z / 4) ::
        UInt8.ofNat (z % 4 * 64 + w) :: rest) =
      standard.char x :: standard.char y :: standard.char z :: standard.char w :: chars standard pad rest := by
  rw [chars, toNat_ofNat_of_lt (by omega), toNat_ofNat_of_lt (by omega), toNat_ofNat_of_lt (by omega),
    show (x * 4 + y / 16) / 4 = x by omega,
    show (x * 4 + y / 16) % 4 * 16 + (y % 16 * 16 + z / 4) / 16 = y by omega,
    show (y % 16 * 16 + z / 4) % 16 * 4 + (z % 4 * 64 + w) / 64 = z by omega,
    show (z % 4 * 64 + w) % 64 = w by omega]

theorem chars_of_bytes? (cs : List Char) : ∀ b, bytes? cs = some b → chars standard ['='] b = cs := by
  induction cs using bytes?.induct with
  | case1 =>
    intro b h
    obtain rfl := Option.some.inj h
    rfl
  | case2 a b =>
    intro bytes h
    simp only [bytes?, Option.bind_eq_bind, Option.bind_eq_some_iff] at h
    obtain ⟨x, hx, y, hy, h⟩ := h
    obtain ⟨hxlt, rfl⟩ := char_of_value? hx
    obtain ⟨hylt, rfl⟩ := char_of_value? hy
    split at h
    · obtain rfl := Option.some.inj h
      exact chars_two hxlt hylt ‹_› ['=']
    · cases h
  | case3 a b c hc =>
    intro bytes h
    rw [bytes?] at h
    · simp only [Option.bind_eq_bind, Option.bind_eq_some_iff] at h
      obtain ⟨x, hx, y, hy, z, hz, h⟩ := h
      obtain ⟨hxlt, rfl⟩ := char_of_value? hx
      obtain ⟨hylt, rfl⟩ := char_of_value? hy
      obtain ⟨hzlt, rfl⟩ := char_of_value? hz
      split at h
      · obtain rfl := Option.some.inj h
        exact chars_three hxlt hylt hzlt ‹_› ['=']
      · cases h
    · exact hc
  | case4 a b c d rest hb hc ih =>
    intro bytes h
    rw [bytes?] at h
    · simp only [Option.bind_eq_bind, Option.bind_eq_some_iff] at h
      obtain ⟨x, hx, y, hy, z, hz, w, hw, tail, htail, h⟩ := h
      obtain ⟨hxlt, rfl⟩ := char_of_value? hx
      obtain ⟨hylt, rfl⟩ := char_of_value? hy
      obtain ⟨hzlt, rfl⟩ := char_of_value? hz
      obtain ⟨hwlt, rfl⟩ := char_of_value? hw
      obtain rfl := Option.some.inj h
      rw [chars_four hxlt hylt hzlt hwlt, ih tail htail]
    · exact hb
    · exact hc
  | case5 cs hnil hb hc hd =>
    -- characters in no fours
    intro bytes h
    rw [bytes?] at h
    · cases h
    all_goals assumption

/-- A text is the only one of its bytes. -/
theorem encode_of_decode? {s : String} {b : Bytes} (h : decode? s = some b) : encode b = s := by
  rw [encode, chars_of_bytes? s.toList b h, String.ofList_toList]

theorem chars_ne_nil (alphabet : Alphabet) (pad : List Char) : ∀ {b : Bytes}, b ≠ [] → chars alphabet pad b ≠ []
  | [], h => absurd rfl h
  | [_], _ => List.cons_ne_nil _ _
  | [_, _], _ => List.cons_ne_nil _ _
  | _ :: _ :: _ :: _, _ => List.cons_ne_nil _ _

theorem isEmpty_encodeUrl {b : Bytes} (h : b ≠ []) : (encodeUrl b).isEmpty = false := by
  rw [encodeUrl, String.isEmpty_eq_false_iff]
  intro hempty
  have hnil := congrArg String.toList hempty
  rw [String.toList_ofList] at hnil
  exact chars_ne_nil urlSafe [] h hnil

end Base64

end TransferRegistry.Text
