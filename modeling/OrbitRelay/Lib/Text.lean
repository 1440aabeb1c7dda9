import Mathlib.Data.List.TakeWhile

/-! Text primitives with Rust semantics: Unicode white space, blank strings and
two-digit hexadecimal bytes. -/
namespace Text

/-- The Unicode `White_Space` property, as `char::is_whitespace` tests it. -/
def isWhitespace (c : Char) : Bool :=
  let n := c.toNat
  (0x9 ≤ n && n ≤ 0xD) || n == 0x20 || n == 0x85 || n == 0xA0 || n == 0x1680 ||
    (0x2000 ≤ n && n ≤ 0x200A) || n == 0x2028 || n == 0x2029 || n == 0x202F ||
    n == 0x205F || n == 0x3000

/-- `value.trim().is_empty()`: trimming leaves nothing exactly when every
character is white space. -/
def isBlank (s : String) : Bool :=
  s.toList.all isWhitespace

/-- `trim`: removes white space at both ends. -/
def trim (chars : List Char) : List Char :=
  ((chars.dropWhile isWhitespace).reverse.dropWhile isWhitespace).reverse

theorem dropWhile_all {chars : List Char} :
    (chars.dropWhile isWhitespace).all isWhitespace = true ↔ chars.all isWhitespace = true := by
  induction chars with
  | nil => rfl
  | cons c chars ih =>
    cases hc : isWhitespace c with
    | true => rw [List.dropWhile_cons_of_pos hc, ih, List.all_cons, hc, Bool.true_and]
    | false => rw [List.dropWhile_cons_of_neg (by simp [hc])]

/-- Trimming changes nothing about blankness. -/
theorem trim_all {chars : List Char} :
    (trim chars).all isWhitespace = true ↔ chars.all isWhitespace = true := by
  unfold trim
  rw [List.all_reverse, dropWhile_all, List.all_reverse, dropWhile_all]

/-- Trimming leaves nothing exactly of blank text. -/
theorem trim_isEmpty {chars : List Char} :
    (trim chars).isEmpty = true ↔ chars.all isWhitespace = true := by
  unfold trim
  rw [List.isEmpty_reverse, List.isEmpty_iff, List.dropWhile_eq_nil_iff, ← List.all_eq_true,
    List.all_reverse, dropWhile_all]

/-- What is left of text that is not blank is not blank. -/
theorem isBlank_trim {s : String} (h : (trim s.toList).isEmpty = false) :
    isBlank (String.ofList (trim s.toList)) = false := by
  rw [← Bool.not_eq_true, trim_isEmpty] at h
  unfold isBlank
  rwa [← Bool.not_eq_true, String.toList_ofList, trim_all]

theorem dropWhile_eq_self {chars : List Char} (h : ∀ c ∈ chars, isWhitespace c = false) :
    chars.dropWhile isWhitespace = chars := by
  cases chars with
  | nil => rfl
  | cons c chars => rw [List.dropWhile_cons_of_neg (by simp [h c List.mem_cons_self])]

/-- Without white space there is nothing to trim. -/
theorem trim_eq_self {chars : List Char} (h : ∀ c ∈ chars, isWhitespace c = false) :
    trim chars = chars := by
  have hreverse : ∀ c ∈ chars.reverse, isWhitespace c = false := by
    intro c hc
    exact h c (List.mem_reverse.mp hc)
  unfold trim
  rw [dropWhile_eq_self h, dropWhile_eq_self hreverse, List.reverse_reverse]

/-! ### UTF-8 -/

theorem le_iff_toNat_le {c d : Char} : c ≤ d ↔ c.toNat ≤ d.toNat := UInt32.le_iff_toNat_le

theorem toNat_val_toUInt8 {c : Char} (h : c.toNat < 128) : c.val.toUInt8.toNat = c.toNat := by
  have hval : c.val.toNat = c.toNat := rfl
  rw [UInt32.toNat_toUInt8, hval]
  omega
/-- An ASCII character is one byte. -/
theorem utf8EncodeChar_of_ascii {c : Char} (h : c.toNat < 128) :
    String.utf8EncodeChar c = [c.val.toUInt8] := by
  apply String.utf8EncodeChar_eq_singleton
  rw [Char.utf8Size_eq_one_iff]
  have hval : c.val.toNat < 128 := h
  rw [UInt32.le_iff_toNat_le]
  show c.val.toNat ≤ 127
  omega

theorem utf8_of_ascii {chars : List Char} (h : ∀ c ∈ chars, c.toNat < 128) :
    chars.flatMap String.utf8EncodeChar = chars.map fun c => c.val.toUInt8 := by
  induction chars with
  | nil => rfl
  | cons c chars ih =>
    rw [List.forall_mem_cons] at h
    rw [List.flatMap_cons, utf8EncodeChar_of_ascii h.1, ih h.2]
    rfl

theorem toNat_or_ge (b : UInt8) : 128 ≤ (b ||| 0x80).toNat := by
  rw [UInt8.toNat_or]
  exact Nat.right_le_or

/-- The last byte of any other character is not ASCII. -/
theorem exists_utf8_ge {c : Char} (h : 128 ≤ c.toNat) :
    ∃ b ∈ String.utf8EncodeChar c, 128 ≤ b.toNat := by
  have hsize : c.utf8Size = 2 ∨ c.utf8Size = 3 ∨ c.utf8Size = 4 := by
    have hone : c.utf8Size ≠ 1 := by
      rw [Ne, Char.utf8Size_eq_one_iff, UInt32.le_iff_toNat_le]
      show ¬ c.val.toNat ≤ 127
      have hval : 128 ≤ c.val.toNat := h
      omega
    have hpos := c.utf8Size_pos
    have hle := c.utf8Size_le_four
    omega
  rcases hsize with h2 | h3 | h4
  · rw [String.utf8EncodeChar_eq_cons_cons h2]
    exact ⟨_, List.mem_cons_of_mem _ List.mem_cons_self, toNat_or_ge _⟩
  · rw [String.utf8EncodeChar_eq_cons_cons_cons h3]
    exact ⟨_, List.mem_cons_of_mem _ List.mem_cons_self, toNat_or_ge _⟩
  · rw [String.utf8EncodeChar_eq_cons_cons_cons_cons h4]
    exact ⟨_, List.mem_cons_of_mem _ List.mem_cons_self, toNat_or_ge _⟩

/-- A check of the bytes that only ASCII passes is a check of the characters. -/
theorem all_utf8 {p : UInt8 → Bool} (hp : ∀ b, p b = true → b.toNat < 128) {chars : List Char} :
    (chars.flatMap String.utf8EncodeChar).all p = true ↔
      ∀ c ∈ chars, c.toNat < 128 ∧ p c.val.toUInt8 = true := by
  rw [List.all_flatMap, List.all_eq_true]
  refine forall₂_congr fun c _ => ?_
  by_cases hascii : c.toNat < 128
  · rw [utf8EncodeChar_of_ascii hascii]
    simp [hascii]
  · refine iff_of_false (fun hall => ?_) fun h => hascii h.1
    obtain ⟨b, hb, hge⟩ := exists_utf8_ge (Nat.le_of_not_lt hascii)
    have hlt := hp b (List.all_eq_true.mp hall b hb)
    omega

/-! ### Hexadecimal digits -/

/-- Lowercase hexadecimal digit of a nibble. -/
def hexDigit (n : Fin 16) : Char :=
  ['0', '1', '2', '3', '4', '5', '6', '7', '8', '9', 'a', 'b', 'c', 'd', 'e', 'f'].get n

/-- Value of a hexadecimal digit in either case. -/
def hexValue? (c : Char) : Option (Fin 16) :=
  let n := c.toNat
  if 0x30 ≤ n ∧ n ≤ 0x39 then some (Fin.ofNat 16 (n - 0x30))
  else if 0x61 ≤ n ∧ n ≤ 0x66 then some (Fin.ofNat 16 (n - 0x57))
  else if 0x41 ≤ n ∧ n ≤ 0x46 then some (Fin.ofNat 16 (n - 0x37))
  else none

@[simp] theorem hexValue?_hexDigit (n : Fin 16) : hexValue? (hexDigit n) = some n := by
  revert n
  decide

theorem isWhitespace_hexDigit (n : Fin 16) : isWhitespace (hexDigit n) = false := by
  revert n
  decide

/-- The two digits of a byte, high nibble first. -/
def hexByte (b : UInt8) : List Char :=
  [hexDigit (Fin.ofNat 16 (b.toNat / 16)), hexDigit (Fin.ofNat 16 (b.toNat % 16))]

/-- Hexadecimal text of a byte string. -/
def hexBytes (bytes : List UInt8) : List Char :=
  bytes.flatMap hexByte

/-- Reads digit pairs. An odd digit or a non-digit fails. -/
def parseHex? : List Char → Option (List UInt8)
  | [] => some []
  | [_] => none
  | hi :: lo :: rest => do
    let h ← hexValue? hi
    let l ← hexValue? lo
    let tail ← parseHex? rest
    some (UInt8.ofNat (16 * h.val + l.val) :: tail)

theorem hexBytes_length (bytes : List UInt8) : (hexBytes bytes).length = 2 * bytes.length := by
  induction bytes with
  | nil => rfl
  | cons b bytes ih =>
    simp only [hexBytes, List.flatMap_cons, List.length_append, List.length_cons] at ih ⊢
    rw [ih]
    simp [hexByte]
    omega

theorem parseHex?_hexBytes (bytes : List UInt8) : parseHex? (hexBytes bytes) = some bytes := by
  induction bytes with
  | nil => rfl
  | cons b bytes ih =>
    have hb : b.toNat < 256 := b.toNat_lt
    have hhi : b.toNat / 16 % 16 = b.toNat / 16 := by omega
    have hbyte : UInt8.ofNat (16 * (b.toNat / 16 % 16) + b.toNat % 16 % 16) = b := by
      rw [hhi, Nat.mod_mod, Nat.div_add_mod]
      exact UInt8.ofNat_toNat
    change parseHex? (hexByte b ++ hexBytes bytes) = _
    simp only [hexByte, List.cons_append, List.nil_append, parseHex?, hexValue?_hexDigit, ih]
    simpa using hbyte

/-- Two digits are those of one byte. -/
theorem exists_hexByte (high low : Fin 16) : ∃ b, hexByte b = [hexDigit high, hexDigit low] := by
  have hb : (UInt8.ofNat (16 * high.val + low.val)).toNat = 16 * high.val + low.val := by
    rw [UInt8.toNat_ofNat']
    omega
  refine ⟨UInt8.ofNat (16 * high.val + low.val), ?_⟩
  have hhigh : Fin.ofNat 16 ((16 * high.val + low.val) / 16) = high := by
    apply Fin.ext
    show (16 * high.val + low.val) / 16 % 16 = high.val
    omega
  have hlow : Fin.ofNat 16 ((16 * high.val + low.val) % 16) = low := by
    apply Fin.ext
    show (16 * high.val + low.val) % 16 % 16 = low.val
    omega
  unfold hexByte
  rw [hb, hhigh, hlow]

/-- An even number of lowercase digits is the text of a byte string. -/
theorem exists_hexBytes {n : Nat} {chars : List Char} (hlength : chars.length = 2 * n)
    (hdigits : ∀ c ∈ chars, ∃ d, c = hexDigit d) :
    ∃ bytes : List UInt8, bytes.length = n ∧ hexBytes bytes = chars := by
  induction n generalizing chars with
  | zero => exact ⟨[], rfl, (List.length_eq_zero_iff.mp hlength).symm⟩
  | succ n ih =>
    obtain ⟨high, chars, rfl⟩ := List.exists_cons_of_length_eq_add_one hlength
    rw [List.length_cons] at hlength
    have htail : chars.length = 2 * n + 1 := by omega
    obtain ⟨low, rest, rfl⟩ := List.exists_cons_of_length_eq_add_one htail
    rw [List.length_cons] at htail
    have hrestLength : rest.length = 2 * n := by omega
    rw [List.forall_mem_cons, List.forall_mem_cons] at hdigits
    obtain ⟨⟨dh, rfl⟩, ⟨dl, rfl⟩, hrest⟩ := hdigits
    obtain ⟨bytes, hbytes, htext⟩ := ih hrestLength hrest
    obtain ⟨b, hb⟩ := exists_hexByte dh dl
    refine ⟨b :: bytes, by rw [List.length_cons, hbytes], ?_⟩
    show hexByte b ++ hexBytes bytes = _
    rw [hb, htext]
    rfl

theorem hexBytes_injective : Function.Injective hexBytes := by
  intro bytes other h
  have hparse := parseHex?_hexBytes bytes
  rw [h, parseHex?_hexBytes other] at hparse
  exact (Option.some.inj hparse).symm

end Text
