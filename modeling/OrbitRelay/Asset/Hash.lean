import OrbitRelay.Asset.Basic
import OrbitRelay.Lib.Result

/-! Content hashes as text: what is parsed, and which digest a hash stands for. -/
namespace OrbitRelay
open Json

/-- `u8::is_ascii_hexdigit` -/
def isAsciiHexdigit (byte : UInt8) : Bool :=
  (0x30 ≤ byte && byte ≤ 0x39) || (0x41 ≤ byte && byte ≤ 0x46) || (0x61 ≤ byte && byte ≤ 0x66)

/-- `u8::to_ascii_lowercase` -/
def toAsciiLowercase (byte : UInt8) : UInt8 :=
  if 0x41 ≤ byte ∧ byte ≤ 0x5A then byte + 0x20 else byte

namespace ContentHash

/-- The canonical character of one byte of the text. -/
def canonicalChar (byte : UInt8) : Except AssetError Char :=
  if !isAsciiHexdigit byte then
    .error (.invalidContentHash "SHA-256 digest contains a non-hexadecimal character")
  else .ok (Char.ofNat (toAsciiLowercase byte).toNat)

/-- A hexadecimal digit in either case. -/
def IsHexDigit (c : Char) : Prop :=
  ('0' ≤ c ∧ c ≤ '9') ∨ ('A' ≤ c ∧ c ≤ 'F') ∨ ('a' ≤ c ∧ c ≤ 'f')

theorem isHexDigit_toNat {c : Char} : IsHexDigit c ↔
    (48 ≤ c.toNat ∧ c.toNat ≤ 57) ∨ (65 ≤ c.toNat ∧ c.toNat ≤ 70) ∨
      (97 ≤ c.toNat ∧ c.toNat ≤ 102) := by
  unfold IsHexDigit
  simp only [Text.le_iff_toNat_le]
  exact Iff.rfl

theorem isAsciiHexdigit_toNat {b : UInt8} : isAsciiHexdigit b = true ↔
    (48 ≤ b.toNat ∧ b.toNat ≤ 57) ∨ (65 ≤ b.toNat ∧ b.toNat ≤ 70) ∨
      (97 ≤ b.toNat ∧ b.toNat ≤ 102) := by
  unfold isAsciiHexdigit
  simp only [Bool.or_eq_true, Bool.and_eq_true, decide_eq_true_eq, UInt8.le_iff_toNat_le, or_assoc]
  exact Iff.rfl

/-- The check of the bytes accepts a character exactly when it is a digit. -/
theorem isHexDigit_iff {c : Char} :
    c.toNat < 128 ∧ isAsciiHexdigit c.val.toUInt8 = true ↔ IsHexDigit c := by
  rw [isHexDigit_toNat, isAsciiHexdigit_toNat]
  constructor
  · rintro ⟨hascii, hbyte⟩
    rw [Text.toNat_val_toUInt8 hascii] at hbyte
    exact hbyte
  · intro hchar
    have hascii : c.toNat < 128 := by omega
    rw [Text.toNat_val_toUInt8 hascii]
    exact ⟨hascii, hchar⟩

/-- The lowercase of an ASCII byte is that of its character. -/
theorem toLower_ofNat : ∀ n < 128,
    Char.ofNat (toAsciiLowercase (UInt8.ofNat n)).toNat = (Char.ofNat n).toLower := by
  decide

theorem val_toUInt8 (c : Char) : c.val.toUInt8 = UInt8.ofNat c.toNat := by
  apply UInt8.toNat_inj.mp
  rw [UInt32.toNat_toUInt8, UInt8.toNat_ofNat']
  rfl

/-- The canonical character is the lowercase one. -/
theorem canonicalChar_eq_ok {c c' : Char} (hascii : c.toNat < 128) :
    canonicalChar c.val.toUInt8 = .ok c' ↔ IsHexDigit c ∧ c' = c.toLower := by
  have hlower := toLower_ofNat c.toNat hascii
  rw [Char.ofNat_toNat, ← val_toUInt8] at hlower
  unfold canonicalChar
  rw [hlower, ← isHexDigit_iff]
  cases isAsciiHexdigit c.val.toUInt8 with
  | true => simp [hascii, eq_comm]
  | false => simp

theorem exists_hexDigit_ofNat : ∀ n < 103,
    (48 ≤ n ∧ n ≤ 57) ∨ (65 ≤ n ∧ n ≤ 70) ∨ (97 ≤ n ∧ n ≤ 102) →
      ∃ d, (Char.ofNat n).toLower = Text.hexDigit d := by
  decide

theorem exists_hexDigit {c : Char} (h : IsHexDigit c) : ∃ d, c.toLower = Text.hexDigit d := by
  rw [isHexDigit_toNat] at h
  have htable := exists_hexDigit_ofNat c.toNat (by omega) h
  rwa [Char.ofNat_toNat] at htable

theorem isAsciiHexdigit_of_canonicalChar {b : UInt8} {c : Char} (h : canonicalChar b = .ok c) :
    isAsciiHexdigit b = true := by
  unfold canonicalChar at h
  split_ifs at h with hdigit
  simpa using hdigit

theorem isAsciiHexdigit_lt (b : UInt8) (h : isAsciiHexdigit b = true) : b.toNat < 128 := by
  rw [isAsciiHexdigit_toNat] at h
  omega

theorem forall₂_toLower {chars canonical : List Char} :
    List.Forall₂ (fun c c' => c' = c.toLower) chars canonical ↔
      canonical = chars.map Char.toLower := by
  have hflip : ∀ c c' : Char, c' = c.toLower ↔ c.toLower = c' := fun _ _ => eq_comm
  simp only [hflip]
  rw [← @List.forall₂_map_left_iff _ _ _ Eq Char.toLower, List.forall₂_eq_eq_eq]
  exact eq_comm

/-- The bytes of hexadecimal text, and of no other text, have canonical characters: the lowercase
ones. -/
theorem mapM_canonicalChar_eq_ok {chars canonical : List Char} :
    (chars.flatMap String.utf8EncodeChar).mapM canonicalChar = .ok canonical ↔
      (∀ c ∈ chars, IsHexDigit c) ∧ canonical = chars.map Char.toLower := by
  have hpoint : ∀ c c' : Char, (c.toNat < 128 ∧ canonicalChar c.val.toUInt8 = .ok c') ↔
      (IsHexDigit c ∧ c' = c.toLower) := by
    intro c c'
    constructor
    · intro h
      exact (canonicalChar_eq_ok h.1).mp h.2
    · intro h
      have hascii := (isHexDigit_iff.mpr h.1).1
      exact ⟨hascii, (canonicalChar_eq_ok hascii).mpr h⟩
  have hchars : ((∀ c ∈ chars, c.toNat < 128) ∧
      List.Forall₂ (fun c c' => canonicalChar c.val.toUInt8 = .ok c') chars canonical) ↔
        (∀ c ∈ chars, IsHexDigit c) ∧ canonical = chars.map Char.toLower := by
    rw [← forall₂_toLower, ← List.forall₂_and_left, ← List.forall₂_and_left]
    simp only [hpoint]
  rw [← hchars]
  constructor
  · intro h
    have hbytes : (chars.flatMap String.utf8EncodeChar).all isAsciiHexdigit = true := by
      rw [List.all_eq_true]
      intro b hb
      obtain ⟨c, -, hc⟩ := Except.eq_ok_of_mem_mapM h hb
      exact isAsciiHexdigit_of_canonicalChar hc
    have hascii : ∀ c ∈ chars, c.toNat < 128 := fun c hc =>
      ((Text.all_utf8 isAsciiHexdigit_lt).mp hbytes c hc).1
    rw [Text.utf8_of_ascii hascii, Except.mapM_eq_ok, List.forall₂_map_left_iff] at h
    exact ⟨hascii, h⟩
  · intro h
    rw [Text.utf8_of_ascii h.1, Except.mapM_eq_ok, List.forall₂_map_left_iff]
    exact h.2

/-- Hexadecimal text has as many bytes as characters. -/
theorem length_utf8 {chars : List Char} (h : ∀ c ∈ chars, IsHexDigit c) :
    (chars.flatMap String.utf8EncodeChar).length = chars.length := by
  rw [Text.utf8_of_ascii fun c hc => (isHexDigit_iff.mpr (h c hc)).1, List.length_map]

theorem canonical_length {value : String} {canonical : List Char}
    (hlength : ¬ (value.toList.flatMap String.utf8EncodeChar).length ≠ 64)
    (h : (value.toList.flatMap String.utf8EncodeChar).mapM canonicalChar = .ok canonical) :
    (String.ofList canonical).toList.length = 64 := by
  obtain ⟨hdigits, rfl⟩ := mapM_canonicalChar_eq_ok.mp h
  rw [String.toList_ofList, List.length_map, ← length_utf8 hdigits]
  exact not_not.mp hlength

theorem canonical_lowercase {value : String} {canonical : List Char}
    (h : (value.toList.flatMap String.utf8EncodeChar).mapM canonicalChar = .ok canonical) :
    ∀ c ∈ (String.ofList canonical).toList, ∃ n, c = Text.hexDigit n := by
  obtain ⟨hdigits, rfl⟩ := mapM_canonicalChar_eq_ok.mp h
  rw [String.toList_ofList, List.forall_mem_map]
  exact fun c hc => exists_hexDigit (hdigits c hc)

/-- Parses a 64-character hexadecimal SHA-256 digest; uppercase digits are normalized. -/
def parse (value : String) : Except AssetError ContentHash :=
  if hlength : (value.toList.flatMap String.utf8EncodeChar).length ≠ 64 then
    .error (.invalidContentHash "SHA-256 digest must contain 64 hexadecimal characters")
  else
    match hcanonical : (value.toList.flatMap String.utf8EncodeChar).mapM canonicalChar with
    | .error e => .error e
    | .ok canonical => .ok ⟨String.ofList canonical, canonical_length hlength hcanonical,
      canonical_lowercase hcanonical⟩

instance : Deserialize ContentHash := ⟨fun v => do (parse (← fromValue v)).toOption⟩

/-- Exactly 64 hexadecimal digits. -/
def IsHexText (value : String) : Prop :=
  value.toList.length = 64 ∧ ∀ c ∈ value.toList, IsHexDigit c

def lowercaseForm (value : String) : String := String.ofList (value.toList.map Char.toLower)

def uppercaseForm (value : String) : String := String.ofList (value.toList.map Char.toUpper)

theorem asStr_injective : Function.Injective asStr := by
  rintro ⟨text, _, _⟩ ⟨other, _, _⟩ h
  have htext : text = other := h
  subst htext
  rfl

/-- Hexadecimal text is parsed, and the hash is its lowercase form. -/
theorem parse_eq_ok {value : String} {hash : ContentHash} :
    parse value = .ok hash ↔ IsHexText value ∧ hash.asStr = lowercaseForm value := by
  unfold parse
  constructor
  · intro h
    split_ifs at h with hlength
    split at h
    · cases h
    · rename_i canonical hcanonical
      cases h
      obtain ⟨hdigits, rfl⟩ := mapM_canonicalChar_eq_ok.mp hcanonical
      rw [length_utf8 hdigits, not_not] at hlength
      exact ⟨⟨hlength, hdigits⟩, rfl⟩
  · rintro ⟨⟨hlength, hdigits⟩, htext⟩
    have hbytes : ¬ (value.toList.flatMap String.utf8EncodeChar).length ≠ 64 := by
      rw [length_utf8 hdigits]
      exact not_not.mpr hlength
    have hmapM := mapM_canonicalChar_eq_ok.mpr ⟨hdigits, rfl⟩
    rw [dif_neg hbytes]
    split
    · rename_i e herror
      cases hmapM.symm.trans herror
    · rename_i canonical hcanonical
      cases hmapM.symm.trans hcanonical
      exact congrArg Except.ok (asStr_injective htext.symm)

theorem exists_parse {value : String} : (∃ hash, parse value = .ok hash) ↔ IsHexText value := by
  simp only [parse_eq_ok]
  constructor
  · rintro ⟨_, hhex, -⟩
    exact hhex
  · intro hhex
    have hlength : (lowercaseForm value).toList.length = 64 := by
      unfold lowercaseForm
      rw [String.toList_ofList, List.length_map]
      exact hhex.1
    have hlowercase : ∀ c ∈ (lowercaseForm value).toList, ∃ n, c = Text.hexDigit n := by
      unfold lowercaseForm
      rw [String.toList_ofList, List.forall_mem_map]
      exact fun c hc => exists_hexDigit (hhex.2 c hc)
    exact ⟨⟨lowercaseForm value, hlength, hlowercase⟩, hhex, rfl⟩

theorem fromValue_string {value : String} {hash : ContentHash} :
    fromValue (.string value) = some hash ↔ parse value = .ok hash :=
  Except.toOption_eq_some

/-! ### Digests -/

/-- A lowercase digit is a digit, and stays as it is in lowercase. -/
theorem hexDigit_lower (n : Fin 16) :
    (Text.hexDigit n).toLower = Text.hexDigit n ∧
      (Text.hexDigit n).toUpper.toLower = Text.hexDigit n := by
  revert n
  decide

theorem isHexDigit_hexDigit (n : Fin 16) :
    IsHexDigit (Text.hexDigit n) ∧ IsHexDigit (Text.hexDigit n).toUpper := by
  rw [isHexDigit_toNat, isHexDigit_toNat]
  revert n
  decide

/-- What leaves every lowercase digit as it is leaves the text as it is. -/
theorem map_chars {f : Char → Char} (hash : ContentHash)
    (hf : ∀ n, f (Text.hexDigit n) = Text.hexDigit n) :
    hash.asStr.toList.map f = hash.asStr.toList := by
  have hchars : ∀ c ∈ hash.asStr.toList, f c = id c := by
    intro c hc
    obtain ⟨n, rfl⟩ := hash.lowercase c hc
    exact hf n
  rw [List.map_congr_left hchars, List.map_id]

theorem parse_asStr (hash : ContentHash) : parse hash.asStr = .ok hash := by
  rw [parse_eq_ok]
  refine ⟨⟨hash.length_eq, fun c hc => ?_⟩, ?_⟩
  · obtain ⟨n, rfl⟩ := hash.lowercase c hc
    exact (isHexDigit_hexDigit n).1
  · unfold lowercaseForm
    rw [map_chars hash fun n => (hexDigit_lower n).1, String.ofList_toList]

theorem parse_uppercaseForm (hash : ContentHash) :
    parse (uppercaseForm hash.asStr) = .ok hash := by
  unfold uppercaseForm
  rw [parse_eq_ok]
  refine ⟨⟨?_, ?_⟩, ?_⟩
  · rw [String.toList_ofList, List.length_map]
    exact hash.length_eq
  · rw [String.toList_ofList, List.forall_mem_map]
    intro c hc
    obtain ⟨n, rfl⟩ := hash.lowercase c hc
    exact (isHexDigit_hexDigit n).2
  · unfold lowercaseForm
    rw [String.toList_ofList, List.map_map, map_chars hash fun n => (hexDigit_lower n).2,
      String.ofList_toList]

theorem fromBytes_injective : Function.Injective fromBytes := by
  intro bytes other h
  have htext : String.ofList (Text.hexBytes bytes.toList) =
      String.ofList (Text.hexBytes other.toList) := congrArg asStr h
  have hlist := Text.hexBytes_injective (String.ofList_injective htext)
  exact Vector.toList_inj.mp hlist

/-- Every hash is that of exactly one digest. -/
theorem existsUnique_fromBytes (hash : ContentHash) :
    ∃! bytes : Vector UInt8 32, hash = fromBytes bytes := by
  obtain ⟨bytes, hlength, htext⟩ := @Text.exists_hexBytes 32 _ hash.length_eq hash.lowercase
  have hhash : hash = fromBytes ⟨bytes.toArray, by simp [hlength]⟩ := by
    apply asStr_injective
    show hash.text = String.ofList (Text.hexBytes bytes)
    rw [htext, String.ofList_toList]
  refine ⟨_, hhash, fun other hother => ?_⟩
  exact fromBytes_injective (hother.symm.trans hhash)

/-- A hash is a canonical form of its digest: text is parsed exactly when it is hexadecimal of the
right length, in either case, and every hash is read back from its text, is that of one digest,
and is told apart by its text. -/
theorem content_hash_canonical :
    (∀ value, (∃ hash, parse value = .ok hash) ↔ IsHexText value) ∧
    (∀ value hash, parse value = .ok hash ↔
      IsHexText value ∧ hash.asStr = lowercaseForm value) ∧
    (∀ value (hash : ContentHash), fromValue (.string value) = some hash ↔
      parse value = .ok hash) ∧
    (∀ hash : ContentHash, parse hash.asStr = .ok hash) ∧
    (∀ bytes, parse (fromBytes bytes).asStr = .ok (fromBytes bytes) ∧
      parse (uppercaseForm (fromBytes bytes).asStr) = .ok (fromBytes bytes)) ∧
    (∀ hash : ContentHash, ∃! bytes, hash = fromBytes bytes) ∧
    ∀ bytes other, (fromBytes bytes).asStr = (fromBytes other).asStr ↔ bytes = other := by
  refine ⟨fun _ => exists_parse, fun _ _ => parse_eq_ok, fun _ _ => fromValue_string, parse_asStr,
    fun _ => ⟨parse_asStr _, parse_uppercaseForm _⟩, existsUnique_fromBytes, fun bytes other => ?_⟩
  rw [asStr_injective.eq_iff, fromBytes_injective.eq_iff]

end ContentHash
end OrbitRelay
