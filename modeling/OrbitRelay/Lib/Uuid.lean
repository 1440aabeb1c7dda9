import OrbitRelay.Lib.Text

/-! UUID values and their text forms, after the `uuid` crate: sixteen bytes, a
lowercase hyphenated display, and a parser for the simple, hyphenated, braced and
URN spellings. -/

structure Uuid where
  bytes : Vector UInt8 16
deriving DecidableEq

namespace Uuid

/-- Groups 32 digits as 8-4-4-4-12. -/
def hyphenate (digits : List Char) : List Char :=
  digits.take 8 ++ '-' :: ((digits.drop 8).take 4 ++ '-' :: ((digits.drop 12).take 4 ++
    '-' :: ((digits.drop 16).take 4 ++ '-' :: digits.drop 20)))

/-- Removes the hyphens at the four fixed positions of a 36-character spelling. -/
def unhyphenate? (text : List Char) : Option (List Char) :=
  if text.length = 36 ∧ text[8]? = some '-' ∧ text[13]? = some '-' ∧
      text[18]? = some '-' ∧ text[23]? = some '-' then
    some (text.take 8 ++ ((text.drop 9).take 4 ++ ((text.drop 14).take 4 ++
      ((text.drop 19).take 4 ++ text.drop 24))))
  else none

def hyphenated (u : Uuid) : String :=
  String.ofList (hyphenate (Text.hexBytes u.bytes.toList))

private def ofBytes? (bytes : List UInt8) : Option Uuid :=
  if h : bytes.toArray.size = 16 then some ⟨⟨bytes.toArray, h⟩⟩ else none

private def parseSimple (text : List Char) : Option Uuid := do
  ofBytes? (← Text.parseHex? text)

private def parseHyphenated (text : List Char) : Option Uuid := do
  parseSimple (← unhyphenate? text)

/-- The parser selects the spelling by length, then by its fixed delimiters. -/
def parseStr (s : String) : Option Uuid :=
  let text := s.toList
  if text.length = 32 then parseSimple text
  else if text.length = 36 then parseHyphenated text
  else if text.length = 38 then
    if text.head? = some '{' ∧ text.getLast? = some '}' then
      parseHyphenated (text.tail.dropLast)
    else none
  else if text.length = 45 then
    if text.take 9 = "urn:uuid:".toList then parseHyphenated (text.drop 9) else none
  else none

private theorem digits_length (u : Uuid) : (Text.hexBytes u.bytes.toList).length = 32 := by
  rw [Text.hexBytes_length, Vector.length_toList]

theorem hyphenate_length {digits : List Char} (h : digits.length = 32) :
    (hyphenate digits).length = 36 := by
  simp only [hyphenate, List.length_append, List.length_cons, List.length_take, List.length_drop, h]
  omega

theorem unhyphenate?_hyphenate {digits : List Char} (h : digits.length = 32) :
    unhyphenate? (hyphenate digits) = some digits := by
  obtain ⟨a, rest, rfl, ha⟩ : ∃ a rest, digits = a ++ rest ∧ a.length = 8 :=
    ⟨digits.take 8, digits.drop 8, (List.take_append_drop 8 digits).symm, by simp [h]⟩
  obtain ⟨b, rest, rfl, hb⟩ : ∃ b rest', rest = b ++ rest' ∧ b.length = 4 :=
    ⟨rest.take 4, rest.drop 4, (List.take_append_drop 4 rest).symm, by simp at h ⊢; omega⟩
  obtain ⟨c, rest, rfl, hc⟩ : ∃ c rest', rest = c ++ rest' ∧ c.length = 4 :=
    ⟨rest.take 4, rest.drop 4, (List.take_append_drop 4 rest).symm, by simp at h ⊢; omega⟩
  obtain ⟨d, e, rfl, hd⟩ : ∃ d e, rest = d ++ e ∧ d.length = 4 :=
    ⟨rest.take 4, rest.drop 4, (List.take_append_drop 4 rest).symm, by simp at h ⊢; omega⟩
  have he : e.length = 12 := by simp at h; omega
  have hgroups : hyphenate (a ++ (b ++ (c ++ (d ++ e)))) =
      a ++ '-' :: (b ++ '-' :: (c ++ '-' :: (d ++ '-' :: e))) := by
    simp [hyphenate, List.drop_append, List.drop_of_length_le, ha, hb, hc, hd]
  rw [hgroups, unhyphenate?, if_pos]
  · simp [List.drop_append, List.drop_of_length_le, ha, hb, hc, hd]
  · simp [ha, hb, hc, hd, he]

/-- The parser reads back the displayed form. -/
@[simp] theorem parseStr_hyphenated (u : Uuid) : parseStr u.hyphenated = some u := by
  have hlen := digits_length u
  have hbytes : u.bytes.toList.toArray.size = 16 := by simp
  have hback : ofBytes? u.bytes.toList = some u := by
    rw [ofBytes?, dif_pos hbytes]
    obtain ⟨⟨bytes, h⟩⟩ := u
    simp [Vector.toList]
  simp only [parseStr, hyphenated, String.toList_ofList, hyphenate_length hlen]
  simp [parseHyphenated, unhyphenate?_hyphenate hlen, parseSimple, Text.parseHex?_hexBytes, hback]

/-- The displayed form starts with a hexadecimal digit, so it is never blank. -/
theorem isBlank_hyphenated (u : Uuid) : Text.isBlank u.hyphenated = false := by
  obtain ⟨c, n, rest, hc, hrest⟩ : ∃ c n rest, c = Text.hexDigit n ∧
      hyphenate (Text.hexBytes u.bytes.toList) = c :: rest := by
    have hne : u.bytes.toList ≠ [] := by
      intro h
      simpa [h] using u.bytes.length_toList
    obtain ⟨b, bytes, hb⟩ := List.exists_cons_of_ne_nil hne
    exact ⟨_, Fin.ofNat 16 (b.toNat / 16), _, rfl, by
      rw [hb]; simp [hyphenate, Text.hexBytes, Text.hexByte]; rfl⟩
  simp [Text.isBlank, hyphenated, hrest, hc, Text.isWhitespace_hexDigit]

end Uuid
