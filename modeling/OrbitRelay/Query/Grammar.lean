import OrbitRelay.Lib.Result
import OrbitRelay.Query.Model

/-! The grammar of query types: what the trim comparison, the split and the check of the bytes
accept together. -/
namespace OrbitRelay
open Json

/-- A character that may stand in a segment. -/
def IsSegmentChar (c : Char) : Prop := ('a' ≤ c ∧ c ≤ 'z') ∨ ('0' ≤ c ∧ c ≤ '9') ∨ c = '_'

/-- A non-empty segment of lowercase letters, digits and underscores. -/
def IsSegment (segment : List Char) : Prop := segment ≠ [] ∧ ∀ c ∈ segment, IsSegmentChar c

/-- Two or more segments, separated by single dots. -/
def IsQueryTypeText (value : String) : Prop :=
  ∃ segments : List (List Char), 2 ≤ segments.length ∧ (∀ segment ∈ segments, IsSegment segment) ∧
    value.toList = ['.'].intercalate segments

theorem isSegmentChar_toNat {c : Char} : IsSegmentChar c ↔
    (97 ≤ c.toNat ∧ c.toNat ≤ 122) ∨ (48 ≤ c.toNat ∧ c.toNat ≤ 57) ∨ c.toNat = 95 := by
  unfold IsSegmentChar
  rw [Text.le_iff_toNat_le, Text.le_iff_toNat_le, Text.le_iff_toNat_le, Text.le_iff_toNat_le,
    ← Char.toNat_inj]
  exact Iff.rfl

theorem isQueryTypeByte_toNat {b : UInt8} : isQueryTypeByte b = true ↔
    (97 ≤ b.toNat ∧ b.toNat ≤ 122) ∨ (48 ≤ b.toNat ∧ b.toNat ≤ 57) ∨ b.toNat = 95 := by
  unfold isQueryTypeByte
  simp only [Bool.or_eq_true, Bool.and_eq_true, decide_eq_true_eq, beq_iff_eq,
    UInt8.le_iff_toNat_le, ← UInt8.toNat_inj, or_assoc]
  exact Iff.rfl

/-- The check of the bytes accepts a character exactly when it may stand in a segment. -/
theorem isSegmentChar_iff {c : Char} :
    c.toNat < 128 ∧ isQueryTypeByte c.val.toUInt8 = true ↔ IsSegmentChar c := by
  rw [isSegmentChar_toNat, isQueryTypeByte_toNat]
  constructor
  · rintro ⟨hascii, hbyte⟩
    rw [Text.toNat_val_toUInt8 hascii] at hbyte
    exact hbyte
  · intro hchar
    have hascii : c.toNat < 128 := by omega
    rw [Text.toNat_val_toUInt8 hascii]
    exact ⟨hascii, hchar⟩

theorem isSegment_iff {part : List Char} :
    (part.isEmpty || !(part.flatMap String.utf8EncodeChar).all isQueryTypeByte) = false ↔
      IsSegment part := by
  have hbytes : ∀ b, isQueryTypeByte b = true → b.toNat < 128 := by
    intro b hb
    rw [isQueryTypeByte_toNat] at hb
    omega
  unfold IsSegment
  rw [Bool.or_eq_false_iff, Bool.not_eq_false', Text.all_utf8 hbytes, List.isEmpty_eq_false_iff]
  exact and_congr_right fun _ => forall₂_congr fun c _ => isSegmentChar_iff

/-- The parts between the dots are two or more segments. -/
def SegmentTest (chars : List Char) : Prop :=
  2 ≤ (chars.splitOn '.').length ∧ ∀ part ∈ chars.splitOn '.', IsSegment part

theorem IsSegmentChar.ne_dot {c : Char} (h : IsSegmentChar c) : c ≠ '.' := by
  rintro rfl
  rw [isSegmentChar_toNat] at h
  revert h
  decide

/-- The segment test accepts the grammar. -/
theorem segmentTest_iff {value : String} : SegmentTest value.toList ↔ IsQueryTypeText value := by
  constructor
  · rintro ⟨hlength, hparts⟩
    exact ⟨_, hlength, hparts, (List.intercalate_splitOn '.').symm⟩
  · rintro ⟨segments, hlength, hsegments, hvalue⟩
    have hsplit : value.toList.splitOn '.' = segments := by
      rw [hvalue]
      apply List.splitOn_intercalate
      · intro segment hsegment hdot
        exact ((hsegments segment hsegment).2 '.' hdot).ne_dot rfl
      · rintro rfl
        simp at hlength
    unfold SegmentTest
    rw [hsplit]
    exact ⟨hlength, hsegments⟩

theorem mem_intercalate {c : Char} {segments : List (List Char)}
    (h : c ∈ ['.'].intercalate segments) : c = '.' ∨ ∃ segment ∈ segments, c ∈ segment := by
  induction segments with
  | nil => simp at h
  | cons segment segments ih =>
    cases segments with
    | nil =>
      rw [List.intercalate_singleton] at h
      exact .inr ⟨segment, List.mem_cons_self, h⟩
    | cons next rest =>
      rw [List.intercalate_cons_cons, List.mem_append, List.mem_append, List.mem_singleton] at h
      rcases h with (hhead | hdot) | hrest
      · exact .inr ⟨segment, List.mem_cons_self, hhead⟩
      · exact .inl hdot
      · rcases ih hrest with hdot | ⟨other, hother, hc⟩
        · exact .inl hdot
        · exact .inr ⟨other, List.mem_cons_of_mem _ hother, hc⟩

theorem IsSegmentChar.not_whitespace {c : Char} (h : IsSegmentChar c) :
    Text.isWhitespace c = false := by
  rw [isSegmentChar_toNat] at h
  rw [← Bool.not_eq_true]
  intro hwhite
  unfold Text.isWhitespace at hwhite
  simp only [Bool.or_eq_true, Bool.and_eq_true, decide_eq_true_eq, beq_iff_eq] at hwhite
  omega

/-- Text of the grammar has no white space, so trimming leaves it as it is. -/
theorem IsQueryTypeText.trim {value : String} (h : IsQueryTypeText value) :
    Text.trim value.toList = value.toList := by
  obtain ⟨segments, -, hsegments, hvalue⟩ := h
  apply Text.trim_eq_self
  intro c hc
  rw [hvalue] at hc
  rcases mem_intercalate hc with rfl | ⟨segment, hsegment, hc⟩
  · decide
  · exact ((hsegments segment hsegment).2 c hc).not_whitespace

theorem IsQueryTypeText.ne_nil {value : String} (h : IsQueryTypeText value) :
    value.toList ≠ [] := by
  intro hnil
  rw [← segmentTest_iff, hnil] at h
  have hlength : 2 ≤ 1 := h.1
  omega

theorem validateQueryType_eq_ok {value : String} :
    validateQueryType value = .ok () ↔ IsQueryTypeText value := by
  unfold validateQueryType
  dsimp only
  constructor
  · intro h
    split_ifs at h with htrim hparts
    rw [not_or, Nat.not_lt, Bool.not_eq_true, List.any_eq_false] at hparts
    refine segmentTest_iff.mp ⟨hparts.1, fun part hpart => ?_⟩
    rw [← isSegment_iff, ← Bool.not_eq_true]
    exact hparts.2 part hpart
  · intro h
    obtain ⟨hlength, hsegments⟩ := segmentTest_iff.mpr h
    rw [if_neg (not_or.mpr ⟨not_not.mpr h.trim, h.ne_nil⟩), if_neg]
    rw [not_or, Nat.not_lt, Bool.not_eq_true, List.any_eq_false]
    refine ⟨hlength, fun part hpart => ?_⟩
    rw [Bool.not_eq_true, isSegment_iff]
    exact hsegments part hpart

def QueryType.asStr (queryType : QueryType) : String := queryType.value

theorem QueryType.exists_new {value : String} :
    (∃ queryType, QueryType.new value = .ok queryType) ↔ IsQueryTypeText value := by
  rw [← validateQueryType_eq_ok]
  constructor
  · rintro ⟨queryType, hnew⟩
    rw [← QueryType.new_eq_ok.mp hnew]
    exact queryType.valid
  · intro hvalid
    exact ⟨⟨value, hvalid⟩, QueryType.new_eq_ok.mpr rfl⟩

/-- Reading a query type is creating it from a string. -/
theorem QueryType.fromValue_eq_some {v : Value} {queryType : QueryType} :
    fromValue v = some queryType ↔ v = .string queryType.value := by
  constructor
  · intro h
    obtain ⟨value, hvalue, hnew⟩ := Option.bind_eq_some_iff.mp h
    rw [Except.toOption_eq_some, QueryType.new_eq_ok] at hnew
    rw [hnew]
    exact eq_string_of_fromValue hvalue
  · rintro rfl
    exact fromValue_toValue queryType

end OrbitRelay
