import OrbitRelay.Lib.PdfLexical
import OrbitRelay.Lib.Result
import OrbitRelay.Pdf.Basic

/-! The encryption preflight scan, against the lexical rules of PDF. The scan reads the second
`<` of a dictionary opener as a hexadecimal string and does not end a name at a null byte, so it
sees the markers that stand elsewhere, as long as it comes back into step with the rules. -/
namespace OrbitRelay
open PdfLexical

/-! A position in the input is given by the bytes that remain. -/

def skipComment (bytes : List UInt8) : List UInt8 :=
  bytes.dropWhile fun byte => !(byte == 13 || byte == 10)

/-- Skips a literal string; the parentheses are counted in a `u32`. -/
def skipLiteralString (depth : Nat) : List UInt8 → Except Panic (List UInt8)
  | [] => .ok []
  | byte :: rest =>
    if byte = backslash then skipLiteralString depth rest.tail
    else if byte = openParen then
      if depth + 1 < 2 ^ 32 then skipLiteralString (depth + 1) rest
      else .error (.expect "attempt to add with overflow")
    else if byte = closeParen then
      if depth - 1 = 0 then .ok rest else skipLiteralString (depth - 1) rest
    else skipLiteralString depth rest
termination_by bytes => bytes.length

def skipHexString : List UInt8 → List UInt8
  | [] => []
  | byte :: rest => if byte = greaterThan then rest else skipHexString rest

/-- `u8::is_ascii_whitespace`. -/
def isAsciiWhitespace (byte : UInt8) : Bool :=
  byte == 9 || byte == 10 || byte == 12 || byte == 13 || byte == 32

/-- The marker stands after this slash, and the name ends behind it. -/
def startsMarker (rest : List UInt8) : Bool :=
  (byteString "Encrypt").isPrefixOf rest &&
    (rest.drop 7).head?.all fun next => isAsciiWhitespace next || isDelimiter next

theorem skipComment_length (rest : List UInt8) :
    (skipComment (percent :: rest)).length ≤ rest.length := by
  have hdrop : skipComment (percent :: rest) = skipComment rest := rfl
  rw [hdrop]
  exact (List.dropWhile_sublist _).length_le

theorem skipHexString_length (bytes : List UInt8) :
    (skipHexString bytes).length ≤ bytes.length := by
  induction bytes with
  | nil => exact Nat.le_refl _
  | cons byte rest ih =>
    unfold skipHexString
    split_ifs <;> simp only [List.length_cons] <;> omega

theorem skipLiteralString_length {depth : Nat} {bytes left : List UInt8}
    (h : skipLiteralString depth bytes = .ok left) : left.length ≤ bytes.length - 1 := by
  induction hn : bytes.length using Nat.strongRecOn generalizing depth bytes with
  | _ n ih =>
    cases bytes with
    | nil =>
      rw [skipLiteralString] at h
      cases h
      simp
    | cons byte rest =>
      simp only [List.length_cons] at hn
      have htail : rest.tail.length = rest.length - 1 := List.length_tail
      rw [skipLiteralString] at h
      split_ifs at h with hescape hopen hroom hclose hend
      · have hle := ih _ (by omega) h rfl
        omega
      · have hle := ih _ (by omega) h rfl
        omega
      · cases h
        omega
      · have hle := ih _ (by omega) h rfl
        omega
      · have hle := ih _ (by omega) h rfl
        omega

/-- Whether a direct or indirect encryption dictionary marker stands outside of comments and
strings, as the scan sees it. -/
def containsEncryptMarker : List UInt8 → Except Panic Bool
  | [] => .ok false
  | byte :: rest =>
    if byte = percent then containsEncryptMarker (skipComment (byte :: rest))
    else if byte = openParen then
      match _hleft : skipLiteralString 0 (byte :: rest) with
      | .error e => .error e
      | .ok left => containsEncryptMarker left
    else if byte = lessThan ∧ rest.head? ≠ some lessThan then
      containsEncryptMarker (skipHexString rest)
    else if byte = slash ∧ startsMarker rest = true then .ok true
    else containsEncryptMarker rest
termination_by bytes => bytes.length
decreasing_by
  · rename_i hcomment
    have hle := skipComment_length rest
    rw [hcomment, List.length_cons]
    omega
  · have hle := skipLiteralString_length _hleft
    simp only [List.length_cons] at hle ⊢
    omega
  · have hle := skipHexString_length rest
    simp only [List.length_cons]
    omega
  · simp

theorem containsEncryptMarker_cons (byte : UInt8) (rest : List UInt8) :
    containsEncryptMarker (byte :: rest) =
      if byte = percent then containsEncryptMarker (skipComment rest)
      else if byte = openParen then skipLiteralString 1 rest >>= containsEncryptMarker
      else if byte = lessThan ∧ rest.head? ≠ some lessThan then
        containsEncryptMarker (skipHexString rest)
      else if byte = slash ∧ startsMarker rest = true then .ok true
      else containsEncryptMarker rest := by
  rw [containsEncryptMarker]
  by_cases hcomment : byte = percent
  · rw [if_pos hcomment, if_pos hcomment, hcomment]
    rfl
  by_cases hopen : byte = openParen
  · have hleft : skipLiteralString 0 (byte :: rest) = skipLiteralString 1 rest := by
      rw [hopen, skipLiteralString, if_neg (by decide), if_pos rfl, if_pos (by decide)]
    rw [if_neg hcomment, if_neg hcomment, if_pos hopen, if_pos hopen, ← hleft]
    split
    · rename_i hskip
      rw [hskip]
      rfl
    · rename_i hskip
      rw [hskip]
      rfl
  · rw [if_neg hcomment, if_neg hcomment, if_neg hopen, if_neg hopen]

/-- Every `<` is read as the start of a hexadecimal string, also that of a dictionary opener. -/
theorem containsEncryptMarker_lessThan (rest : List UInt8) :
    containsEncryptMarker (lessThan :: rest) = containsEncryptMarker (skipHexString rest) := by
  induction rest with
  | nil => rw [containsEncryptMarker_cons, if_neg (by decide), if_neg (by decide), if_pos (by simp)]
  | cons byte rest ih =>
    rw [containsEncryptMarker_cons, if_neg (by decide), if_neg (by decide)]
    by_cases hless : byte = lessThan
    · subst hless
      have hskip : skipHexString (lessThan :: rest) = skipHexString rest := rfl
      rw [if_neg (by simp), if_neg (fun h => absurd h.1 (by decide)), hskip]
      exact ih
    · rw [if_pos ⟨rfl, by simpa using hless⟩]

theorem skipHexString_append {body : List UInt8} (hbody : greaterThan ∉ body)
    (after : List UInt8) : skipHexString (body ++ greaterThan :: after) = after := by
  induction body with
  | nil => rfl
  | cons byte body ih =>
    rw [List.mem_cons, not_or] at hbody
    rw [List.cons_append, skipHexString, if_neg (Ne.symm hbody.1), ih hbody.2]

theorem skipHexString_eq_nil {bytes : List UInt8} (h : greaterThan ∉ bytes) :
    skipHexString bytes = [] := by
  induction bytes with
  | nil => rfl
  | cons byte rest ih =>
    rw [List.mem_cons, not_or] at h
    rw [skipHexString, if_neg (Ne.symm h.1), ih h.2]

/-! ### The markers, by the rules -/

/-- The marker stands in the input as a name token, by the rules of PDF. -/
def hasEncryptMarker (bytes : List UInt8) : Bool := readsName (byteString "Encrypt") .regular bytes

/-- Such a marker stands here, behind its slash. -/
def MarkerAt (bytes rest : List UInt8) : Prop :=
  Passes bytes .regular (slash :: rest) ∧ startsName (byteString "Encrypt") rest = true

theorem hasEncryptMarker_iff (bytes : List UInt8) :
    hasEncryptMarker bytes = true ↔ ∃ rest, MarkerAt bytes rest :=
  readsName_iff

/-- A dictionary was opened before this position, and no `>` has come since. -/
def BehindOpener (bytes rest : List UInt8) : Prop :=
  ∃ body, greaterThan ∉ body ∧ Passes bytes .regular (lessThan :: lessThan :: (body ++ rest))

/-- A marker that is neither right behind a dictionary opener nor ended by a null byte. -/
structure PlainMarker (bytes rest : List UInt8) : Prop where
  marker : MarkerAt bytes rest
  free : ¬ BehindOpener bytes (slash :: rest)
  ended : (rest.drop 7).head? ≠ some 0

/-- No plain marker stands before this position. -/
def Unfound (bytes rest : List UInt8) : Prop :=
  ∀ marker, PlainMarker bytes marker → marker.length < rest.length

/-- Up to the first plain marker, the first `>` behind every dictionary opener stands outside of
comments and literal strings. -/
def OpenersInStep (bytes : List UInt8) : Prop :=
  ∀ body after, greaterThan ∉ body →
    Passes bytes .regular (lessThan :: lessThan :: (body ++ greaterThan :: after)) →
    Unfound bytes (lessThan :: lessThan :: (body ++ greaterThan :: after)) →
      Passes bytes .regular (greaterThan :: after) ∨ Passes bytes .hex (greaterThan :: after)

/-- Up to the first plain marker, the literal strings that are not right behind a dictionary
opener nest less deep than a `u32` can count. -/
def ShallowLiterals (bytes : List UInt8) : Prop :=
  ∀ depth rest, Passes bytes (.literal depth) rest → Unfound bytes rest →
    ¬ BehindOpener bytes rest → depth < 2 ^ 32

/-- What the scan looks for is a marker that no null byte ends. -/
theorem startsMarker_iff (rest : List UInt8) :
    startsMarker rest = true ↔
      startsName (byteString "Encrypt") rest = true ∧ (rest.drop 7).head? ≠ some 0 := by
  have hlength : (byteString "Encrypt").length = 7 := rfl
  unfold startsMarker startsName
  rw [hlength, Bool.and_eq_true, Bool.and_eq_true, and_assoc]
  apply and_congr_right'
  cases (rest.drop 7).head? with
  | none => simp
  | some next =>
    by_cases hzero : next = 0
    · subst hzero
      decide
    · have hspace : isWhiteSpace next = isAsciiWhitespace next := by
        unfold isWhiteSpace isAsciiWhitespace
        rw [beq_false_of_ne hzero, Bool.false_or]
      simp [hspace, hzero]

section Openers
variable {bytes body rest rest' : List UInt8} {mode mode' : Mode} {byte : UInt8}

/-- A position behind a dictionary opener cuts what follows the opener in two. -/
theorem exists_split_of_opened
    (hopened : Passes bytes .regular (lessThan :: lessThan :: (body ++ rest)))
    (h : Passes bytes mode rest') (hle : rest.length ≤ rest'.length)
    (hlt : rest'.length < body.length + rest.length + 2) :
    ∃ front chunk, body = front ++ chunk ∧ rest' = chunk ++ rest := by
  have hstep := Reads.byte .regular lessThan (lessThan :: (body ++ rest))
  have hbehind : rest'.length ≤ (body ++ rest).length := by
    apply hopened.not_between hstep h
    simp only [List.length_cons, List.length_append]
    omega
  have hsuffix : rest' <:+ body ++ rest := by
    refine List.suffix_of_suffix_length_le h.suffix (.trans ?_ hopened.suffix) hbehind
    exact ⟨[lessThan, lessThan], rfl⟩
  obtain ⟨front, hfront⟩ := hsuffix
  rcases List.append_eq_append_iff.mp hfront with ⟨chunk, hbody, hrest⟩ | ⟨chunk, hfront, hrest⟩
  · exact ⟨front, chunk, hbody, hrest⟩
  · have hnil : chunk = [] := by
      have hlength := congrArg List.length hrest
      rw [List.length_append] at hlength
      exact List.length_eq_zero_iff.mp (by omega)
    subst hnil
    exact ⟨body, [], (List.append_nil body).symm, hrest.symm⟩

theorem behindOpener_of_opened (hbody : greaterThan ∉ body)
    (hopened : Passes bytes .regular (lessThan :: lessThan :: (body ++ rest)))
    (h : Passes bytes mode rest') (hle : rest.length ≤ rest'.length)
    (hlt : rest'.length < body.length + rest.length + 2) : BehindOpener bytes rest' := by
  obtain ⟨front, chunk, rfl, rfl⟩ := exists_split_of_opened hopened h hle hlt
  rw [List.append_assoc] at hopened
  exact ⟨front, fun hmem => hbody (List.mem_append_left _ hmem), hopened⟩

/-- Behind a `>` the dictionary openers before it do not count. -/
theorem not_behindOpener_of_greaterThan (h : Passes bytes mode (greaterThan :: rest)) :
    ¬ BehindOpener bytes rest := by
  rintro ⟨body, hbody, hopened⟩
  obtain ⟨front, chunk, rfl, hchunk⟩ := exists_split_of_opened hopened h
    (by simp) (by simp only [List.length_cons]; omega)
  have hmem : greaterThan ∈ chunk := by
    have hsingle : chunk = [greaterThan] := List.append_cancel_right hchunk.symm
    rw [hsingle]
    exact List.mem_singleton_self _
  exact hbody (List.mem_append_right _ hmem)

/-- A step of the reading comes behind an opener only from there, or from the opener itself. -/
theorem not_behindOpener_of_step (h : Passes bytes mode (byte :: rest))
    (hfree : ¬ BehindOpener bytes (byte :: rest))
    (hopener : ¬ (mode = .regular ∧ byte = lessThan ∧ rest.head? = some lessThan))
    (hstep : Reads (mode, byte :: rest) (mode', rest')) : ¬ BehindOpener bytes rest' := by
  rintro ⟨body, hbody, hopened⟩
  have hshorter := hstep.length_lt
  rcases Nat.lt_trichotomy (byte :: rest).length (body.length + rest'.length + 2) with
    hlt | heq | hgt
  · exact hfree (behindOpener_of_opened hbody hopened h hshorter.le hlt)
  · have hlength : (byte :: rest).length =
        (lessThan :: lessThan :: (body ++ rest')).length := by
      simp only [List.length_cons, List.length_append] at heq ⊢
      omega
    obtain ⟨hmode, hrest⟩ := h.eq_of_length hopened hlength
    cases hrest
    exact hopener ⟨hmode, rfl, rfl⟩
  · have hle := h.not_between hstep hopened (by
      simp only [List.length_cons, List.length_append] at hgt ⊢
      omega)
    simp only [List.length_cons, List.length_append] at hle
    omega

end Openers

/-! ### The scan keeps to the reading -/

/-- The rules and the scan are at one position, before the first plain marker. -/
structure ScanReached (bytes : List UInt8) (mode : Mode) (rest : List UInt8) : Prop where
  passes : Passes bytes mode rest
  free : ¬ BehindOpener bytes rest
  unfound : Unfound bytes rest

/-- The scan has counted every literal string so far. -/
structure ScanTrack (bytes : List UInt8) (mode : Mode) (rest : List UInt8) : Prop
    extends ScanReached bytes mode rest where
  shallow : ∀ depth rest', Passes bytes (.literal depth) rest' → Unfound bytes rest' →
    ¬ BehindOpener bytes rest' → rest.length ≤ rest'.length → depth < 2 ^ 32

section Steps
variable {bytes rest rest' : List UInt8} {mode mode' : Mode} {byte : UInt8}

/-- A step leaves a plain marker behind only if it starts there. -/
theorem ScanReached.step (h : ScanReached bytes mode (byte :: rest))
    (hopener : ¬ (mode = .regular ∧ byte = lessThan ∧ rest.head? = some lessThan))
    (hmarker : ¬ (mode = .regular ∧ byte = slash ∧ startsMarker rest = true))
    (hadvance : advance mode byte rest = (mode', rest')) : ScanReached bytes mode' rest' := by
  have hstep : Reads (mode, byte :: rest) (mode', rest') := hadvance ▸ .byte mode byte rest
  refine ⟨h.passes.step hstep, not_behindOpener_of_step h.passes h.free hopener hstep, ?_⟩
  intro marker hplain
  have hpasses := hplain.marker.1
  rcases Nat.lt_or_eq_of_le (Nat.succ_le_of_lt (h.unfound marker hplain)) with hlt | heq
  · exact h.passes.not_between hstep hpasses hlt
  · obtain ⟨hmode, hrest⟩ := hpasses.eq_of_length h.passes heq
    cases hrest
    have hstarts := (startsMarker_iff rest).mpr ⟨hplain.marker.2, hplain.ended⟩
    exact absurd ⟨hmode.symm, rfl, hstarts⟩ hmarker

/-- A literal string that is too deep for the count. -/
theorem ScanReached.not_shallow {depth : Nat} (h : ScanReached bytes (.literal depth) rest)
    (hdepth : 2 ^ 32 ≤ depth) : ¬ ShallowLiterals bytes := fun hshallow =>
  Nat.not_lt.mpr hdepth (hshallow depth rest h.passes h.unfound h.free)

theorem ScanTrack.step (h : ScanTrack bytes mode (byte :: rest))
    (hopener : ¬ (mode = .regular ∧ byte = lessThan ∧ rest.head? = some lessThan))
    (hmarker : ¬ (mode = .regular ∧ byte = slash ∧ startsMarker rest = true))
    (hadvance : advance mode byte rest = (mode', rest'))
    (hdepth : ∀ depth, mode' = .literal depth → depth < 2 ^ 32) : ScanTrack bytes mode' rest' := by
  have hreached := h.toScanReached.step hopener hmarker hadvance
  have hstep : Reads (mode, byte :: rest) (mode', rest') := hadvance ▸ .byte mode byte rest
  refine ⟨hreached, fun depth other hpasses hunfound hfree hle => ?_⟩
  rcases Nat.lt_or_eq_of_le hle with hlt | heq
  · refine h.shallow depth other hpasses hunfound hfree (Nat.not_lt.mp fun hbetween => ?_)
    exact Nat.not_le.mpr hlt (h.passes.not_between hstep hpasses hbetween)
  · exact hdepth depth (hreached.passes.eq_of_length hpasses heq).1

theorem track_start (bytes : List UInt8) : ScanTrack bytes .regular bytes := by
  refine ⟨⟨passes_start bytes, ?_, fun marker hplain => ?_⟩, fun depth rest hpasses _ _ hle => ?_⟩
  · rintro ⟨body, -, hopened⟩
    have hle := hopened.suffix.length_le
    simp only [List.length_cons, List.length_append] at hle
    omega
  · exact hplain.marker.1.suffix.length_le
  · have hsame := hpasses.suffix.eq_of_length_le hle
    cases ((passes_start bytes).eq_of_length hpasses (congrArg List.length hsame.symm)).1

/-- Inside comments and strings no opener and no marker counts. -/
theorem ScanTrack.inside (h : ScanTrack bytes mode (byte :: rest)) (hmode : mode ≠ .regular)
    (hadvance : advance mode byte rest = (mode', rest'))
    (hdepth : ∀ depth, mode' = .literal depth → depth < 2 ^ 32) : ScanTrack bytes mode' rest' :=
  h.step (fun hregular => hmode hregular.1) (fun hregular => hmode hregular.1) hadvance hdepth

end Steps

/-- Where a skipped comment or string leaves the scan: outside of it, or at the end. -/
def ScanStopped (bytes rest : List UInt8) : Prop :=
  ScanTrack bytes .regular rest ∨ rest = [] ∧ ∃ mode, ScanTrack bytes mode []

/-- What the scan has to answer. -/
def ScanAnswers (bytes : List UInt8) : Except Panic Bool → Prop
  | .ok found => ShallowLiterals bytes ∧ (found = true ↔ ∃ rest, PlainMarker bytes rest)
  | .error _ => ¬ ShallowLiterals bytes

/-- What the skipping of a literal string has to give. -/
def StringSkipped (bytes : List UInt8) : Except Panic (List UInt8) → Prop
  | .ok left => ScanStopped bytes left
  | .error _ => ¬ ShallowLiterals bytes

section Scan
variable {bytes rest : List UInt8}

/-- At the end every plain marker would have been found. -/
theorem ScanTrack.answers_nil {mode : Mode} (h : ScanTrack bytes mode []) :
    ScanAnswers bytes (.ok false) := by
  refine ⟨fun depth rest hpasses hunfound hfree => ?_, iff_of_false Bool.false_ne_true ?_⟩
  · exact h.shallow depth rest hpasses hunfound hfree (Nat.zero_le _)
  · rintro ⟨marker, hplain⟩
    exact Nat.not_lt_zero _ (h.unfound marker hplain)

/-- The end of the line is left to the scan, which passes over it. -/
theorem ScanTrack.skipComment (h : ScanTrack bytes .comment rest) :
    ∃ left, left.length ≤ rest.length ∧ ScanStopped bytes left ∧
      containsEncryptMarker (skipComment rest) = containsEncryptMarker left := by
  induction rest with
  | nil => exact ⟨[], Nat.le_refl _, .inr ⟨rfl, .comment, h⟩, rfl⟩
  | cons byte rest ih =>
    by_cases hline : isEndOfLine byte = true
    · have hadvance : advance .comment byte rest = (.regular, rest) := if_pos hline
      have hended : ScanTrack bytes .regular rest :=
        h.inside (by decide) hadvance fun _ hliteral => by cases hliteral
      refine ⟨rest, Nat.le_succ _, .inl hended, ?_⟩
      unfold isEndOfLine at hline
      simp only [Bool.or_eq_true, beq_iff_eq] at hline
      rcases hline with rfl | rfl
      all_goals
        rw [OrbitRelay.skipComment, List.dropWhile_cons_of_neg (by decide),
          containsEncryptMarker_cons, if_neg (by decide), if_neg (by decide),
          if_neg (fun h => absurd h.1 (by decide)), if_neg (fun h => absurd h.1 (by decide))]
    · have hadvance : advance .comment byte rest = (.comment, rest) := if_neg hline
      have hinside : ScanTrack bytes .comment rest :=
        h.inside (by decide) hadvance fun _ hliteral => by cases hliteral
      obtain ⟨left, hle, hstopped, hscan⟩ := ih hinside
      refine ⟨left, Nat.le_succ_of_le hle, hstopped, ?_⟩
      rw [← hscan, OrbitRelay.skipComment, List.dropWhile_cons_of_pos]
      · rfl
      · unfold isEndOfLine at hline
        rw [Bool.or_comm] at hline
        simpa using hline

theorem ScanTrack.skipHexString (h : ScanTrack bytes .hex rest) :
    ScanStopped bytes (skipHexString rest) := by
  induction rest with
  | nil => exact .inr ⟨rfl, .hex, h⟩
  | cons byte rest ih =>
    rw [OrbitRelay.skipHexString]
    split_ifs with hend
    · have hadvance : advance .hex byte rest = (.regular, rest) := if_pos hend
      exact .inl (h.inside nofun hadvance nofun)
    · have hadvance : advance .hex byte rest = (.hex, rest) := if_neg hend
      exact ih (h.inside nofun hadvance nofun)

theorem ScanTrack.skipLiteralString {depth : Nat} (h : ScanTrack bytes (.literal depth) rest) :
    StringSkipped bytes (skipLiteralString depth rest) := by
  induction hn : rest.length using Nat.strongRecOn generalizing depth rest with
  | _ n ih =>
    have hdepth : depth < 2 ^ 32 := h.shallow depth rest h.passes h.unfound h.free (Nat.le_refl _)
    have hstay {depth' : Nat} (hle : depth' ≤ depth) (counted : Nat)
        (heq : Mode.literal depth' = .literal counted) : counted < 2 ^ 32 := by
      cases heq
      omega
    cases rest with
    | nil =>
      rw [OrbitRelay.skipLiteralString]
      exact .inr ⟨rfl, _, h⟩
    | cons byte rest =>
      rw [List.length_cons] at hn
      rw [OrbitRelay.skipLiteralString]
      split_ifs with hescape hopen hroom hclose hend
      · have hadvance : advance (.literal depth) byte rest = (.literal depth, rest.tail) := by
          simp only [advance, if_pos hescape]
        have htail : rest.tail.length = rest.length - 1 := List.length_tail
        exact ih _ (by omega) (h.inside nofun hadvance (hstay (Nat.le_refl _))) rfl
      · have hadvance : advance (.literal depth) byte rest = (.literal (depth + 1), rest) := by
          simp only [advance, if_neg hescape, if_pos hopen]
        refine ih _ (by omega) (h.inside nofun hadvance fun counted heq => ?_) rfl
        cases heq
        exact hroom
      · have hadvance : advance (.literal depth) byte rest = (.literal (depth + 1), rest) := by
          simp only [advance, if_neg hescape, if_pos hopen]
        exact (h.toScanReached.step nofun nofun hadvance).not_shallow (Nat.not_lt.mp hroom)
      · have hadvance : advance (.literal depth) byte rest = (.regular, rest) := by
          simp only [advance, if_neg hescape, if_neg hopen, if_pos hclose]
          rw [if_pos (by omega)]
        exact .inl (h.inside nofun hadvance nofun)
      · have hadvance : advance (.literal depth) byte rest = (.literal (depth - 1), rest) := by
          simp only [advance, if_neg hescape, if_neg hopen, if_pos hclose]
          rw [if_neg (by omega)]
        exact ih _ (by omega) (h.inside nofun hadvance (hstay (Nat.sub_le _ _))) rfl
      · have hadvance : advance (.literal depth) byte rest = (.literal depth, rest) := by
          simp only [advance, if_neg hescape, if_neg hopen, if_neg hclose]
        exact ih _ (by omega) (h.inside nofun hadvance (hstay (Nat.le_refl _))) rfl

/-- What the scan skips behind a dictionary opener holds nothing that counts: a position is
before the opener, or behind it. -/
theorem ScanTrack.length_le_of_free {body after rest' : List UInt8} {mode : Mode}
    (h : ScanTrack bytes .regular (lessThan :: lessThan :: (body ++ after)))
    (hbody : greaterThan ∉ body) (hpasses : Passes bytes mode rest')
    (hle : after.length ≤ rest'.length) (hfree : ¬ BehindOpener bytes rest') :
    (lessThan :: lessThan :: (body ++ after)).length ≤ rest'.length := by
  refine Nat.not_lt.mp fun hlt => hfree (behindOpener_of_opened hbody h.passes hpasses hle ?_)
  simp only [List.length_cons, List.length_append] at hlt
  omega

/-- A plain marker does not stand at a dictionary opener, which is no slash. -/
theorem ScanTrack.not_plainMarker_of_opened {body after marker : List UInt8}
    (h : ScanTrack bytes .regular (lessThan :: lessThan :: (body ++ after)))
    (hbody : greaterThan ∉ body) (hplain : PlainMarker bytes marker) :
    (slash :: marker).length < after.length := by
  have hpasses := hplain.marker.1
  refine Nat.not_le.mp fun hle => ?_
  have heq : (slash :: marker).length = (lessThan :: lessThan :: (body ++ after)).length :=
    Nat.le_antisymm (h.unfound marker hplain) (h.length_le_of_free hbody hpasses hle hplain.free)
  cases (hpasses.eq_of_length h.passes heq).2

/-- Behind a dictionary opener the scan goes on after the next `>`, where the rules are in step
with it. -/
theorem ScanTrack.opener (hstep : OpenersInStep bytes)
    (h : ScanTrack bytes .regular (lessThan :: lessThan :: rest)) :
    ScanStopped bytes (OrbitRelay.skipHexString rest) ∨
      OrbitRelay.skipHexString rest = [] ∧ ScanAnswers bytes (.ok false) := by
  by_cases hend : greaterThan ∈ rest
  · obtain ⟨body, after, rfl, hbody⟩ := List.eq_append_cons_of_mem hend
    rw [skipHexString_append hbody]
    have hnext : ∃ mode, Passes bytes mode (greaterThan :: after) ∧
        advance mode greaterThan after = (.regular, after) := by
      rcases hstep body after hbody h.passes h.unfound with hpasses | hpasses
      · exact ⟨.regular, hpasses, rfl⟩
      · exact ⟨.hex, hpasses, rfl⟩
    obtain ⟨mode, hpasses, hadvance⟩ := hnext
    have hafter := hpasses.advance hadvance
    refine .inl (.inl ⟨⟨hafter, not_behindOpener_of_greaterThan hpasses, ?_⟩, ?_⟩)
    · intro marker hplain
      have hlt := h.not_plainMarker_of_opened hbody hplain
      simp only [List.length_cons] at hlt
      omega
    · intro depth rest' hliteral hunfound hfree hle
      rcases Nat.lt_or_eq_of_le hle with hlt | heq
      · exact h.shallow depth rest' hliteral hunfound hfree
          (h.length_le_of_free hbody hliteral hlt hfree)
      · cases (hafter.eq_of_length hliteral heq).1
  · have hnil := skipHexString_eq_nil hend
    rw [← List.append_nil rest] at h
    refine .inr ⟨hnil, fun depth rest' hliteral hunfound hfree => ?_, ?_⟩
    · exact h.shallow depth rest' hliteral hunfound hfree
        (h.length_le_of_free hend hliteral (Nat.zero_le _) hfree)
    · refine iff_of_false Bool.false_ne_true ?_
      rintro ⟨marker, hplain⟩
      exact Nat.not_lt_zero _ (h.not_plainMarker_of_opened hend hplain)

/-- The scan of an input in step answers by the plain markers. -/
theorem answers_of_stopped (hstep : OpenersInStep bytes) (h : ScanStopped bytes rest) :
    ScanAnswers bytes (containsEncryptMarker rest) := by
  induction hn : rest.length using Nat.strongRecOn generalizing rest with
  | _ n ih =>
    rcases h with h | ⟨rfl, mode, h⟩
    case inr =>
      rw [containsEncryptMarker]
      exact h.answers_nil
    cases rest with
    | nil =>
      rw [containsEncryptMarker]
      exact h.answers_nil
    | cons byte rest =>
      rw [List.length_cons] at hn
      rw [containsEncryptMarker_cons]
      split_ifs with hcomment hopen hhex hmarker
      · subst hcomment
        have hinside : ScanTrack bytes .comment rest :=
          h.step (fun hopener => absurd hopener.2.1 (by decide))
            (fun hstarts => absurd hstarts.2.1 (by decide)) rfl nofun
        obtain ⟨left, hle, hstopped, hscan⟩ := hinside.skipComment
        rw [hscan]
        exact ih _ (by omega) hstopped rfl
      · subst hopen
        have hinside : ScanTrack bytes (.literal 1) rest := by
          refine h.step (fun hopener => absurd hopener.2.1 (by decide))
            (fun hstarts => absurd hstarts.2.1 (by decide)) rfl fun depth heq => ?_
          cases heq
          decide
        have hended := hinside.skipLiteralString
        cases hleft : OrbitRelay.skipLiteralString 1 rest with
        | error e =>
          rw [hleft] at hended
          exact hended
        | ok left =>
          rw [hleft] at hended
          have hle := skipLiteralString_length hleft
          exact ih _ (by omega) hended rfl
      · obtain ⟨rfl, hhead⟩ := hhex
        have hadvance : advance .regular lessThan rest = (.hex, rest) := by
          simp only [advance, if_neg hhead]
          rfl
        have hinside : ScanTrack bytes .hex rest :=
          h.step (fun hopener => hhead hopener.2.2)
            (fun hstarts => absurd hstarts.2.1 (by decide)) hadvance nofun
        have hle := skipHexString_length rest
        exact ih _ (by omega) hinside.skipHexString rfl
      · obtain ⟨rfl, hstarts⟩ := hmarker
        obtain ⟨hname, hended⟩ := (startsMarker_iff rest).mp hstarts
        have hplain : PlainMarker bytes rest := ⟨⟨h.passes, hname⟩, h.free, hended⟩
        refine ⟨fun depth rest' hliteral hunfound hfree => ?_, iff_of_true rfl ⟨rest, hplain⟩⟩
        exact h.shallow depth rest' hliteral hunfound hfree (hunfound rest hplain)
      · by_cases hless : byte = lessThan
        · subst hless
          have hhead : rest.head? = some lessThan := by simpa using hhex
          obtain ⟨rest, rfl⟩ : ∃ more, rest = lessThan :: more :=
            ⟨_, List.eq_cons_of_mem_head? hhead⟩
          have hle := skipHexString_length rest
          rw [List.length_cons] at hn
          rw [containsEncryptMarker_lessThan]
          rcases h.opener hstep with hstopped | ⟨hnil, hanswers⟩
          · exact ih _ (by omega) hstopped rfl
          · rw [hnil, containsEncryptMarker]
            exact hanswers
        · have hadvance : advance .regular byte rest = (.regular, rest) := by
            simp only [advance, if_neg hcomment, if_neg hopen, if_neg hless]
          refine ih _ (by omega) (.inl (h.step ?_ ?_ hadvance nofun)) rfl
          · exact fun hopener => hless hopener.2.1
          · exact fun hstarts => hmarker hstarts.2

end Scan

/-- On an input in step the scan answers by the rules exactly if no literal string that it counts
is too deep and the rules need no other marker than a plain one. -/
theorem containsEncryptMarker_eq_iff (bytes : List UInt8) (hstep : OpenersInStep bytes) :
    containsEncryptMarker bytes = .ok (hasEncryptMarker bytes) ↔
      ShallowLiterals bytes ∧
        ((∃ rest, MarkerAt bytes rest) → ∃ rest, PlainMarker bytes rest) := by
  have hanswers := answers_of_stopped hstep (.inl (track_start bytes))
  have hrules := hasEncryptMarker_iff bytes
  have hplain : (∃ rest, PlainMarker bytes rest) → ∃ rest, MarkerAt bytes rest :=
    fun ⟨rest, hplain⟩ => ⟨rest, hplain.marker⟩
  cases hscan : containsEncryptMarker bytes with
  | error e =>
    rw [hscan] at hanswers
    exact iff_of_false nofun fun h => hanswers h.1
  | ok found =>
    rw [hscan] at hanswers
    obtain ⟨hshallow, hfound⟩ := hanswers
    rw [Except.ok.injEq, Bool.eq_iff_iff, hfound, hrules]
    exact ⟨fun h => ⟨hshallow, h.mpr⟩, fun h => ⟨hplain, h.2⟩⟩

/-- Every nesting takes a parenthesis. -/
theorem shallow_of_length {bytes : List UInt8} (h : bytes.length < 2 ^ 32) :
    ShallowLiterals bytes := by
  intro depth rest hpasses _ _
  have hdepth := hpasses.depth_le
  omega

/-- A dictionary without the marker, and the marker behind it. -/
def sampleDictionary : List UInt8 := byteString "<</T(x)>>/Encrypt 1 0 R"

/-- The reading of the dictionary, up to its second `>`. -/
theorem passes_sampleDictionary :
    Passes sampleDictionary .regular (byteString ">>/Encrypt 1 0 R") ∧
      Passes sampleDictionary .regular (byteString ">/Encrypt 1 0 R") := by
  have hbody : Passes sampleDictionary .regular (byteString "(x)>>/Encrypt 1 0 R") :=
    (((passes_start sampleDictionary).advance rfl).advance rfl).advance rfl
  have hclosed : Passes sampleDictionary .regular (byteString ">>/Encrypt 1 0 R") :=
    ((hbody.advance rfl).advance rfl).advance rfl
  exact ⟨hclosed, hclosed.advance rfl⟩

theorem containsEncryptMarker_eq_iff_sample :
    containsEncryptMarker sampleDictionary = .ok (hasEncryptMarker sampleDictionary) := by
  obtain ⟨hclosed, hend⟩ := passes_sampleDictionary
  have hstep : OpenersInStep sampleDictionary := by
    intro body after hbody hopened _
    have hrest : body ++ greaterThan :: after = byteString "/T(x)>>/Encrypt 1 0 R" := by
      -- The only dictionary opener is at the start.
      rcases List.suffix_cons_iff.mp hopened.suffix with heq | hsuffix
      · exact (List.cons.inj (List.cons.inj heq).2).2
      rcases List.suffix_cons_iff.mp hsuffix with heq | hsuffix
      · exact absurd (List.cons.inj (List.cons.inj heq).2).1 (by decide)
      · exact absurd (hsuffix.subset List.mem_cons_self) (by decide)
    have hafter : after = byteString ">/Encrypt 1 0 R" := by
      rw [← skipHexString_append hbody after, hrest]
      rfl
    rw [hafter]
    exact .inl hclosed
  have hshallow : ShallowLiterals sampleDictionary := shallow_of_length (by decide)
  refine (containsEncryptMarker_eq_iff sampleDictionary hstep).mpr ⟨hshallow, fun _ => ?_⟩
  refine ⟨byteString "Encrypt 1 0 R", ⟨hend.advance rfl, by decide⟩, ?_, by decide⟩
  exact not_behindOpener_of_greaterThan hend

/-- A dictionary with the marker as its key is passed over. -/
theorem encrypt_key_missed :
    containsEncryptMarker (byteString "<</Encrypt 1 0 R>>") = .ok false ∧
      hasEncryptMarker (byteString "<</Encrypt 1 0 R>>") = true := by
  constructor
  · have hbytes : byteString "<</Encrypt 1 0 R>>" = lessThan ::
        ((lessThan :: byteString "/Encrypt 1 0 R") ++ greaterThan :: [greaterThan]) := by decide
    rw [hbytes, containsEncryptMarker_lessThan, skipHexString_append (by decide),
      containsEncryptMarker_cons, containsEncryptMarker]
    decide
  · have hmarker : Passes (byteString "<</Encrypt 1 0 R>>") .regular
        (slash :: byteString "Encrypt 1 0 R>>") :=
      (passes_start (byteString "<</Encrypt 1 0 R>>")).advance rfl
    exact (hasEncryptMarker_iff _).mpr ⟨_, hmarker, by decide⟩

end OrbitRelay
