import OrbitRelay.AssetRuntime.Access
import OrbitRelay.Lib.Transition

/-! Bounded convenience loading on top of range reads. The loop is driven by what the reader
answers; one invariant relates its offset, its output and the ranges it has asked for. -/
namespace OrbitRelay

def readChunkSize : UInt64 := 64 * 1024

/-- Metadata lookup. -/
abbrev AssetCatalog := AssetId → Except AssetCatalogError (Option SourceAssetDescriptor)

/-- What a reader answers to a range, given the ranges that were asked of it before. -/
abbrev AssetReader :=
  List AssetByteRange → AssetId → AssetByteRange → Except AssetReadError AssetByteChunk

/-- The state of the loop, with the ranges asked so far. -/
structure ReadProgress where
  offset : UInt64
  output : List UInt8
  asked : List AssetByteRange

/-- How a full read ended, and the ranges it asked the reader for. -/
structure FullRead where
  asked : List AssetByteRange
  result : Except AssetReadAllError (List UInt8)

section
variable (assetId : AssetId) (totalLength : UInt64)

/-- The range of the next iteration. -/
def nextRange (offset : UInt64) : Except AssetReadAllError AssetByteRange :=
  let length := min (totalLength - offset) readChunkSize
  (AssetByteRange.new offset length).mapError fun _ =>
    .invalidChunk assetId "helper generated an invalid range"

/-- The checks on the answer, then the next state. -/
def acceptChunk (progress : ReadProgress) (range : AssetByteRange)
    (answer : Except AssetReadError AssetByteChunk) : Except AssetReadAllError ReadProgress := do
  let chunk ← answer.mapError .reader
  if chunk.offset ≠ progress.offset ∨ chunk.totalLength ≠ totalLength then
    .error (.invalidChunk assetId "chunk offset or total length disagrees with metadata")
  else if UInt64.tryFrom chunk.bytes.length ≠ some range.length then
    .error (.invalidChunk assetId "chunk byte length disagrees with requested range")
  else do
    let nextOffset ← chunk.nextOffset.okOr
      (.invalidChunk assetId "chunk next offset overflowed")
    if nextOffset ≤ progress.offset ∨ nextOffset > totalLength then
      .error (.invalidChunk assetId "chunk did not make bounded forward progress")
    else .ok ⟨nextOffset, progress.output ++ chunk.bytes, progress.asked ++ [range]⟩

/-- The length check after the loop. -/
def assemble (output : List UInt8) : Except AssetReadAllError (List UInt8) :=
  if UInt64.tryFrom output.length ≠ some totalLength then
    .error (.invalidChunk assetId "assembled byte length disagrees with metadata")
  else .ok output

/-- An accepted chunk moves the offset forward, which ends the loop. -/
theorem offset_lt_of_acceptChunk {progress next : ReadProgress} {range : AssetByteRange}
    {answer : Except AssetReadError AssetByteChunk}
    (h : acceptChunk assetId totalLength progress range answer = .ok next) :
    progress.offset.toNat < next.offset.toNat ∧ next.offset.toNat ≤ totalLength.toNat := by
  obtain ⟨chunk, -, h⟩ := Except.bind_eq_ok.mp h
  by_cases hplace : chunk.offset ≠ progress.offset ∨ chunk.totalLength ≠ totalLength
  · rw [if_pos hplace] at h
    cases h
  rw [if_neg hplace] at h
  by_cases hlength : UInt64.tryFrom chunk.bytes.length ≠ some range.length
  · rw [if_pos hlength] at h
    cases h
  rw [if_neg hlength] at h
  obtain ⟨nextOffset, -, h⟩ := Except.bind_eq_ok.mp h
  split_ifs at h with hforward
  cases h
  simp only [gt_iff_lt, UInt64.lt_iff_toNat_lt, UInt64.le_iff_toNat_le] at hforward
  show progress.offset.toNat < nextOffset.toNat ∧ nextOffset.toNat ≤ totalLength.toNat
  omega

/-- The loop. -/
def readLoop (reader : AssetReader) (progress : ReadProgress) : FullRead :=
  if progress.offset < totalLength then
    match nextRange assetId totalLength progress.offset with
    | .error e => ⟨progress.asked, .error e⟩
    | .ok range =>
      match _haccept : acceptChunk assetId totalLength progress range
          (reader progress.asked assetId range) with
      | .error e => ⟨progress.asked ++ [range], .error e⟩
      | .ok next => readLoop reader next
  else ⟨progress.asked, assemble assetId totalLength progress.output⟩
termination_by totalLength.toNat - progress.offset.toNat
decreasing_by
  have hlt := offset_lt_of_acceptChunk assetId totalLength _haccept
  omega

end

/-- Reads an entire Asset through bounded range requests. -/
def readAssetFully (catalog : AssetCatalog) (reader : AssetReader) (assetId : AssetId)
    (maxBytes : UInt64) : FullRead :=
  match catalog assetId with
  | .error e => ⟨[], .error (.catalogUnavailable e.toString)⟩
  | .ok none => ⟨[], .error (.notFound assetId)⟩
  | .ok (some descriptor) =>
    let totalLength := descriptor.byteLength
    if totalLength > maxBytes then
      ⟨[], .error (.assetTooLarge assetId totalLength maxBytes)⟩
    else if usizeTryFrom totalLength = none then
      ⟨[], .error (.lengthOverflow assetId totalLength)⟩
    else readLoop assetId totalLength reader ⟨0, [], []⟩

/-! ### What a full read asks for -/

/-- The offset and the length of the range, as numbers. -/
def AssetByteRange.span (range : AssetByteRange) : Nat × Nat :=
  (range.offset.toNat, range.length.toNat)

/-- The first `count` consecutive ranges of an Asset, each as long as is left, up to 64 KiB. -/
def spans (total count : Nat) : List (Nat × Nat) :=
  (List.range count).map fun i => (65536 * i, min 65536 (total - 65536 * i))

theorem spans_succ (total count : Nat) :
    spans total (count + 1) =
      spans total count ++ [(65536 * count, min 65536 (total - 65536 * count))] := by
  unfold spans
  rw [List.range_succ, List.map_append]
  rfl

/-- The consecutive ranges stay inside the Asset. -/
theorem within_of_spans {asked : List AssetByteRange} {total count : Nat}
    (h : asked.map AssetByteRange.span = spans total count) {range : AssetByteRange}
    (hmem : range ∈ asked) : range.offset.toNat + range.length.toNat ≤ total := by
  have hspan : range.span ∈ spans total count := h ▸ List.mem_map_of_mem hmem
  obtain ⟨i, -, hi⟩ := List.mem_map.mp hspan
  obtain ⟨hoffset, hlength⟩ := Prod.mk.inj hi
  have hpositive := range.length_pos
  omega

/-- The chunk answers the range of an Asset of that length. -/
structure AssetByteChunk.Fits (chunk : AssetByteChunk) (range : AssetByteRange)
    (totalLength : UInt64) : Prop where
  offset : chunk.offset = range.offset
  totalLength : chunk.totalLength = totalLength
  length : chunk.bytes.length = range.length.toNat

/-- The reader answered the ranges, in order, with the chunks, which fit. -/
inductive Answered (reader : AssetReader) (assetId : AssetId) (totalLength : UInt64) :
    List AssetByteRange → List AssetByteChunk → Prop
  | nil : Answered reader assetId totalLength [] []
  | snoc {asked : List AssetByteRange} {chunks : List AssetByteChunk} {range : AssetByteRange}
      {chunk : AssetByteChunk} (before : Answered reader assetId totalLength asked chunks)
      (answer : reader asked assetId range = .ok chunk) (fits : chunk.Fits range totalLength) :
      Answered reader assetId totalLength (asked ++ [range]) (chunks ++ [chunk])

section
variable {reader : AssetReader} {assetId : AssetId} {totalLength : UInt64}

/-- Each answered range has its chunk. -/
theorem Answered.chunk_of_split {asked front rest : List AssetByteRange}
    {chunks : List AssetByteChunk} {range : AssetByteRange}
    (h : Answered reader assetId totalLength asked chunks)
    (hsplit : asked = front ++ range :: rest) :
    ∃ chunk, reader front assetId range = .ok chunk ∧ chunk.Fits range totalLength := by
  induction h generalizing rest with
  | nil => simp at hsplit
  | @snoc asked chunks last chunk before answer fits ih =>
    rcases List.eq_nil_or_concat rest with rfl | ⟨init, tail, rfl⟩
    · obtain ⟨rfl, hlast⟩ := List.append_inj' hsplit rfl
      cases hlast
      exact ⟨chunk, answer, fits⟩
    · rw [List.concat_eq_append, ← List.cons_append, ← List.append_assoc] at hsplit
      exact ih (List.append_inj' hsplit rfl).1

/-- The chunks of a reader that serves slices of one content are its beginning. -/
theorem Answered.flatMap_eq {asked : List AssetByteRange} {chunks : List AssetByteChunk}
    {content : List UInt8} (h : Answered reader assetId totalLength asked chunks)
    (hcontent : content.length = totalLength.toNat)
    (hspans : asked.map AssetByteRange.span = spans totalLength.toNat asked.length)
    (hserves : ∀ front range rest chunk, asked = front ++ range :: rest →
      reader front assetId range = .ok chunk →
      chunk.bytes = (content.drop range.offset.toNat).take range.length.toNat) :
    chunks.flatMap AssetByteChunk.bytes = content.take (65536 * asked.length) := by
  induction h with
  | nil => simp
  | @snoc asked chunks range chunk before answer fits ih =>
    rw [List.length_append, List.length_singleton, spans_succ, List.map_append] at hspans
    obtain ⟨hbefore, hlast⟩ := List.append_inj' hspans rfl
    have hspan : range.span = (65536 * asked.length, _) := List.singleton_inj.mp hlast
    obtain ⟨hoffset, hlength⟩ := Prod.mk.inj hspan
    have hprefix := ih hbefore fun front range' rest chunk' hsplit =>
      hserves front range' (rest ++ [range]) chunk' (by rw [hsplit]; simp)
    have hbytes := hserves asked range [] chunk rfl answer
    rw [hoffset, hlength] at hbytes
    have hshort : (content.drop (65536 * asked.length)).take
        (min 65536 (totalLength.toNat - 65536 * asked.length)) =
          (content.drop (65536 * asked.length)).take 65536 := by
      rw [List.take_eq_take_iff, List.length_drop, hcontent]
      omega
    rw [List.flatMap_append, hprefix, List.flatMap_singleton, hbytes, hshort, ← List.take_add,
      List.length_append, List.length_singleton, Nat.mul_add]

/-- The loop invariant. -/
structure ReadProgress.Sound (progress : ReadProgress) (reader : AssetReader) (assetId : AssetId)
    (totalLength : UInt64) : Prop where
  offset : progress.offset.toNat = min (65536 * progress.asked.length) totalLength.toNat
  bounded : 65536 * progress.asked.length < totalLength.toNat + 65536
  length : progress.output.length = progress.offset.toNat
  asked : progress.asked.map AssetByteRange.span = spans totalLength.toNat progress.asked.length
  answered : ∃ chunks, Answered reader assetId totalLength progress.asked chunks ∧
    progress.output = chunks.flatMap AssetByteChunk.bytes

theorem ReadProgress.Sound.start :
    (⟨0, [], []⟩ : ReadProgress).Sound reader assetId totalLength where
  offset := by simp
  bounded := by simp
  length := rfl
  asked := rfl
  answered := ⟨[], .nil, rfl⟩

/-- What is left to read, without wrapping. -/
theorem sub_toNat {offset : UInt64} (h : offset < totalLength) :
    (totalLength - offset).toNat = totalLength.toNat - offset.toNat :=
  UInt64.toNat_sub_of_le _ _ (UInt64.le_of_lt h)

/-- The helper's own range is always valid. -/
theorem exists_nextRange (assetId : AssetId) {offset : UInt64} (h : offset < totalLength) :
    ∃ range, nextRange assetId totalLength offset = .ok range ∧ range.offset = offset ∧
      range.length.toNat = min 65536 (totalLength.toNat - offset.toNat) := by
  have hsub := sub_toNat h
  have hsize : readChunkSize.toNat = 65536 := rfl
  have htotal := totalLength.toNat_lt
  rw [UInt64.lt_iff_toNat_lt] at h
  have hlength : (min (totalLength - offset) readChunkSize).toNat =
      min 65536 (totalLength.toNat - offset.toNat) := by
    rw [UInt64.min_toNat, hsub, hsize, Nat.min_comm]
  have hne : min (totalLength - offset) readChunkSize ≠ 0 := by
    intro hzero
    rw [hzero] at hlength
    have hpos : (0 : UInt64).toNat = 0 := rfl
    omega
  have hend : (offset.checkedAdd (min (totalLength - offset) readChunkSize)).isSome = true := by
    unfold UInt64.checkedAdd
    rw [if_pos (by omega)]
    rfl
  refine ⟨⟨offset, _, hne, hend⟩, ?_, rfl, hlength⟩
  unfold nextRange
  exact Except.mapError_eq_ok.mpr (AssetByteRange.new_eq_ok.mpr ⟨rfl, rfl⟩)

theorem offset_of_nextRange {offset : UInt64} {range : AssetByteRange} (h : offset < totalLength)
    (hrange : nextRange assetId totalLength offset = .ok range) : range.offset = offset := by
  obtain ⟨range', hrange', hoffset, -⟩ := exists_nextRange assetId h
  cases hrange'.symm.trans hrange
  exact hoffset

/-- What the checks on an answer let through, and what they refuse. -/
theorem acceptChunk_cases (assetId : AssetId) (totalLength : UInt64) {progress : ReadProgress}
    {range : AssetByteRange} (answer : Except AssetReadError AssetByteChunk)
    (hoffset : range.offset = progress.offset) :
    (∃ e, answer = .error e ∧
      acceptChunk assetId totalLength progress range answer = .error (.reader e)) ∨
    ∃ chunk, answer = .ok chunk ∧
      ((¬ chunk.Fits range totalLength ∧ ∃ reason,
        (reason = "chunk offset or total length disagrees with metadata" ∨
          reason = "chunk byte length disagrees with requested range") ∧
        acceptChunk assetId totalLength progress range answer =
          .error (.invalidChunk assetId reason)) ∨
      (chunk.Fits range totalLength ∧ ∃ next, next.toNat =
          progress.offset.toNat + chunk.bytes.length ∧
        acceptChunk assetId totalLength progress range answer =
          .ok ⟨next, progress.output ++ chunk.bytes, progress.asked ++ [range]⟩)) := by
  cases answer with
  | error e => exact .inl ⟨e, rfl, rfl⟩
  | ok chunk =>
    refine .inr ⟨chunk, rfl, ?_⟩
    unfold acceptChunk
    rw [Except.mapError_ok, Except.ok_bind]
    by_cases hplace : chunk.offset ≠ progress.offset ∨ chunk.totalLength ≠ totalLength
    · refine .inl ⟨fun hfits => ?_, _, .inl rfl, if_pos hplace⟩
      exact hplace.elim (fun h => h (hfits.offset.trans hoffset)) fun h => h hfits.totalLength
    · rw [if_neg hplace]
      push Not at hplace
      by_cases hlength : UInt64.tryFrom chunk.bytes.length ≠ some range.length
      · refine .inl ⟨fun hfits => ?_, _, .inr rfl, if_pos hlength⟩
        exact hlength (UInt64.tryFrom_eq_some.mpr hfits.length.symm)
      · rw [if_neg hlength]
        have hbytes := UInt64.tryFrom_eq_some.mp (not_not.mp hlength)
        have hfits : chunk.Fits range totalLength :=
          ⟨hplace.1.trans hoffset.symm, hplace.2, hbytes.symm⟩
        obtain ⟨next, hnext, hvalue⟩ := chunk.exists_nextOffset
        rw [hplace.1] at hvalue
        have hwithin := chunk.within
        rw [hplace.1, hplace.2] at hwithin
        have hpositive := range.length_pos
        -- The bounds of the chunk leave the progress test nothing to reject.
        have hforward : ¬ (next ≤ progress.offset ∨ next > totalLength) := by
          rw [gt_iff_lt, UInt64.lt_iff_toNat_lt, UInt64.le_iff_toNat_le]
          omega
        exact .inr ⟨hfits, next, hvalue, by
          rw [hnext, Except.okOr_some, Except.ok_bind, if_neg hforward]⟩

/-- The next range continues the ranges asked so far. -/
theorem ReadProgress.Sound.span_next {progress : ReadProgress} {range : AssetByteRange}
    (h : progress.Sound reader assetId totalLength) (hlt : progress.offset < totalLength)
    (hrange : nextRange assetId totalLength progress.offset = .ok range) :
    (progress.asked ++ [range]).map AssetByteRange.span =
      spans totalLength.toNat (progress.asked ++ [range]).length := by
  obtain ⟨range', hrange', hoffset', hlength⟩ := exists_nextRange assetId hlt
  obtain rfl := Except.ok.inj (hrange'.symm.trans hrange)
  have hoffset := h.offset
  rw [UInt64.lt_iff_toNat_lt] at hlt
  have hstart : progress.offset.toNat = 65536 * progress.asked.length := by omega
  have hspan : range'.span = (65536 * progress.asked.length,
      min 65536 (totalLength.toNat - 65536 * progress.asked.length)) := by
    unfold AssetByteRange.span
    rw [hoffset', hlength, hstart]
  rw [List.length_append, List.length_singleton, spans_succ, List.map_append, h.asked,
    List.map_singleton, hspan]

/-- One accepted chunk keeps the invariant. -/
theorem ReadProgress.Sound.accept {progress : ReadProgress} {range : AssetByteRange}
    {chunk : AssetByteChunk} {next : UInt64} (h : progress.Sound reader assetId totalLength)
    (hlt : progress.offset < totalLength)
    (hrange : nextRange assetId totalLength progress.offset = .ok range)
    (hanswer : reader progress.asked assetId range = .ok chunk)
    (hfits : chunk.Fits range totalLength)
    (hnext : next.toNat = progress.offset.toNat + chunk.bytes.length) :
    (⟨next, progress.output ++ chunk.bytes, progress.asked ++ [range]⟩ :
      ReadProgress).Sound reader assetId totalLength := by
  obtain ⟨range', hrange', hoffset', hlength⟩ := exists_nextRange assetId hlt
  obtain rfl := Except.ok.inj (hrange'.symm.trans hrange)
  have hoffset := h.offset
  have hcount := h.length
  have hbytes := hfits.length
  have hlt' := hlt
  rw [UInt64.lt_iff_toNat_lt] at hlt
  obtain ⟨chunks, hanswered, houtput⟩ := h.answered
  constructor
  · show next.toNat = min (65536 * (progress.asked ++ [range']).length) totalLength.toNat
    rw [List.length_append, List.length_singleton]
    omega
  · show 65536 * (progress.asked ++ [range']).length < _
    rw [List.length_append, List.length_singleton]
    omega
  · show (progress.output ++ chunk.bytes).length = next.toNat
    rw [List.length_append]
    omega
  · exact h.span_next hlt' hrange
  · refine ⟨chunks ++ [chunk], hanswered.snoc hanswer hfits, ?_⟩
    rw [List.flatMap_append, ← houtput, List.flatMap_singleton]

/-- Every iteration but the last ends in a sound state. -/
theorem ReadProgress.Sound.step {progress next : ReadProgress} {range : AssetByteRange}
    (h : progress.Sound reader assetId totalLength) (hlt : progress.offset < totalLength)
    (hrange : nextRange assetId totalLength progress.offset = .ok range)
    (haccept : acceptChunk assetId totalLength progress range
      (reader progress.asked assetId range) = .ok next) :
    next.Sound reader assetId totalLength := by
  have hoffset : range.offset = progress.offset := offset_of_nextRange hlt hrange
  obtain ⟨e, -, herror⟩ | ⟨chunk, hanswer, hchecks⟩ :=
    acceptChunk_cases assetId totalLength (reader progress.asked assetId range) hoffset
  · cases herror.symm.trans haccept
  obtain ⟨-, reason, -, herror⟩ | ⟨hfits, offset', hnext, hok⟩ := hchecks
  · cases herror.symm.trans haccept
  · cases hok.symm.trans haccept
    exact h.accept hlt hrange hanswer hfits hnext

/-- Why the loop gives up on an answer: the reader failed, or its chunk answers another range. -/
inductive AnswerRefused (assetId : AssetId) (totalLength : UInt64) (range : AssetByteRange) :
    Except AssetReadError AssetByteChunk → AssetReadAllError → Prop
  | reader (source : AssetReadError) :
      AnswerRefused assetId totalLength range (.error source) (.reader source)
  | chunk {chunk : AssetByteChunk} {reason : String} (misfit : ¬ chunk.Fits range totalLength)
      (reason_eq : reason = "chunk offset or total length disagrees with metadata" ∨
        reason = "chunk byte length disagrees with requested range") :
      AnswerRefused assetId totalLength range (.ok chunk) (.invalidChunk assetId reason)

/-- How the loop ends: with the whole output, or on the first answer that it refuses. -/
inductive FullRead.Ends (reader : AssetReader) (assetId : AssetId) (totalLength : UInt64) :
    FullRead → Prop
  | complete {progress : ReadProgress} (sound : progress.Sound reader assetId totalLength)
      (offset : progress.offset = totalLength) :
      Ends reader assetId totalLength ⟨progress.asked, .ok progress.output⟩
  | refused {progress : ReadProgress} {range : AssetByteRange} {e : AssetReadAllError}
      (sound : progress.Sound reader assetId totalLength) (offset : progress.offset < totalLength)
      (range_eq : nextRange assetId totalLength progress.offset = .ok range)
      (refused : AnswerRefused assetId totalLength range (reader progress.asked assetId range) e) :
      Ends reader assetId totalLength ⟨progress.asked ++ [range], .error e⟩

/-- Once the offset has reached the end, the output has the expected length. -/
theorem ReadProgress.Sound.assemble {progress : ReadProgress}
    (h : progress.Sound reader assetId totalLength) (hend : progress.offset = totalLength) :
    assemble assetId totalLength progress.output = .ok progress.output := by
  have hlength : totalLength.toNat = progress.output.length := by rw [h.length, hend]
  unfold OrbitRelay.assemble
  rw [if_neg (not_not.mpr (UInt64.tryFrom_eq_some.mpr hlength))]

theorem ReadProgress.Sound.offset_le {progress : ReadProgress}
    (h : progress.Sound reader assetId totalLength) : progress.offset ≤ totalLength := by
  have hoffset := h.offset
  rw [UInt64.le_iff_toNat_le]
  omega

theorem readLoop_of_refused {progress : ReadProgress} {range : AssetByteRange}
    {e : AssetReadAllError} (hlt : progress.offset < totalLength)
    (hrange : nextRange assetId totalLength progress.offset = .ok range)
    (haccept : acceptChunk assetId totalLength progress range
      (reader progress.asked assetId range) = .error e) :
    readLoop assetId totalLength reader progress = ⟨progress.asked ++ [range], .error e⟩ := by
  unfold readLoop
  simp only [if_pos hlt, hrange]
  split
  · rename_i e' he'
    cases haccept.symm.trans he'
    rfl
  · rename_i next hnext
    cases haccept.symm.trans hnext

theorem readLoop_of_accepted {progress next : ReadProgress} {range : AssetByteRange}
    (hlt : progress.offset < totalLength)
    (hrange : nextRange assetId totalLength progress.offset = .ok range)
    (haccept : acceptChunk assetId totalLength progress range
      (reader progress.asked assetId range) = .ok next) :
    readLoop assetId totalLength reader progress = readLoop assetId totalLength reader next := by
  rw [readLoop.eq_1 assetId totalLength reader progress]
  simp only [if_pos hlt, hrange]
  split
  · rename_i e' he'
    cases haccept.symm.trans he'
  · rename_i next' hnext
    cases haccept.symm.trans hnext
    rfl

/-- From a sound state the loop ends in one of the two ways. -/
theorem readLoop_ends (progress : ReadProgress) (h : progress.Sound reader assetId totalLength) :
    (readLoop assetId totalLength reader progress).Ends reader assetId totalLength := by
  induction progress using readLoop.induct assetId totalLength reader with
  | case1 progress hlt e herror =>
    obtain ⟨range, hrange, -⟩ := exists_nextRange assetId hlt
    cases hrange.symm.trans herror
  | case2 progress hlt range hrange e herror =>
    rw [readLoop_of_refused hlt hrange herror]
    apply FullRead.Ends.refused h hlt hrange
    generalize reader progress.asked assetId range = answer at herror
    obtain ⟨source, rfl, hreader⟩ | ⟨chunk, rfl, hchecks⟩ :=
      acceptChunk_cases assetId totalLength answer (offset_of_nextRange hlt hrange)
    · cases hreader.symm.trans herror
      exact .reader source
    · obtain ⟨hmisfit, reason, hreason, hchunk⟩ | ⟨-, next, -, hok⟩ := hchecks
      · cases hchunk.symm.trans herror
        exact .chunk hmisfit hreason
      · cases hok.symm.trans herror
  | case3 progress hlt range hrange next haccept ih =>
    rw [readLoop_of_accepted hlt hrange haccept]
    exact ih (h.step hlt hrange haccept)
  | case4 progress hnot =>
    have hend : progress.offset = totalLength :=
      UInt64.le_antisymm h.offset_le (UInt64.not_lt.mp hnot)
    unfold readLoop
    rw [if_neg hnot, h.assemble hend]
    exact .complete h hend

/-! ### Any reader -/

/-- The loop, one accepted chunk at a time. -/
def readSystem (reader : AssetReader) (assetId : AssetId) (totalLength : UInt64) :
    Transition.System ReadProgress where
  init progress := progress = ⟨0, [], []⟩
  step progress next := progress.offset < totalLength ∧
    ∃ range, nextRange assetId totalLength progress.offset = .ok range ∧
      acceptChunk assetId totalLength progress range
        (reader progress.asked assetId range) = .ok next

/-- A state in which no arithmetic of the loop wraps, and whose own failure branches are dead. -/
structure ReadProgress.Guarded (progress : ReadProgress) (assetId : AssetId)
    (totalLength : UInt64) : Prop where
  held : progress.output.length ≤ totalLength.toNat
  remaining : progress.offset ≤ totalLength ∧
    (totalLength - progress.offset).toNat = totalLength.toNat - progress.offset.toNat
  range : progress.offset < totalLength →
    ∃ range, nextRange assetId totalLength progress.offset = .ok range
  advance : ∀ (range : AssetByteRange) (chunk : AssetByteChunk),
    nextRange assetId totalLength progress.offset = .ok range → chunk.Fits range totalLength →
    ∃ next, chunk.nextOffset = some next ∧ progress.offset < next ∧ next ≤ totalLength
  assemble : ¬ progress.offset < totalLength →
    assemble assetId totalLength progress.output = .ok progress.output

theorem ReadProgress.Sound.guarded {progress : ReadProgress}
    (h : progress.Sound reader assetId totalLength) : progress.Guarded assetId totalLength := by
  have hle := h.offset_le
  have hle' := UInt64.le_iff_toNat_le.mp hle
  have hlength := h.length
  constructor
  · omega
  · exact ⟨hle, UInt64.toNat_sub_of_le _ _ hle⟩
  · intro hlt
    obtain ⟨range, hrange, -⟩ := exists_nextRange assetId hlt
    exact ⟨range, hrange⟩
  · intro range chunk hrange hfits
    obtain ⟨next, hnext, hvalue⟩ := chunk.exists_nextOffset
    have hstart : range.offset = progress.offset :=
      (AssetByteRange.new_eq_ok.mp (Except.mapError_eq_ok.mp hrange)).1
    have hpositive := range.length_pos
    have hwithin := chunk.within
    have hbytes := hfits.length
    rw [hfits.offset, hstart] at hvalue hwithin
    rw [hfits.totalLength] at hwithin
    refine ⟨next, hnext, ?_, ?_⟩
    · rw [UInt64.lt_iff_toNat_lt]
      omega
    · rw [UInt64.le_iff_toNat_le]
      omega
  · intro hnot
    exact h.assemble (UInt64.le_antisymm hle (UInt64.not_lt.mp hnot))

theorem readSystem_sound {progress : ReadProgress}
    (h : (readSystem reader assetId totalLength).Reachable progress) :
    progress.Sound reader assetId totalLength := by
  apply h.invariant
  · rintro _ rfl
    exact .start
  · rintro _ _ hsound ⟨hlt, range, hrange, haccept⟩
    exact hsound.step hlt hrange haccept

/-- Every reachable state lies on the one run of the loop. -/
theorem readLoop_of_reachable {progress : ReadProgress}
    (h : (readSystem reader assetId totalLength).Reachable progress) :
    readLoop assetId totalLength reader progress =
      readLoop assetId totalLength reader ⟨0, [], []⟩ := by
  apply h.invariant (I := fun progress => readLoop assetId totalLength reader progress = _)
  · rintro _ rfl
    rfl
  · rintro progress next ih ⟨hlt, range, hrange, haccept⟩
    rw [← readLoop_of_accepted hlt hrange haccept, ih]

/-- What a full read of `totalLength` bytes guarantees, whatever the reader answers. -/
structure FullRead.Safe (read : FullRead) (reader : AssetReader) (assetId : AssetId)
    (totalLength : UInt64) : Prop where
  count : read.asked.length ≤ (totalLength.toNat + 65535) / 65536
  consecutive : read.asked.map AssetByteRange.span = spans totalLength.toNat read.asked.length
  states : ∀ progress, (readSystem reader assetId totalLength).Reachable progress →
    progress.Guarded assetId totalLength ∧ readLoop assetId totalLength reader progress = read
  output : ∀ bytes, read.result = .ok bytes → bytes.length = totalLength.toNat ∧
    read.asked.length = (totalLength.toNat + 65535) / 65536 ∧
    ∃ chunks, Answered reader assetId totalLength read.asked chunks ∧
      bytes = chunks.flatMap AssetByteChunk.bytes
  conforming : ∀ content : List UInt8, content.length = totalLength.toNat →
    (∀ front range rest chunk, read.asked = front ++ range :: rest →
      reader front assetId range = .ok chunk →
      chunk.bytes = (content.drop range.offset.toNat).take range.length.toNat) →
    ∀ bytes, read.result = .ok bytes → bytes = content
  misfit : ∀ front range rest chunk, read.asked = front ++ range :: rest →
    reader front assetId range = .ok chunk → ¬ chunk.Fits range totalLength →
    ∃ e, read.result = .error e
  refused : ∀ e, read.result = .error e → ∃ front range, read.asked = front ++ [range] ∧
    AnswerRefused assetId totalLength range (reader front assetId range) e

/-- A loop that ends in one of the two ways is safe. -/
theorem FullRead.Ends.safe {read : FullRead} (h : read.Ends reader assetId totalLength)
    (hread : readLoop assetId totalLength reader ⟨0, [], []⟩ = read) :
    read.Safe reader assetId totalLength := by
  have hstates : ∀ progress, (readSystem reader assetId totalLength).Reachable progress →
      progress.Guarded assetId totalLength ∧
        readLoop assetId totalLength reader progress = read := by
    intro progress hreach
    exact ⟨(readSystem_sound hreach).guarded, (readLoop_of_reachable hreach).trans hread⟩
  cases h with
  | @complete progress sound offset =>
    obtain ⟨chunks, hanswered, houtput⟩ := sound.answered
    have hoffset := sound.offset
    have hbounded := sound.bounded
    have hlength := sound.length
    rw [offset] at hoffset hlength
    have hcount : progress.asked.length = (totalLength.toNat + 65535) / 65536 := by omega
    refine ⟨Nat.le_of_eq hcount, sound.asked, hstates, ?_, ?_, ?_, ?_⟩
    · rintro bytes ⟨⟩
      exact ⟨hlength, hcount, chunks, hanswered, houtput⟩
    · rintro content hcontent hserves bytes ⟨⟩
      rw [houtput, hanswered.flatMap_eq hcontent sound.asked hserves]
      exact List.take_of_length_le (by omega)
    · intro front range rest chunk hsplit hanswer hmisfit
      obtain ⟨chunk', hanswer', hfits⟩ := hanswered.chunk_of_split hsplit
      cases hanswer.symm.trans hanswer'
      exact absurd hfits hmisfit
    · rintro e ⟨⟩
  | @refused progress range e sound offset range_eq refused =>
    have hoffset := sound.offset
    obtain ⟨range', hrange, hstart, hlength⟩ := exists_nextRange assetId offset
    cases hrange.symm.trans range_eq
    have hlt := UInt64.lt_iff_toNat_lt.mp offset
    refine ⟨?_, ?_, hstates, ?_, ?_, ?_, ?_⟩
    · show (progress.asked ++ [range]).length ≤ _
      rw [List.length_append, List.length_singleton]
      omega
    · exact sound.span_next offset range_eq
    · rintro bytes ⟨⟩
    · rintro content - - bytes ⟨⟩
    · rintro - - - - - - -
      exact ⟨e, rfl⟩
    · rintro _ ⟨⟩
      exact ⟨progress.asked, range, rfl, refused⟩

end

/-- A read of an Asset that is not too large. -/
theorem readAssetFully_safe {catalog : AssetCatalog} {reader : AssetReader} {assetId : AssetId}
    {maxBytes : UInt64} {descriptor : SourceAssetDescriptor}
    (hfound : catalog assetId = .ok (some descriptor))
    (hmax : descriptor.byteLength ≤ maxBytes) :
    (readAssetFully catalog reader assetId maxBytes).Safe reader assetId
      descriptor.byteLength := by
  have husize : ¬ usizeTryFrom descriptor.byteLength = none := by simp
  unfold readAssetFully
  simp only [hfound, gt_iff_lt, if_neg (UInt64.not_lt.mpr hmax), if_neg husize]
  exact (readLoop_ends _ .start).safe rfl

/-- What a full read guarantees for each answer of the catalog. -/
def ReadsSafely (catalog : AssetCatalog) (reader : AssetReader) (assetId : AssetId)
    (maxBytes : UInt64) (read : FullRead) : Prop :=
  match catalog assetId with
  | .error e => read = ⟨[], .error (.catalogUnavailable e.toString)⟩
  | .ok none => read = ⟨[], .error (.notFound assetId)⟩
  | .ok (some descriptor) =>
    if maxBytes < descriptor.byteLength then
      read = ⟨[], .error (.assetTooLarge assetId descriptor.byteLength maxBytes)⟩
    else read.Safe reader assetId descriptor.byteLength

/-- Reading a whole Asset is safe against any reader. -/
theorem assets_are_read_safely (catalog : AssetCatalog) (reader : AssetReader)
    (assetId : AssetId) (maxBytes : UInt64) :
    ReadsSafely catalog reader assetId maxBytes
      (readAssetFully catalog reader assetId maxBytes) := by
  unfold ReadsSafely readAssetFully
  cases catalog assetId with
  | error e => rfl
  | ok found =>
    cases found with
    | none => rfl
    | some descriptor =>
      by_cases hlarge : maxBytes < descriptor.byteLength
      · simp only [gt_iff_lt, if_pos hlarge]
      · have husize : ¬ usizeTryFrom descriptor.byteLength = none := by simp
        simp only [gt_iff_lt, if_neg hlarge, if_neg husize]
        exact (readLoop_ends _ .start).safe rfl

end OrbitRelay
