import OrbitRelay.Lib.Lookahead
import OrbitRelay.Storage.Memory

/-! Paged reads of a growing store: every page continues where the last one ended, up to
the checkpoint or the end of the records at that read. -/
namespace OrbitRelay
namespace MemoryEventStore

/-- The cursor of a page request stands for the position. -/
def StartsAt (storeId : EntityId) (position : Nat) : Option EventCursor → Prop
  | none => position = 0
  | some cursor => 0 < position ∧ EventCursor.forMemory storeId position = .ok cursor

/-- The upper bound of a query is the position: a checkpoint's, or the number of records. -/
def BoundedAt (store : MemoryEventStore) (position : Nat) : Option EventStoreCheckpoint → Prop
  | none => position = store.records.length
  | some checkpoint => position ≤ store.records.length ∧
      EventStoreCheckpoint.forMemory store.storeId position = .ok checkpoint

/-- The matching records from one position up to another. -/
def matching (query : EventQuery) (store : MemoryEventStore) (start bound : Nat) :
    List StoredEvent :=
  ((store.records.take bound).drop start).filter fun record => query.matches record.event

theorem pageOf_page (query : EventQuery) (after : Option EventCursor) (limit : Nat)
    (records : List StoredEvent) :
    pageOf (query.page after limit) records =
      let found := records.filter fun record => query.matches record.event
      if limit < found.length then
        ⟨found.take limit, (found.take limit).getLast?.map StoredEvent.cursor⟩
      else ⟨found.take limit, none⟩ := by
  have hlimit : (query.page after limit).limit = limit := rfl
  unfold pageOf
  simp only [EventQuery.page_matches, hlimit, List.length_take, List.take_take]
  generalize (records.filter fun record => query.matches record.event) = found
  have hmin : min limit (limit + 1) = limit := by omega
  by_cases hmore : limit < found.length
  · have hlook : min (limit + 1) found.length > limit := by omega
    simp only [if_pos hmore, if_pos hlook, hmin]
  · have hlook : ¬ min (limit + 1) found.length > limit := by omega
    have hall : found.take (limit + 1) = found.take limit := by
      rw [List.take_of_length_le (by omega), List.take_of_length_le (by omega)]
    simp only [if_neg hmore, if_neg hlook, hall]

/-- A page request between positions of the store succeeds. -/
theorem query_page {store : MemoryEventStore} {query : EventQuery} {after : Option EventCursor}
    {limit start bound : Nat} (hfilter : query.ValidFilter)
    (hlimit : EventQuery.ValidLimit limit) (hstart : StartsAt store.storeId start after)
    (hbound : store.BoundedAt bound query.upperBound) (hle : start ≤ bound) :
    store.query (query.page after limit) = .ok (.ok (pageOf (query.page after limit)
      ((store.records.take bound).drop start))) := by
  have hlength : bound ≤ store.records.length := by
    cases hupper : query.upperBound with
    | none => rw [hupper] at hbound; exact Nat.le_of_eq hbound
    | some checkpoint => rw [hupper] at hbound; exact hbound.1
  have hvalid : (query.page after limit).validate = .ok () := by
    refine EventQuery.validate_page hfilter hlimit (fun cursor hcursor => ?_)
      fun checkpoint hcheckpoint => ?_
    · cases Option.mem_def.mp hcursor
      exact EventCursor.isEmpty_of_forMemory hstart.2
    · rw [Option.mem_def.mp hcheckpoint] at hbound
      exact EventStoreCheckpoint.isEmpty_of_forMemory hbound.2
  have hupper : store.queryUpperBound (query.page after limit) = .ok bound := by
    unfold queryUpperBound
    rw [show (query.page after limit).upperBound = query.upperBound from rfl]
    cases hupper : query.upperBound with
    | none => rw [hupper] at hbound; exact congrArg _ hbound.symm
    | some checkpoint =>
      rw [hupper] at hbound
      exact EventStoreCheckpoint.memoryPosition_of_forMemory hbound.2 hbound.1
  have hposition : store.queryStart (query.page after limit) = .ok start := by
    unfold queryStart
    rw [show (query.page after limit).after = after from rfl]
    cases after with
    | none => exact congrArg _ hstart.symm
    | some cursor =>
      exact EventCursor.memoryPosition_of_forMemory hstart.2 hstart.1 (Nat.le_trans hle hlength)
  have hrange : store.queryRange (query.page after limit) = .ok (start, bound) := by
    have hnot : ¬ start > bound := Nat.not_lt.mpr hle
    simp only [queryRange, hvalid, hupper, hposition, Except.ok_bind, if_neg hnot]
  simp only [MemoryEventStore.query, hrange, if_pos hlength]

theorem matching_split {query : EventQuery} {store : MemoryEventStore} {start stop bound : Nat}
    (hstart : start ≤ stop) (hstop : stop ≤ bound) :
    matching query store start bound =
      matching query store start stop ++ matching query store stop bound := by
  have hfirst : ((store.records.take bound).drop start).take (stop - start) =
      (store.records.take stop).drop start := by
    have hsum : start + (stop - start) = stop := by omega
    rw [List.take_drop, hsum, List.take_take, Nat.min_eq_left hstop]
  have hsecond : ((store.records.take bound).drop start).drop (stop - start) =
      (store.records.take bound).drop stop := by
    have hsum : start + (stop - start) = stop := by omega
    rw [List.drop_drop, hsum]
  unfold matching
  rw [← List.filter_append, ← hfirst, ← hsecond, List.take_append_drop]

/-- Growth does not touch the records below a position that existed. -/
theorem matching_grows {query : EventQuery} {store store' : MemoryEventStore} {position : Nat}
    (hpre : store.records <+: store'.records) (hle : position ≤ store.records.length) :
    matching query store' 0 position = matching query store 0 position := by
  obtain ⟨later, hlater⟩ := hpre
  unfold matching
  rw [← hlater, List.take_append_of_le_length hle]

/-- Where a page ends: at the bound with no cursor, or at the record of its cursor with a
further match before the bound. -/
theorem page_ends {store : MemoryEventStore} (hwf : store.WellFormed) {query : EventQuery}
    {after : Option EventCursor} {limit start bound : Nat} (hlimit : 1 ≤ limit)
    (hle : start ≤ bound) :
    ∃ stop, start ≤ stop ∧ stop ≤ bound ∧
      (pageOf (query.page after limit) ((store.records.take bound).drop start)).events =
        matching query store start stop ∧
      (((pageOf (query.page after limit) ((store.records.take bound).drop start)).nextCursor =
          none ∧ stop = bound) ∨
        ∃ cursor, (pageOf (query.page after limit)
            ((store.records.take bound).drop start)).nextCursor = some cursor ∧
          StartsAt store.storeId stop (some cursor) ∧ matching query store start stop ≠ [] ∧
          matching query store stop bound ≠ []) := by
  have hfound : ((store.records.take bound).drop start).filter
      (fun record => query.matches record.event) = matching query store start bound := rfl
  rw [pageOf_page, hfound]
  by_cases hmore : limit < (matching query store start bound).length
  · obtain ⟨i, hi, htake, hlast⟩ := Lookahead.exists_take_filter_eq
      (fun record : StoredEvent => query.matches record.event)
      ((store.records.take bound).drop start) hlimit (Nat.le_of_lt hmore)
    rw [hfound] at htake hlast
    generalize hrecord : ((store.records.take bound).drop start)[i] = record at hlast
    have hget : store.records[start + i]? = some record := by
      rw [List.getElem_drop, List.getElem_take] at hrecord
      exact List.getElem?_eq_some_iff.mpr ⟨_, hrecord⟩
    simp only [List.length_drop, List.length_take] at hi
    have hstart : start ≤ start + i + 1 := by omega
    have hstop : start + i + 1 ≤ bound := by omega
    have hpage : matching query store start (start + i + 1) =
        (matching query store start bound).take limit := by
      rw [← htake]
      unfold matching
      have hsum : start + (i + 1) = start + i + 1 := by omega
      rw [List.take_drop, hsum, List.take_take, Nat.min_eq_left hstop]
    have hlength : (matching query store start (start + i + 1)).length = limit := by
      rw [hpage, List.length_take]
      omega
    refine ⟨start + i + 1, hstart, hstop, ?_, .inr ⟨record.cursor, ?_, ⟨by omega, ?_⟩, ?_, ?_⟩⟩
    · simp only [if_pos hmore]
      exact hpage.symm
    · simp only [if_pos hmore, hlast, Option.map_some]
    · exact hwf.cursors (start + i) record hget
    · intro hnil
      rw [hnil, List.length_nil] at hlength
      omega
    · -- The look-ahead found one match more than the page holds.
      intro hnil
      rw [matching_split hstart hstop, hnil, List.append_nil, hlength] at hmore
      omega
  · refine ⟨bound, hle, Nat.le_refl _, ?_, .inl ⟨?_, rfl⟩⟩
    · simp only [if_neg hmore]
      exact List.take_of_length_le (Nat.not_lt.mp hmore)
    · simp only [if_neg hmore]

/-- Page after page of one query: the first without a cursor, every other from the cursor of
the page before, with any limit and any calls on the store in between. -/
inductive PagedRead (query : EventQuery) (start : MemoryEventStore) :
    MemoryEventStore → List (List StoredEvent) → Option EventCursor → Prop
  | first {store : MemoryEventStore} {limit : Nat} {page : EventPage} (hgrows : Grows start store)
      (hlimit : EventQuery.ValidLimit limit)
      (hquery : store.query (query.page none limit) = .ok (.ok page)) :
      PagedRead query start store [page.events] page.nextCursor
  | next {store store' : MemoryEventStore} {pages : List (List StoredEvent)}
      {cursor : EventCursor} {limit : Nat} {page : EventPage}
      (hread : PagedRead query start store pages (some cursor)) (hgrows : Grows store store')
      (hlimit : EventQuery.ValidLimit limit)
      (hquery : store'.query (query.page (some cursor) limit) = .ok (.ok page)) :
      PagedRead query start store' (pages ++ [page.events]) page.nextCursor

/-- A query whose checkpoint, if it has one, was captured from the store at `origin`. -/
structure Replayable (origin start : MemoryEventStore) (query : EventQuery) : Prop where
  wellFormed : origin.WellFormed
  grows : Grows origin start
  filter : query.ValidFilter
  checkpoint : ∀ checkpoint ∈ query.upperBound, origin.captureCheckpoint = .ok checkpoint

/-- The bound of a read: the checkpoint's position, or the number of records at that read. -/
def replayBound (origin : MemoryEventStore) (query : EventQuery) (store : MemoryEventStore) : Nat :=
  if query.upperBound.isSome then origin.records.length else store.records.length

section
variable {origin start store : MemoryEventStore} {query : EventQuery}

theorem Replayable.boundedAt (h : Replayable origin start query) (hgrows : Grows start store) :
    store.WellFormed ∧ store.BoundedAt (replayBound origin query store) query.upperBound := by
  have hall : Grows origin store := h.grows.trans hgrows
  obtain ⟨hwf, hid, hpre⟩ := hall.spec h.wellFormed
  refine ⟨hwf, ?_⟩
  unfold replayBound
  cases hupper : query.upperBound with
  | none => rfl
  | some checkpoint =>
    have hcaptured := h.checkpoint checkpoint hupper
    unfold captureCheckpoint at hcaptured
    rw [← hid] at hcaptured
    exact ⟨hpre.length_le, hcaptured⟩

/-- The bound never moves down while the store grows. -/
theorem Replayable.bound_mono {store' : MemoryEventStore} (hwf : store.WellFormed)
    (hgrows : Grows store store') :
    replayBound origin query store ≤ replayBound origin query store' := by
  have hle := (hgrows.spec hwf).2.2.length_le
  unfold replayBound
  split_ifs
  · exact Nat.le_refl _
  · exact hle

theorem BoundedAt.le_length {position : Nat} {upperBound : Option EventStoreCheckpoint}
    (h : store.BoundedAt position upperBound) : position ≤ store.records.length := by
  cases upperBound with
  | none => exact Nat.le_of_eq h
  | some checkpoint => exact h.1

/-- What has been read after some pages: every match up to a position, which is the bound if
there is no next cursor and otherwise the cursor's, with a match left before the bound. -/
structure ReadUpTo (origin start : MemoryEventStore) (query : EventQuery)
    (store : MemoryEventStore) (pages : List (List StoredEvent)) (next : Option EventCursor)
    (stop : Nat) : Prop where
  grows : Grows start store
  le_bound : stop ≤ replayBound origin query store
  pages_eq : pages.flatten = matching query store 0 stop
  next : (next = none ∧ stop = replayBound origin query store ∧
      pages.length ≤ pages.flatten.length + 1) ∨
    ∃ cursor, next = some cursor ∧ StartsAt store.storeId stop (some cursor) ∧
      matching query store stop (replayBound origin query store) ≠ [] ∧
      pages.length ≤ pages.flatten.length

/-- One page extends what was read before. -/
theorem Replayable.readUpTo_page (h : Replayable origin start query) (hgrows : Grows start store)
    {after : Option EventCursor} {limit position : Nat} {page : EventPage}
    {pages : List (List StoredEvent)} (hlimit : EventQuery.ValidLimit limit)
    (hstart : StartsAt store.storeId position after)
    (hle : position ≤ replayBound origin query store)
    (hpages : pages.flatten = matching query store 0 position)
    (hcount : pages.length ≤ pages.flatten.length)
    (hquery : store.query (query.page after limit) = .ok (.ok page)) :
    ∃ stop, ReadUpTo origin start query store (pages ++ [page.events]) page.nextCursor stop := by
  obtain ⟨hwf, hbounded⟩ := h.boundedAt hgrows
  rw [query_page h.filter hlimit hstart hbounded hle] at hquery
  obtain ⟨stop, hfrom, hstop, hevents, hnext⟩ :=
    @page_ends store hwf query after limit position _ hlimit.1 hle
  obtain rfl := Except.ok.inj (Except.ok.inj hquery)
  have hflatten : (pages ++ [matching query store position stop]).flatten =
      matching query store 0 stop := by
    rw [matching_split (Nat.zero_le _) hfrom, ← hpages]
    simp
  rw [hevents]
  refine ⟨stop, hgrows, hstop, hflatten, ?_⟩
  rcases hnext with ⟨hnone, rfl⟩ | ⟨cursor, hcursor, hat, hnonempty, hmore⟩
  · refine .inl ⟨hnone, rfl, ?_⟩
    simp only [List.length_append, List.length_singleton, List.flatten_append, List.length_append]
    omega
  · refine .inr ⟨cursor, hcursor, hat, hmore, ?_⟩
    have hpos := List.length_pos_iff.mpr hnonempty
    simp only [List.length_append, List.length_singleton, List.flatten_append,
      List.flatten_singleton]
    omega

theorem Replayable.readUpTo (h : Replayable origin start query)
    {pages : List (List StoredEvent)} {next : Option EventCursor}
    (hread : PagedRead query start store pages next) :
    ∃ stop, ReadUpTo origin start query store pages next stop := by
  induction hread with
  | @first store limit page hgrows hlimit hquery =>
    have hempty : ([] : List (List StoredEvent)).flatten = matching query store 0 0 := by
      simp [matching]
    have hstart : StartsAt store.storeId 0 none := rfl
    exact h.readUpTo_page hgrows hlimit hstart (Nat.zero_le _) hempty (Nat.le_refl 0) hquery
  | @next store store' pages cursor limit page _ hgrows hlimit hquery ih =>
    obtain ⟨stop, hdone⟩ := ih
    obtain ⟨⟨⟩, -⟩ | ⟨_, ⟨⟩, hat, -, hcount⟩ := hdone.next
    obtain ⟨hwf, hbounded⟩ := h.boundedAt hdone.grows
    obtain ⟨-, hid, hpre⟩ := hgrows.spec hwf
    have hlength := Nat.le_trans hdone.le_bound hbounded.le_length
    have hpages := hdone.pages_eq.trans (matching_grows hpre hlength).symm
    rw [← hid] at hat
    exact h.readUpTo_page (hdone.grows.trans hgrows) hlimit hat
      (Nat.le_trans hdone.le_bound (Replayable.bound_mono hwf hgrows)) hpages hcount hquery

/-- A query with an invalid filter is answered with that error, for every cursor and limit. -/
theorem query_page_of_not_validFilter (store : MemoryEventStore) (h : ¬ query.ValidFilter)
    (after : Option EventCursor) {limit : Nat} (hlimit : EventQuery.ValidLimit limit) :
    ∃ reason, store.query (query.page after limit) = .ok (.error (.invalidQuery reason)) := by
  obtain ⟨reason, hvalidate⟩ := EventQuery.validate_page_of_not_validFilter h after hlimit
  refine ⟨reason, ?_⟩
  simp only [MemoryEventStore.query, queryRange, hvalidate, Except.error_bind]

/-- Pages were returned, so the filter passed its validation. -/
theorem PagedRead.validFilter {pages : List (List StoredEvent)} {next : Option EventCursor}
    (hread : PagedRead query start store pages next) : query.ValidFilter := by
  by_contra hinvalid
  cases hread with
  | first _ hlimit hquery =>
    obtain ⟨reason, herror⟩ := query_page_of_not_validFilter _ hinvalid _ hlimit
    rw [herror] at hquery
    cases hquery
  | next _ _ hlimit hquery =>
    obtain ⟨reason, herror⟩ := query_page_of_not_validFilter _ hinvalid _ hlimit
    rw [herror] at hquery
    cases hquery

/-- Paged reads succeed, stay within their limits, and return every match below the bound
once and in order; with a checkpoint they end. -/
theorem paged_read_loses_and_repeats_nothing (storeId : EntityId) (trace : List (Call × Reply))
    (origin start : MemoryEventStore) (query : EventQuery) (hrun : Run storeId trace origin)
    (hgrows : Grows origin start)
    (hcheckpoint : ∀ checkpoint ∈ query.upperBound, origin.captureCheckpoint = .ok checkpoint) :
    (∀ store limit, Grows start store → EventQuery.ValidLimit limit →
      (∃ page, store.query (query.page none limit) = .ok (.ok page)) ∨
      (¬ query.ValidFilter ∧
        ∃ reason, store.query (query.page none limit) = .ok (.error (.invalidQuery reason)))) ∧
    (∀ store pages cursor, PagedRead query start store pages (some cursor) →
      ∀ store' limit, Grows store store' → EventQuery.ValidLimit limit →
        ∃ page, store'.query (query.page (some cursor) limit) = .ok (.ok page)) ∧
    (∀ (store : MemoryEventStore) after limit page,
      store.query (query.page after limit) = .ok (.ok page) → page.events.length ≤ limit) ∧
    (∀ store pages next, PagedRead query start store pages next →
      ∃ remaining, (store.records.take (replayBound origin query store)).filter
          (fun record => query.matches record.event) = pages.flatten ++ remaining ∧
        (next = none ↔ remaining = [])) ∧
    (query.upperBound.isSome = true → ∀ store pages next,
      PagedRead query start store pages next → pages.length ≤ origin.records.length + 1) := by
  have hreplay (hfilter : query.ValidFilter) : Replayable origin start query :=
    ⟨hrun.wellFormed.1, hgrows, hfilter, hcheckpoint⟩
  refine ⟨?_, ?_, ?_, ?_, ?_⟩
  · intro store limit hstore hlimit
    by_cases hfilter : query.ValidFilter
    · obtain ⟨-, hbounded⟩ := (hreplay hfilter).boundedAt hstore
      have hstart : StartsAt store.storeId 0 none := rfl
      exact .inl ⟨_, query_page hfilter hlimit hstart hbounded (Nat.zero_le _)⟩
    · exact .inr ⟨hfilter, query_page_of_not_validFilter store hfilter none hlimit⟩
  · intro store pages cursor hread store' limit hstore hlimit
    have hfilter := hread.validFilter
    have h := hreplay hfilter
    obtain ⟨stop, hdone⟩ := h.readUpTo hread
    obtain ⟨⟨⟩, -⟩ | ⟨_, ⟨⟩, hat, -, -⟩ := hdone.next
    obtain ⟨hwf, -⟩ := h.boundedAt hdone.grows
    obtain ⟨-, hid, -⟩ := hstore.spec hwf
    obtain ⟨-, hbounded⟩ := h.boundedAt (hdone.grows.trans hstore)
    rw [← hid] at hat
    exact ⟨_, query_page hfilter hlimit hat hbounded
      (Nat.le_trans hdone.le_bound (Replayable.bound_mono hwf hstore))⟩
  · intro store after limit page hquery
    unfold MemoryEventStore.query at hquery
    split at hquery
    · cases hquery
    · split_ifs at hquery
      obtain rfl := Except.ok.inj (Except.ok.inj hquery)
      rw [pageOf_page]
      dsimp only
      split_ifs <;> exact List.length_take_le ..
  · intro store pages next hread
    obtain ⟨stop, hdone⟩ := (hreplay hread.validFilter).readUpTo hread
    refine ⟨matching query store stop (replayBound origin query store), ?_, ?_⟩
    · rw [hdone.pages_eq, ← matching_split (Nat.zero_le _) hdone.le_bound]
      rfl
    · obtain ⟨rfl, rfl, -⟩ | ⟨cursor, rfl, -, hmore, -⟩ := hdone.next
      · simp [matching]
      · exact iff_of_false nofun hmore
  · intro hbounded store pages next hread
    obtain ⟨stop, hdone⟩ := (hreplay hread.validFilter).readUpTo hread
    have hbound : replayBound origin query store = origin.records.length := if_pos hbounded
    have hlength : pages.flatten.length ≤ stop := by
      rw [hdone.pages_eq]
      refine Nat.le_trans (List.length_filter_le ..) ?_
      rw [List.drop_zero]
      exact List.length_take_le ..
    have hstop := hdone.le_bound
    obtain ⟨-, -, hcount⟩ | ⟨_, -, -, -, hcount⟩ := hdone.next
    · omega
    · omega

end

/-- Two records match, and a first page of one leaves the other. -/
theorem paged_read_loses_and_repeats_nothing_sample :
    ∃ trace store page, Run ⟨⟨Vector.replicate 16 9⟩⟩ trace store ∧
      store.query (EventQuery.all.page none 1) = .ok (.ok page) ∧ page.events.length ≤ 1 ∧
      ∃ remaining, remaining ≠ [] ∧
        store.records.filter (fun record => EventQuery.all.matches record.event) =
          page.events ++ remaining := by
  have hnew : Run ⟨⟨Vector.replicate 16 9⟩⟩ [] (new ⟨⟨Vector.replicate 16 9⟩⟩) := .new
  have hfirst := @Run.call _ _ _ _ (.append sampleEvent) _ hnew rfl
  have hsecond := @Run.call _ _ _ _ (.append sampleSecond) _ hfirst rfl
  obtain ⟨trace, store, hrun, htwo⟩ : ∃ trace store, Run ⟨⟨Vector.replicate 16 9⟩⟩ trace store ∧
      (store.records.filter fun record => EventQuery.all.matches record.event).length = 2 :=
    ⟨_, _, hsecond, rfl⟩
  have hlimit : EventQuery.ValidLimit 1 := ⟨Nat.le_refl 1, by decide⟩
  obtain ⟨hpage, -, hlength, hpages, -⟩ :=
    paged_read_loses_and_repeats_nothing _ _ _ _ EventQuery.all hrun .refl nofun
  obtain ⟨page, hquery⟩ := (hpage store 1 .refl hlimit).resolve_right fun hinvalid =>
    hinvalid.1 ⟨rfl, rfl⟩
  have hshort := hlength store none 1 page hquery
  obtain ⟨remaining, hsplit, -⟩ := hpages _ _ _ (.first .refl hlimit hquery)
  have hbound : replayBound store EventQuery.all store = store.records.length := rfl
  rw [hbound, List.take_length, List.flatten_singleton] at hsplit
  refine ⟨trace, store, page, hrun, hquery, hshort, remaining, fun hempty => ?_, hsplit⟩
  rw [hsplit, hempty, List.append_nil] at htwo
  omega

end MemoryEventStore
end OrbitRelay
