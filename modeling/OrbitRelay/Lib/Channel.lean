import Mathlib.Data.List.Basic

/-! Bounded channels with waiting senders. A send on a full channel parks its sender; a receive
admits the sender that has waited longest. -/

/-- A bounded queue, with the senders that wait for room in arrival order. -/
structure Channel (ι α : Type) where
  capacity : Nat
  queue : List α
  parked : List (ι × α)
  /-- The receiver was dropped. -/
  closed : Bool
  bounded : queue.length ≤ capacity
  parked_full : parked ≠ [] → queue.length = capacity

namespace Channel
variable {ι α : Type}

def new (capacity : Nat) : Channel ι α := ⟨capacity, [], [], false, Nat.zero_le _, nofun⟩

/-- Fewer items wait than the channel holds. -/
def HasRoom (c : Channel ι α) : Prop := c.queue.length < c.capacity

instance (c : Channel ι α) : Decidable c.HasRoom :=
  inferInstanceAs (Decidable (c.queue.length < c.capacity))

theorem parked_eq_nil {c : Channel ι α} (h : c.HasRoom) : c.parked = [] := by
  by_contra hparked
  exact absurd (c.parked_full hparked) (Nat.ne_of_lt h)

/-- The channel with one more item, which there is room for. -/
def push (c : Channel ι α) (a : α) (h : c.HasRoom) : Channel ι α :=
  { c with queue := c.queue ++ [a],
           bounded := by simpa using Nat.succ_le_of_lt h,
           parked_full := fun hparked => absurd (parked_eq_nil h) hparked }

/-- Appends without waiting. It fails on a full channel and after the receiver was dropped. -/
def trySend (c : Channel ι α) (a : α) : Option (Channel ι α) :=
  if h : c.closed = false ∧ c.HasRoom then some (c.push a h.2) else none

theorem trySend_eq_none {c : Channel ι α} (h : c.closed = true ∨ ¬ c.HasRoom) (a : α) :
    c.trySend a = none := by
  unfold trySend
  rw [dif_neg]
  rintro ⟨hopen, hroom⟩
  rcases h with hclosed | hfull
  · simp [hopen] at hclosed
  · exact hfull hroom

/-- Appends, or parks the sender until a receive makes room. -/
def send (c : Channel ι α) (i : ι) (a : α) : Channel ι α :=
  if h : c.HasRoom then c.push a h
  else { c with parked := c.parked ++ [(i, a)],
                parked_full := fun _ => Nat.le_antisymm c.bounded (Nat.not_lt.mp h) }

/-- Takes the oldest item and admits the first waiting sender. -/
def recv (c : Channel ι α) : Option (α × Channel ι α) :=
  match hqueue : c.queue, hparked : c.parked with
  | [], _ => none
  | a :: rest, [] =>
    have hbounded := c.bounded
    some (a, { c with queue := rest,
                      bounded := by rw [hqueue] at hbounded; exact Nat.le_of_succ_le hbounded,
                      parked_full := fun h => absurd hparked h })
  | a :: rest, (_, b) :: waiting =>
    have hlength : (rest ++ [b]).length = c.capacity := by
      have hfull := c.parked_full (by simp [hparked])
      rw [hqueue] at hfull
      simpa using hfull
    some (a, { c with queue := rest ++ [b], parked := waiting, bounded := Nat.le_of_eq hlength,
                      parked_full := fun _ => hlength })

/-- Drops the receiver: queued items are lost and waiting senders are released. -/
def close (c : Channel ι α) : Channel ι α :=
  { c with queue := [], parked := [], closed := true,
           bounded := Nat.zero_le _, parked_full := nofun }

/-- The sender waits for room. -/
def Parked (c : Channel ι α) (i : ι) : Prop := i ∈ c.parked.map Prod.fst

instance [DecidableEq ι] (c : Channel ι α) (i : ι) : Decidable (c.Parked i) :=
  inferInstanceAs (Decidable (i ∈ c.parked.map Prod.fst))

theorem not_parked_of_hasRoom {c : Channel ι α} (h : c.HasRoom) (i : ι) : ¬ c.Parked i := by
  simp [Parked, parked_eq_nil h]

/-- Only the sender itself can come to wait, and only in front of a full channel. -/
theorem parked_of_send {c : Channel ι α} {i j : ι} {a : α} (h : (c.send i a).Parked j) :
    c.Parked j ∨ j = i ∧ ¬ c.HasRoom := by
  unfold send at h
  split at h
  case isTrue hroom => exact .inl h
  case isFalse hfull =>
    simp only [Parked, List.map_append, List.mem_append, List.map_cons, List.map_nil,
      List.mem_singleton] at h
    exact h.imp_right fun heq => ⟨heq, hfull⟩

/-- A receive makes nobody wait. -/
theorem parked_of_recv {c c' : Channel ι α} {a : α} (hrecv : c.recv = some (a, c')) {i : ι}
    (h : c'.Parked i) : c.Parked i := by
  unfold recv at hrecv
  split at hrecv
  case h_1 => cases hrecv
  case h_2 =>
    cases hrecv
    exact h
  case h_3 hparked =>
    cases hrecv
    unfold Parked
    rw [hparked]
    exact List.mem_cons_of_mem _ h

/-- A receive releases the first waiting sender, if there is one. -/
theorem parked_recv {c c' : Channel ι α} {a : α} (h : c.recv = some (a, c')) :
    c'.parked = c.parked.tail := by
  unfold recv at h
  split at h <;> cases h
  case h_2 hparked _ => simp [hparked]
  case h_3 hparked _ => simp [hparked]

/-- The sender that finds no room waits behind the others. -/
theorem parked_send (c : Channel ι α) (i : ι) (a : α) :
    (c.send i a).parked = c.parked ∨ (c.send i a).parked = c.parked ++ [(i, a)] := by
  unfold send
  split
  · exact .inl rfl
  · exact .inr rfl

section Contents

/-- What was sent and not yet received, oldest first. -/
def contents (c : Channel ι α) : List α := c.queue ++ c.parked.map Prod.snd

@[simp] theorem contents_new (capacity : Nat) : (new capacity : Channel ι α).contents = [] := rfl

theorem contents_push {c : Channel ι α} {a : α} (h : c.HasRoom) :
    (c.push a h).contents = c.contents ++ [a] := by
  simp [contents, push, parked_eq_nil h]

theorem contents_send (c : Channel ι α) (i : ι) (a : α) :
    (c.send i a).contents = c.contents ++ [a] := by
  unfold send
  split
  case isTrue hroom => exact contents_push hroom
  case isFalse => simp [contents]

theorem contents_trySend {c c' : Channel ι α} {a : α} (h : c.trySend a = some c') :
    c'.contents = c.contents ++ [a] := by
  unfold trySend at h
  split at h <;> cases h
  exact contents_push _

theorem contents_recv {c c' : Channel ι α} {a : α} (h : c.recv = some (a, c')) :
    c.contents = a :: c'.contents := by
  unfold recv at h
  split at h <;> cases h <;> simp_all [contents]

@[simp] theorem capacity_send (c : Channel ι α) (i : ι) (a : α) :
    (c.send i a).capacity = c.capacity := by
  unfold send
  split <;> rfl

theorem capacity_trySend {c c' : Channel ι α} {a : α} (h : c.trySend a = some c') :
    c'.capacity = c.capacity := by
  unfold trySend at h
  split at h <;> cases h
  rfl

theorem capacity_recv {c c' : Channel ι α} {a : α} (h : c.recv = some (a, c')) :
    c'.capacity = c.capacity := by
  unfold recv at h
  split at h <;> cases h <;> rfl

theorem closed_trySend {c c' : Channel ι α} {a : α} (h : c.trySend a = some c') :
    c'.closed = c.closed := by
  unfold trySend at h
  split at h <;> cases h
  rfl

theorem closed_recv {c c' : Channel ι α} {a : α} (h : c.recv = some (a, c')) :
    c'.closed = c.closed := by
  unfold recv at h
  split at h <;> cases h <;> rfl

/-- An open channel with room takes the item. -/
theorem trySend_isSome {c : Channel ι α} (hopen : c.closed = false) (hroom : c.HasRoom) (a : α) :
    (c.trySend a).isSome = true := by
  rw [trySend, dif_pos ⟨hopen, hroom⟩]
  rfl

theorem not_parked_of_contents {c : Channel ι α} (h : c.contents = []) (i : ι) : ¬ c.Parked i := by
  have hparked : c.parked = [] := by
    simpa using (List.append_eq_nil_iff.mp h).2
  simp [Parked, hparked]

theorem recv_eq_none {c : Channel ι α} (hcapacity : 0 < c.capacity) (h : c.recv = none) :
    c.contents = [] := by
  unfold recv at h
  split at h <;> cases h
  case h_1 hqueue =>
    have hparked : c.parked = [] := parked_eq_nil (by simpa [HasRoom, hqueue] using hcapacity)
    simp [contents, hqueue, hparked]

end Contents

section Map
variable {β γ : Type}

/-- The channel with every item replaced. -/
def map (f : α → β) (c : Channel ι α) : Channel ι β where
  capacity := c.capacity
  queue := c.queue.map f
  parked := c.parked.map fun entry => (entry.1, f entry.2)
  closed := c.closed
  bounded := by simpa using c.bounded
  parked_full := by simpa using c.parked_full

theorem map_map (f : α → β) (g : β → γ) (c : Channel ι α) :
    (c.map f).map g = c.map fun a => g (f a) := by
  simp [map, Function.comp_def]

theorem hasRoom_map (f : α → β) (c : Channel ι α) : (c.map f).HasRoom ↔ c.HasRoom := by
  simp [HasRoom, map]

theorem parked_map (f : α → β) (c : Channel ι α) (i : ι) : (c.map f).Parked i ↔ c.Parked i := by
  simp [Parked, map]

theorem send_map (f : α → β) (c : Channel ι α) (i : ι) (a : α) :
    (c.map f).send i (f a) = (c.send i a).map f := by
  unfold send
  by_cases hroom : c.HasRoom
  · rw [dif_pos hroom, dif_pos ((hasRoom_map f c).mpr hroom)]
    simp [push, map]
  · rw [dif_neg hroom, dif_neg (fun h => hroom ((hasRoom_map f c).mp h))]
    simp [map]

theorem recv_map (f : α → β) (c : Channel ι α) :
    (c.map f).recv = c.recv.map fun received => (f received.1, received.2.map f) := by
  obtain ⟨capacity, queue, parked, closed, hbounded, hfull⟩ := c
  cases queue with
  | nil => rfl
  | cons a rest =>
    cases parked with
    | nil => rfl
    | cons entry waiting =>
      refine congrArg some (Prod.ext rfl ?_)
      simp [map]

end Map
end Channel
