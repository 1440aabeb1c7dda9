import Mathlib.Data.Prod.Lex
import Mathlib.Order.Bounds.Basic
import OrbitRelay.Transport.Queries

/-! Version negotiation: what a policy selects, and the version that a session speaks under it. -/
namespace OrbitRelay

namespace Version

/-- The components in the order of their comparison. -/
def rank (version : Version) : Lex (ℕ × Lex (ℕ × ℕ)) :=
  toLex (version.major.toNat, toLex (version.minor.toNat, version.patch.toNat))

theorem rank_injective : Function.Injective rank := by
  intro a b h
  have hcomponents : a.major.toNat = b.major.toNat ∧ a.minor.toNat = b.minor.toNat ∧
      a.patch.toNat = b.patch.toNat := by simpa [rank] using h
  obtain ⟨hmajor, hminor, hpatch⟩ := hcomponents
  cases a
  cases b
  congr 1
  · exact UInt16.toNat_inj.mp hmajor
  · exact UInt16.toNat_inj.mp hminor
  · exact UInt16.toNat_inj.mp hpatch

instance : LinearOrder Version := LinearOrder.lift' rank rank_injective

end Version

/-- The versions that a policy accepts, the highest first. -/
structure VersionPolicy where
  accepted : List Version
  descending : accepted.Pairwise (· > ·)

namespace VersionPolicy

/-- The first accepted version among those that the client supports. -/
def negotiate (policy : VersionPolicy) (supportedVersions : List Version) :
    Except VersionNegotiationError Version :=
  (policy.accepted.find? (supportedVersions.contains ·)).okOr
    (.unsupportedVersion supportedVersions)

end VersionPolicy

def exactVersionPolicy : VersionPolicy where
  accepted := [currentProtocolVersion]
  descending := by decide

def exactQueryVersionPolicy : VersionPolicy where
  accepted := [queryProtocolVersion]
  descending := by decide

def compatibleVersionPolicy : VersionPolicy where
  accepted := [queryProtocolVersion, currentProtocolVersion]
  descending := by decide

/-- The versions that a policy and a client have in common. -/
def VersionPolicy.mutual (policy : VersionPolicy) (supportedVersions : List Version) :
    Set Version :=
  {version | version ∈ policy.accepted ∧ version ∈ supportedVersions}

section Policies
variable {policy : VersionPolicy} {supportedVersions : List Version} {version : Version}

/-- The highest mutually supported version is selected. -/
theorem isGreatest_of_negotiate (h : policy.negotiate supportedVersions = .ok version) :
    IsGreatest (policy.mutual supportedVersions) version := by
  have hfind := Except.okOr_eq_ok.mp h
  obtain ⟨hsupported, before, after, haccepted, hbefore⟩ := List.find?_eq_some_iff_append.mp hfind
  have hmem : version ∈ policy.accepted := by
    rw [haccepted]
    exact List.mem_append_right _ List.mem_cons_self
  constructor
  · exact ⟨hmem, List.contains_iff_mem.mp hsupported⟩
  · intro other hother
    have hdescending := policy.descending
    have hplace := hother.1
    rw [haccepted] at hdescending hplace
    rcases List.mem_append.mp hplace with hfront | hrest
    · -- What stands before the selected version is not supported.
      have hcontains := List.contains_iff_mem.mpr hother.2
      have hmissing := hbefore other hfront
      rw [hcontains] at hmissing
      cases hmissing
    · rcases List.mem_cons.mp hrest with heq | hlater
      · exact heq.le
      · have htail := (List.pairwise_append.mp hdescending).2.1
        exact (List.rel_of_pairwise_cons htail hlater).le

/-- A refusal names the client's versions, none of which the policy accepts. -/
theorem disjoint_of_negotiate {error : VersionNegotiationError}
    (h : policy.negotiate supportedVersions = .error error) :
    error = .unsupportedVersion supportedVersions ∧ policy.mutual supportedVersions = ∅ := by
  unfold VersionPolicy.negotiate at h
  cases hfind : policy.accepted.find? (supportedVersions.contains ·) with
  | some version =>
    rw [hfind] at h
    cases h
  | none =>
    rw [hfind] at h
    constructor
    · cases h
      rfl
    · apply Set.eq_empty_iff_forall_notMem.mpr
      intro other hother
      have hmissing := List.find?_eq_none.mp hfind other hother.1
      exact hmissing (List.contains_iff_mem.mpr hother.2)

end Policies

section Runs
variable {settings : SessionSettings} {id : ConnectionId} {metadata : Metadata}
  {policy : VersionPolicy} {s : Session}

/-- The versions that a request puts to the policy. -/
def offeredIn : CoordinatorRequest → Option (List Version)
  | .negotiate versions => some versions
  | _ => none

/-- The policy decides what the coordinator asks it. -/
def DecidedBy (settings : SessionSettings) (policy : VersionPolicy) (s : Session) :
    SessionAction → Prop
  | .coordinator (.negotiated result) =>
    ∀ p ∈ s.coordinator.pending settings, ∀ versions ∈ offeredIn p.request,
      result = policy.negotiate versions
  | _ => True

/-- The policy gave the answer in this exchange. -/
def DecidedIn (policy : VersionPolicy) : CoordinatorExchange → Prop
  | ⟨_, .negotiate versions, result⟩ => result = policy.negotiate versions
  | _ => True

theorem decidedIn_of_respond {choice : CoordinatorChoice}
    (hok : DecidedBy settings policy s (.coordinator choice)) {p : CoordinatorTask.Pending}
    (hp : s.coordinator.pending settings = some p) {a : p.request.Answer} {w : World}
    (hrespond : s.world.respond p.request choice = some (a, w)) :
    DecidedIn policy ⟨p.state, p.request, a⟩ := by
  obtain ⟨state, request, resume⟩ := p
  cases request with
  | negotiate versions =>
    cases choice with
    | negotiated result =>
      have hresult := hok _ hp versions rfl
      cases hrespond
      exact hresult
    | _ => cases hrespond
  | _ => trivial

theorem decidedIn_of_reachable
    (hreach : (Session.system settings id metadata (DecidedBy settings policy)).Reachable s) :
    ∀ e ∈ s.trace, DecidedIn policy e := by
  apply Session.invariant_of_reachable (I := fun h _ => ∀ e ∈ h, DecidedIn policy e) _ _ hreach
  · exact fun e he => (List.not_mem_nil he).elim
  · intro s choice p a w hok hp hrespond hs e he
    rcases List.mem_append.mp he with he | he
    · exact hs e he
    · rw [List.mem_singleton.mp he]
      exact decidedIn_of_respond hok hp hrespond

/-- The client sent this hello. -/
def Greeted (h : CoordinatorTrace) (hello : Hello) : Prop :=
  some (.hello hello) ∈ h.filterMap inputOf

theorem greeted_of_received {h : CoordinatorTrace} {hello : Hello}
    (hreceived : received h = some (.hello hello)) : Greeted h hello := by
  have hlast : (h.filterMap inputOf).getLast? = some (some (.hello hello)) :=
    Option.join_eq_some_iff.mp hreceived
  exact List.mem_of_getLast? hlast

theorem Greeted.mono {h h' : CoordinatorTrace} {hello : Hello} (hgreeted : Greeted h hello)
    (hle : h <+: h') : Greeted h' hello :=
  (hle.filterMap inputOf).subset hgreeted

/-- The version that a connection speaks is the best one that its client asked for. -/
theorem greatest_of_negotiated
    (hreach : (Session.system settings id metadata (DecidedBy settings policy)).Reachable s)
    {h : CoordinatorTrace} {state : Coordinator} {request : CoordinatorRequest}
    (hpaused : s.Paused settings h state request) {version : Version}
    (hversion : state.negotiatedVersion = some version) :
    ∃ hello, Greeted h hello ∧ IsGreatest (policy.mutual hello.supportedVersions) version := by
  have hreach' := Session.reachable_of_allowed hreach
  have hchosen := (consistent_of_paused hreach' hpaused).1.chosen
  have hmem : version ∈ chosen h := by
    rw [hchosen, hversion]
    exact List.mem_singleton_self version
  obtain ⟨e, he, hchoice⟩ := List.mem_filterMap.mp hmem
  have hdecided := decidedIn_of_reachable hreach e (hpaused.isPrefix.subset he)
  obtain ⟨before, after, hsplit⟩ := List.append_of_mem he
  -- The coordinator paused for this choice right after it took the hello.
  have hasked : s.Paused settings before e.state e.request := by
    obtain ⟨rest, hrest⟩ := hpaused.isPrefix
    rw [hsplit, List.append_assoc] at hrest
    exact .answered hrest.symm
  have hadmits := (consistent_of_paused hreach' hasked).2
  obtain ⟨state', request', answer⟩ := e
  cases request' with
  | negotiate versions =>
    obtain ⟨-, -, hello, hreceived, rfl⟩ := hadmits
    cases answer with
    | error error => cases hchoice
    | ok selected =>
      cases hchoice
      have hgreeted : Greeted h hello := by
        apply (greeted_of_received hreceived).mono
        exact ⟨_, hsplit.symm⟩
      exact ⟨hello, hgreeted, isGreatest_of_negotiate hdecided.symm⟩
  | _ => cases hchoice

/-- A query reaches the queue only in a session that speaks the query protocol. -/
theorem query_enqueued_mutual
    (hreach : (Session.system settings id metadata (DecidedBy settings policy)).Reachable s)
    {h : CoordinatorTrace} {state : Coordinator} {job : QueryJob}
    (hpaused : s.Paused settings h state (.enqueue (.query job))) :
    ∃ hello, Greeted h hello ∧ queryProtocolVersion ∈ policy.mutual hello.supportedVersions := by
  have hadmits := (consistent_of_paused (Session.reachable_of_allowed hreach) hpaused).2
  obtain ⟨binding, message, hauthenticated, -⟩ := hadmits
  obtain ⟨hello, hgreeted, hgreatest⟩ :=
    greatest_of_negotiated hreach hpaused hauthenticated.negotiated
  exact ⟨hello, hgreeted, hgreatest.1⟩

/-- A connection past negotiation speaks a version. -/
theorem negotiated_of_moved
    (hreach : (Session.system settings id metadata (DecidedBy settings policy)).Reachable s)
    {h : CoordinatorTrace} {state : Coordinator} {request : CoordinatorRequest}
    (hpaused : s.Paused settings h state request)
    (hstate : state.connection.state = .authenticating ∨ state.connection.state = .ready) :
    ∃ hello, Greeted h hello ∧ (policy.mutual hello.supportedVersions).Nonempty := by
  have hs := (consistent_of_paused (Session.reachable_of_allowed hreach) hpaused).1
  obtain ⟨version, hversion⟩ := Option.isSome_iff_exists.mp (hs.negotiated hstate)
  obtain ⟨hello, hgreeted, hgreatest⟩ := greatest_of_negotiated hreach hpaused hversion
  exact ⟨hello, hgreeted, hgreatest.nonempty⟩

/-- The versions of a session whose policy ranks the versions it accepts, at every pause of every
run: the connection speaks the highest version that the policy and a hello of its client have in
common; while they have none, it stays in negotiation and every refusal names the client's
versions; a query is queued only where both sides know the query protocol, so never under the
exact policy; and the compatible policy falls back only for a client without that protocol. -/
theorem versions_follow_policy (settings : SessionSettings) (id : ConnectionId)
    (metadata : Metadata) (policy : VersionPolicy) (s : Session)
    (hreach : (Session.system settings id metadata (DecidedBy settings policy)).Reachable s) :
    (∀ h state request, s.Paused settings h state request →
      (∀ version, state.negotiatedVersion = some version →
        ∃ hello, Greeted h hello ∧ IsGreatest (policy.mutual hello.supportedVersions) version) ∧
      (state.connection.state = .authenticating ∨ state.connection.state = .ready →
        ∃ hello, Greeted h hello ∧ (policy.mutual hello.supportedVersions).Nonempty) ∧
      (∀ job, request = .enqueue (.query job) →
        policy ≠ exactVersionPolicy ∧ ∃ hello, Greeted h hello ∧
          queryProtocolVersion ∈ policy.mutual hello.supportedVersions) ∧
      (policy = compatibleVersionPolicy → state.negotiatedVersion = some currentProtocolVersion →
        ∃ hello, Greeted h hello ∧ queryProtocolVersion ∉ hello.supportedVersions)) ∧
    (∀ state versions error, ⟨state, .negotiate versions, .error error⟩ ∈ s.trace →
      error = .unsupportedVersion versions ∧ policy.mutual versions = ∅) := by
  constructor
  · intro h state request hpaused
    refine ⟨fun version => greatest_of_negotiated hreach hpaused,
      negotiated_of_moved hreach hpaused, fun job hjob => ?_, fun hpolicy hversion => ?_⟩
    · subst hjob
      obtain ⟨hello, hgreeted, hmutual⟩ := query_enqueued_mutual hreach hpaused
      constructor
      · intro hpolicy
        have haccepted := hmutual.1
        rw [hpolicy] at haccepted
        exact absurd haccepted (by decide)
      · exact ⟨hello, hgreeted, hmutual⟩
    · obtain ⟨hello, hgreeted, hgreatest⟩ := greatest_of_negotiated hreach hpaused hversion
      refine ⟨hello, hgreeted, fun hsupported => ?_⟩
      have haccepted : queryProtocolVersion ∈ policy.accepted := by
        rw [hpolicy]
        exact List.mem_cons_self
      have hle : queryProtocolVersion ≤ currentProtocolVersion :=
        hgreatest.2 ⟨haccepted, hsupported⟩
      exact absurd hle (by decide)
  · intro state versions error he
    have hdecided : .error error = policy.negotiate versions :=
      decidedIn_of_reachable hreach _ he
    exact disjoint_of_negotiate hdecided.symm

instance (s : Session) : (action : SessionAction) → Decidable (DecidedBy settings policy s action)
  | .coordinator choice =>
    match choice with
    | .negotiated result =>
      inferInstanceAs (Decidable (∀ p ∈ s.coordinator.pending settings,
        ∀ versions ∈ offeredIn p.request, result = policy.negotiate versions))
    | .proceed | .reader | .event | .heartbeat .. | .resolved _ | .authorized _ | .subscribed _
    | .elapsed | .order _ => isTrue trivial
  | .task _ => isTrue trivial

/-- A client that knows the query protocol is given it by the compatible policy. -/
theorem versions_follow_policy_sample :
    ∃ s p, (sampleSystem sampleQuerySettings
        (DecidedBy sampleQuerySettings compatibleVersionPolicy)).Reachable s ∧
      s.coordinator.pending sampleQuerySettings = some p ∧
      p.state.negotiatedVersion = some queryProtocolVersion ∧
      ∃ hello, Greeted s.trace hello ∧
        IsGreatest (compatibleVersionPolicy.mutual hello.supportedVersions)
          queryProtocolVersion := by
  obtain ⟨s, p, hreach, hp, hcheck⟩ := exists_pending_of_run sampleQuerySettings
    (DecidedBy sampleQuerySettings compatibleVersionPolicy)
    (sampleText sampleQueryHello ++
      [.coordinator (.negotiated (.ok queryProtocolVersion)), .coordinator .proceed])
    (fun _ p => p.state.negotiatedVersion == some queryProtocolVersion)
    rfl (by decide +kernel)
  have hversion := beq_iff_eq.mp hcheck
  have hpolicy := (versions_follow_policy _ _ _ _ s hreach).1 _ _ _ (.waiting hp)
  exact ⟨s, p, hreach, hp, hversion, hpolicy.1 _ hversion⟩

end Runs
end OrbitRelay
