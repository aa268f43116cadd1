import Velum.Session.Accounting

/-!
# Timeouts

Only the oldest segment of a queue is compared with the clock.  That finds
every expired segment because the expiries of a queue ascend.
-/

namespace Velum.Session

open Foundation
open Velum.Protocol
open Velum.Crypto

namespace SessionTracer

/-! ## Expired flows -/

/-- Some segment of the flow, anywhere in its queue, has expired. -/
def HoldsExpired (flow : ReliableFlow) (deadline : Nat) : Prop :=
  ∃ pending ∈ flow.pending, pending.expiresAt.toNat ≤ deadline

/-- The oldest segment expires first. -/
theorem holdsExpired_iff {session : SessionTracer} {flow : ReliableFlow}
    (accounted : session.FlowAccounted flow) (tick : UInt64) :
    HoldsExpired flow tick.toNat ↔
      (flow.pending.head?.any fun oldest =>
        decide (oldest.expiresAt ≤ tick)) = true := by
  have order := accounted.expiries
  rw [HoldsExpired]
  cases queue : flow.pending with
  | nil => simp
  | cons oldest rest =>
      rw [queue] at order
      simp only [List.head?_cons, Option.any_some, decide_eq_true_eq,
        UInt64.le_iff_toNat_le]
      constructor
      · rintro ⟨pending, member, expired⟩
        rcases List.mem_cons.mp member with rfl | later
        · exact expired
        · have first := List.rel_of_pairwise_cons order later
          rw [UInt64.le_iff_toNat_le] at first
          omega
      · intro expired
        exact ⟨oldest, List.mem_cons_self, expired⟩

theorem Accounted.mem_timedOut_iff {session : SessionTracer}
    (accounted : session.Accounted) {flowId : FlowId} :
    flowId ∈ session.timedOut ↔
      ∃ flow, session.flows.get? flowId = some flow ∧
        HoldsExpired flow session.tick.toNat := by
  rw [timedOut, List.mem_map]
  constructor
  · rintro ⟨⟨key, flow⟩, member, rfl⟩
    obtain ⟨stored, expired⟩ := List.mem_filter.mp member
    have found := OrderedMap.get?_eq_some_iff.mpr stored
    exact ⟨flow, found,
      (holdsExpired_iff (accounted.flows found) session.tick).mpr expired⟩
  · rintro ⟨flow, found, expired⟩
    refine ⟨(flowId, flow), ?_, rfl⟩
    apply List.mem_filter.mpr
    exact ⟨OrderedMap.get?_eq_some_iff.mp found,
      (holdsExpired_iff (accounted.flows found) session.tick).mp expired⟩

/-! ## Removal -/

/-- What the removal of flows leaves. -/
structure Without (removed : List FlowId) (before after : SessionTracer) :
    Prop where
  flows : ∀ flowId, after.flows.get? flowId =
    if flowId ∈ removed then none else before.flows.get? flowId
  rest : after = { before with
    flows := after.flows
    pendingSegments := after.pendingSegments
    pendingBytes := after.pendingBytes
    events := after.events }

theorem without_of_dropped {removed : List FlowId}
    {session after : SessionTracer}
    (run : Run Effect session (removed.map .dropped) after) :
    Without removed session after := by
  induction removed generalizing session with
  | nil =>
      rw [run.eq_of_nil]
      exact ⟨fun flowId => by simp, rfl⟩
  | cons flowId rest induction =>
      obtain ⟨middle, first, later⟩ := run.head
      have left := induction later
      cases first with
      | dropped found segmentsLeft bytesLeft =>
          constructor
          · intro other
            rw [left.flows]
            by_cases inRest : other ∈ rest
            · simp [inRest]
            · by_cases same : other = flowId
              · simp [same]
              · simp [inRest, same, OrderedMap.get?_erase_of_ne]
          · rw [left.rest]

theorem recordEvents_rest (expired : List FlowId) (session : SessionTracer)
    (event : SessionEvent) :
    expired.foldl (fun session _ => session.recordEvent event) session =
      { session with
        events := (expired.foldl
          (fun session _ => session.recordEvent event) session).events } := by
  induction expired generalizing session with
  | nil => rfl
  | cons flowId rest induction =>
      rw [List.foldl_cons, induction]
      rfl

/-- The session with a moved clock. -/
def atTick (session : SessionTracer) (tick : UInt64) : SessionTracer :=
  { session with tick }

/-- With balanced accounts and room on the clock, time moves on, the flows
with an expired oldest segment are returned, and they alone are removed. -/
theorem Accounted.advanceTime_eq {session : SessionTracer}
    {ticks tick : UInt64} (ticked : (session.atTick tick).Accounted)
    (forward : checkedAdd session.tick ticks = some tick) :
    ∃ after, session.advanceTime ticks =
        (.ok (session.atTick tick).timedOut, after) ∧
      Without (session.atTick tick).timedOut (session.atTick tick) after := by
  have distinct := timedOut_nodup (session.atTick tick)
  cases loop : removeTimedOut (session.atTick tick).timedOut
      (session.atTick tick) with
  | mk outcome removed =>
      rcases removeTimedOut_cases distinct (fun _ => timedOut_present) loop
        with ⟨_, _, flowId, flow, middle, _, run, found, overdrawn⟩ |
          ⟨rfl, run⟩
      · have balanced : middle.Accounted :=
          run.invariant ticked Accounted.effect
        exact absurd overdrawn (balanced.not_overdrawn found)
      · have left := without_of_dropped run
        have logged := recordEvents_rest (session.atTick tick).timedOut
          removed .flowTimedOut
        refine ⟨(session.atTick tick).timedOut.foldl
          (fun session _ => session.recordEvent .flowTimedOut) removed,
          ?_, ?_⟩
        · unfold atTick at loop ⊢
          simp only [advanceTime, forward, loop]
        · rw [logged]
          exact ⟨left.flows, by rw [left.rest]⟩

/-! ## Removed flows stay removed -/

/-- The flow was opened and is not there any more. -/
structure Gone (flowId : FlowId) (session : SessionTracer) : Prop where
  opened : flowId.value.toNat < session.nextFlow.toNat
  absent : session.flows.get? flowId = none

theorem Gone.effect {flowId : FlowId} {session next : SessionTracer}
    {action : Action} (gone : Gone flowId session)
    (effect : Effect session action next) : Gone flowId next := by
  have grows := effect.nextFlow_le
  have opened := gone.opened
  refine ⟨by omega, ?_⟩
  cases found : next.flows.get? flowId with
  | none => rfl
  | some flow =>
      rcases effect.flow_frame found with ⟨fresh, _⟩ | ⟨old, present, _⟩
      · omega
      · rw [gone.absent] at present
        cases present

/-- The identifier of a flow that is gone is not given out again. -/
theorem Gone.not_opened {flowId : FlowId} {session : SessionTracer}
    (gone : Gone flowId session) :
    (session.openReliableFlowWithId flowId).1.Failed ∧
      session.openReliableFlow.1 ≠ .ok flowId := by
  have opened := gone.opened
  constructor
  · cases called : session.openReliableFlowWithId flowId with
    | mk outcome after =>
        rcases openReliableFlowWithId_cases called with
          ⟨failed, _⟩ | ⟨_, _, effect, _⟩
        · exact failed
        · cases effect with
          | opened room fresh next => omega
  · intro same
    cases called : session.openReliableFlow with
    | mk outcome after =>
        rw [called] at same
        obtain ⟨opening, _, answer⟩ := openReliableFlow_eq_iff.mp called
        cases opening with
        | ok value =>
            cases answer
            cases same
            exact Nat.lt_irrefl _ opened
        | err error =>
            cases answer
            cases same
        | panic cause =>
            cases answer
            cases same

/-! ## Completeness -/

/-- The flows with an expired segment are returned and removed for good, with
what they are charged, and nothing expired is left. -/
structure TimesOutExactly (hmac : Hmac) (session : SessionTracer)
    (deadline : Nat) (expired : List FlowId) (after : SessionTracer) :
    Prop where
  tick : after.tick.toNat = deadline
  distinct : expired.Nodup
  complete : ∀ flowId, flowId ∈ expired ↔
    ∃ flow, session.flows.get? flowId = some flow ∧
      HoldsExpired flow deadline
  removed : ∀ flowId ∈ expired, after.flows.get? flowId = none
  untouched : ∀ flowId, flowId ∉ expired →
    after.flows.get? flowId = session.flows.get? flowId
  segments : session.pendingSegments = after.pendingSegments +
    (session.flows.retain fun flowId _ => decide (flowId ∈ expired)).total
      fun flow => flow.pending.length
  bytes : session.pendingBytes = after.pendingBytes +
    (session.flows.retain fun flowId _ => decide (flowId ∈ expired)).total
      fun flow => queuedBytes flow.pending
  unexpired : ∀ flowId flow, after.flows.get? flowId = some flow →
    ¬HoldsExpired flow deadline
  forever : ∀ flowId ∈ expired, ∀ trace later,
    Run (Step hmac) after trace later →
      (later.openReliableFlowWithId flowId).1.Failed ∧
        later.openReliableFlow.1 ≠ .ok flowId

/-- The account of the whole map is that of the kept flows and that of the
removed ones. -/
theorem Without.total {removed : List FlowId} {before after : SessionTracer}
    (left : Without removed before after) (weight : ReliableFlow → Nat) :
    before.flows.total weight = after.flows.total weight +
      (before.flows.retain fun flowId _ =>
        decide (flowId ∈ removed)).total weight := by
  have kept : (before.flows.retain fun flowId _ =>
      !decide (flowId ∈ removed)) = after.flows := by
    apply OrderedMap.ext_get?
    intro flowId
    apply Option.ext
    intro flow
    rw [OrderedMap.get?_retain_eq_some_iff, left.flows]
    by_cases gone : flowId ∈ removed
    · simp [gone]
    · simp [gone]
  have parts := before.flows.total_retain_add
    (fun flowId _ => decide (flowId ∈ removed)) weight
  rw [kept] at parts
  omega

/-- In every reachable state a step of the clock returns and removes exactly
the flows that hold an expired segment. -/
theorem timeouts_complete (hmac : Hmac) (session : SessionTracer)
    (live : Live hmac session) (ticks : UInt64)
    (room : session.tick.toNat + ticks.toNat < 2 ^ 64) :
    ∃ expired after, session.advanceTime ticks = (.ok expired, after) ∧
      TimesOutExactly hmac session (session.tick.toNat + ticks.toNat) expired
        after := by
  have accounted := live.accounted
  obtain ⟨tick, forward⟩ : ∃ tick, checkedAdd session.tick ticks =
      some tick := by
    apply Option.ne_none_iff_exists'.mp
    rw [ne_eq, checkedAdd_eq_none_iff]
    omega
  have moved := checkedAdd_eq_some_iff.mp forward
  have ticked : (session.atTick tick).Accounted :=
    accounted.effect (.ticked (by omega))
  obtain ⟨after, called, left⟩ := ticked.advanceTime_eq forward
  have balanced : after.Accounted := by
    have step : Step hmac session ⟨.advanceTime ticks,
        .ok (.timedOut (session.atTick tick).timedOut)⟩ after := by
      refine ⟨?_, trivial⟩
      exact tag_eq_iff.mpr ⟨_, called, rfl⟩
    exact (live.step step).accounted
  have complete : ∀ flowId, flowId ∈ (session.atTick tick).timedOut ↔
      ∃ flow, session.flows.get? flowId = some flow ∧
        HoldsExpired flow (session.tick.toNat + ticks.toNat) := by
    intro flowId
    rw [ticked.mem_timedOut_iff, ← moved]
    rfl
  have absent : ∀ flowId ∈ (session.atTick tick).timedOut,
      after.flows.get? flowId = none := by
    intro flowId expired
    rw [left.flows, if_pos expired]
  refine ⟨_, after, called, ?_⟩
  refine
    { tick := ?_
      distinct := timedOut_nodup _
      complete
      removed := absent
      untouched := ?_
      segments := ?_
      bytes := ?_
      unexpired := ?_
      forever := ?_ }
  · rw [left.rest]
    exact moved
  · intro flowId kept
    rw [left.flows, if_neg kept]
    rfl
  · rw [accounted.segments, balanced.segments]
    exact left.total _
  · have charged := left.total fun flow => flow.pendingBytes
    have same : (session.flows.retain fun flowId _ =>
        decide (flowId ∈ (session.atTick tick).timedOut)).total
          (fun flow => flow.pendingBytes) =
        (session.flows.retain fun flowId _ =>
          decide (flowId ∈ (session.atTick tick).timedOut)).total
            fun flow => queuedBytes flow.pending := by
      apply OrderedMap.total_congr
      intro flowId flow found
      obtain ⟨stored, _⟩ := OrderedMap.get?_retain_eq_some_iff.mp found
      exact (accounted.flows stored).bytes
    rw [accounted.bytes, balanced.bytes, ← same]
    exact charged
  · intro flowId flow found expired
    rw [left.flows] at found
    split at found
    next => cases found
    next kept => exact kept ((complete flowId).mpr ⟨flow, found, expired⟩)
  · intro flowId expired trace later run
    have gone : Gone flowId after := by
      refine ⟨?_, absent flowId expired⟩
      obtain ⟨flow, found, _⟩ := (complete flowId).mp expired
      rw [left.rest]
      exact accounted.identified found
    have still : Gone flowId later :=
      run.invariant gone (Step.invariant Gone.effect)
    exact still.not_opened

/-- Of two flows the one whose segment is old enough times out. -/
theorem timeouts_complete_one_of_two :
    ∃ session after : SessionTracer,
      session.flows.size = 2 ∧
      session.advanceTime 2 = (.ok [⟨0⟩], after) ∧
      after.pendingSegments = 1 ∧
      TimesOutExactly (.ofTags []) session 4 [⟨0⟩] after := by
  have run := runCalls_run (.ofTags []) (new ⟨0⟩ smallLimits (by decide))
    [.openReliableFlow, .openReliableFlow, .send ⟨0⟩ [1, 2, 3],
      .advanceTime 2, .send ⟨0⟩ [4], .send ⟨1⟩ [5]] (by decide)
  have live : Live (.ofTags []) _ := ⟨_, _, _, _, run⟩
  obtain ⟨expired, after, called, exact⟩ :=
    timeouts_complete (.ofTags []) _ live 2 (by decide)
  cases called
  exact ⟨_, _, rfl, rfl, rfl, exact⟩

end SessionTracer

end Velum.Session
