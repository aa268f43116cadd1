import Velum.Session.Timeouts

/-!
# Panics

The counters of a session are as large as what its run has counted: ticks,
segments, and transitions.  Below 64 bits of each, two additions can still
overflow: the expiry of a segment, which adds the configured age to the clock,
and the successor of an epoch, which need not have started from zero.
-/

namespace Velum.Session

open Foundation
open Velum.Protocol
open Velum.Crypto

/-! ## What a run counts -/

def Exchange.ticks : Exchange → Nat
  | ⟨.advanceTime ticks, _⟩ => ticks.toNat
  | _ => 0

/-- A segment that was sent or delivered; an attempt that ends in a panic
counts as well. -/
def Exchange.segments : Exchange → Nat
  | ⟨.send _ _, .ok _⟩ => 1
  | ⟨.send _ _, .panic _⟩ => 1
  | ⟨.receive _, .ok (.received (.delivered _))⟩ => 1
  | ⟨.receive _, .panic _⟩ => 1
  | _ => 0

def Exchange.transitions : Exchange → Nat
  | ⟨.beginTransition, .ok _⟩ => 1
  | ⟨.beginTransition, .panic _⟩ => 1
  | ⟨.beginExplainedTransition _ _ _, .ok _⟩ => 1
  | ⟨.beginExplainedTransition _ _ _, .panic _⟩ => 1
  | _ => 0

/-- The run counts less than 64 bits of everything. -/
structure Bounded (exchanges : List Exchange) : Prop where
  ticks : (exchanges.map Exchange.ticks).sum < 2 ^ 64
  segments : (exchanges.map Exchange.segments).sum < 2 ^ 64
  transitions : (exchanges.map Exchange.transitions).sum < 2 ^ 64

instance (exchanges : List Exchange) : Decidable (Bounded exchanges) :=
  decidable_of_iff
    ((exchanges.map Exchange.ticks).sum < 2 ^ 64 ∧
      (exchanges.map Exchange.segments).sum < 2 ^ 64 ∧
      (exchanges.map Exchange.transitions).sum < 2 ^ 64)
    ⟨fun ⟨ticks, segments, transitions⟩ => ⟨ticks, segments, transitions⟩,
      fun bounded =>
        ⟨bounded.ticks, bounded.segments, bounded.transitions⟩⟩

theorem Bounded.of_append {front back : List Exchange}
    (bounded : Bounded (front ++ back)) : Bounded front := by
  obtain ⟨ticks, segments, transitions⟩ := bounded
  simp only [List.map_append, List.sum_append] at ticks segments transitions
  exact ⟨by omega, by omega, by omega⟩

/-- The segments that an effect numbers. -/
def Action.segments : Action → Nat
  | .retained _ => 1
  | .delivered _ => 1
  | _ => 0

theorem Permits.segments_eq_zero {call : Call} {outcome : CallOutcome}
    {action : Action} (permitted : Permits call outcome action)
    (sends : ∀ flowId bytes, call ≠ .send flowId bytes)
    (receives : ∀ segment, call ≠ .receive segment) :
    action.segments = 0 := by
  unfold Permits at permitted
  split at permitted <;> simp_all [Action.segments]

theorem Permits.not_ticked {call : Call} {outcome : CallOutcome}
    {action : Action} (permitted : Permits call outcome action)
    (other : ∀ ticks, call ≠ .advanceTime ticks) : action ≠ .ticked := by
  rintro rfl
  unfold Permits at permitted
  split at permitted <;> simp_all

namespace SessionTracer

/-- No cursor of a flow has passed the count. -/
def CursorsWithin (count : Nat) (session : SessionTracer) : Prop :=
  ∀ flowId flow, session.flows.get? flowId = some flow →
    flow.nextSend.value.toNat ≤ count ∧ flow.nextReceive.value.toNat ≤ count

theorem CursorsWithin.mono {count larger : Nat} {session : SessionTracer}
    (within : session.CursorsWithin count) (grows : count ≤ larger) :
    session.CursorsWithin larger := by
  intro flowId flow found
  obtain ⟨sent, received⟩ := within flowId flow found
  exact ⟨by omega, by omega⟩

/-- A replaced flow whose cursors moved within the count. -/
theorem CursorsWithin.replace {count larger : Nat} {session : SessionTracer}
    {target : FlowId} {stored updated : ReliableFlow}
    (within : session.CursorsWithin count) (grows : count ≤ larger)
    (present : session.flows.get? target = some stored)
    (sent : updated.nextSend.value.toNat ≤
      stored.nextSend.value.toNat + (larger - count))
    (received : updated.nextReceive.value.toNat ≤
      stored.nextReceive.value.toNat + (larger - count))
    {flowId : FlowId} {flow : ReliableFlow}
    (found : (session.flows.insert target updated).get? flowId = some flow) :
    flow.nextSend.value.toNat ≤ larger ∧
      flow.nextReceive.value.toNat ≤ larger := by
  obtain ⟨old, known, ⟨_, rfl⟩ | ⟨rfl, rfl, rfl⟩⟩ :=
    replaced_frame present found
  · exact within.mono grows flowId flow known
  · obtain ⟨sentBefore, receivedBefore⟩ := within _ _ known
    exact ⟨by omega, by omega⟩

/-- An effect moves the cursors by the segments it numbers. -/
theorem CursorsWithin.effect {count : Nat} {session next : SessionTracer}
    {action : Action} (within : session.CursorsWithin count)
    (effect : Effect session action next) :
    next.CursorsWithin (count + action.segments) := by
  intro flowId flow found
  have grows : count ≤ count + action.segments := Nat.le_add_right _ _
  cases effect with
  | opened room fresh following =>
      rcases OrderedMap.get?_insert_eq_some_iff.mp found with
        ⟨rfl, rfl⟩ | ⟨_, untouched⟩
      · exact ⟨Nat.zero_le _, Nat.zero_le _⟩
      · exact within flowId flow untouched
  | closed present idle =>
      exact within flowId flow
        (OrderedMap.get?_erase_eq_some_iff.mp found).2
  | dropped present segmentsLeft bytesLeft =>
      exact within flowId flow
        (OrderedMap.get?_erase_eq_some_iff.mp found).2
  | retained present segmentRoom byteRoom flowSegmentRoom flowByteRoom
      current numbered following =>
      apply within.replace grows present ?_ ?_ found
      · simp [Action.segments, following]
      · simp
  | released present =>
      apply within.replace grows present ?_ ?_ found
      · simp
      · simp
  | delivered present valid unfinished inOrder following =>
      apply within.replace grows present ?_ ?_ found
      · simp
      · simp [Action.segments, following]
  | finished present =>
      apply within.replace grows present ?_ ?_ found
      · simp
      · simp
  | _ => exact within flowId flow found

theorem cursorsWithin_of_quiet {count : Nat} {session after : SessionTracer}
    (quiet : Quiet session after) (within : session.CursorsWithin count) :
    after.CursorsWithin count := by
  rcases quiet with rfl | ⟨event, rfl⟩
  · exact within
  · exact within

/-- An exchange moves the cursors by the segments it counts. -/
theorem CursorsWithin.step {hmac : Hmac} {count : Nat}
    {session after : SessionTracer} {exchange : Exchange}
    (within : session.CursorsWithin count)
    (step : Step hmac session exchange after) :
    after.CursorsWithin (count + exchange.segments) := by
  obtain ⟨call, outcome⟩ := exchange
  by_cases sends : ∃ flowId bytes, call = .send flowId bytes
  · obtain ⟨flowId, bytes, rfl⟩ := sends
    obtain ⟨called, returned⟩ := step
    obtain ⟨typed, result, rfl⟩ := tag_eq_iff.mp called
    rcases send_cases result with
      ⟨_, quiet⟩ | ⟨_, rfl, _⟩ | ⟨segment, rfl, _, _, effect⟩
    · exact (cursorsWithin_of_quiet quiet within).mono (Nat.le_add_right _ _)
    · exact absurd returned (by simp)
    · exact within.effect effect
  by_cases receives : ∃ segment, call = .receive segment
  · obtain ⟨segment, rfl⟩ := receives
    obtain ⟨called, returned⟩ := step
    obtain ⟨typed, result, rfl⟩ := tag_eq_iff.mp called
    rcases receive_cases result with
      ⟨_, rfl⟩ | ⟨rfl, rfl⟩ | ⟨rfl, rfl⟩ | rfl | ⟨rfl, effect⟩
    · exact within.mono (Nat.le_add_right _ _)
    · exact within
    · exact within
    · exact absurd returned (by simp)
    · exact within.effect effect
  push Not at sends receives
  apply CursorsWithin.mono ?_ (Nat.le_add_right _ _)
  refine step.invariant_on (CursorsWithin count) ?_ within
  intro session action next held permitted effect
  have moved := held.effect effect
  rwa [permitted.segments_eq_zero sends receives] at moved

/-- Only the clock call moves the clock. -/
theorem tick_of_effect {session next : SessionTracer} {action : Action}
    (effect : Effect session action next) (other : action ≠ .ticked) :
    next.tick = session.tick := by
  cases effect with
  | ticked forward => exact absurd rfl other
  | _ => rfl

theorem tick_of_step {hmac : Hmac} {session after : SessionTracer}
    {exchange : Exchange} (accounted : session.Accounted)
    (step : Step hmac session exchange after) :
    after.tick.toNat = session.tick.toNat + exchange.ticks := by
  obtain ⟨call, outcome⟩ := exchange
  by_cases advances : ∃ ticks, call = .advanceTime ticks
  · obtain ⟨ticks, rfl⟩ := advances
    obtain ⟨called, returned⟩ := step
    obtain ⟨typed, result, rfl⟩ := tag_eq_iff.mp called
    cases forward : checkedAdd session.tick ticks with
    | none =>
        rw [advanceTime, forward] at result
        cases result
        exact absurd returned (by simp)
    | some tick =>
        have moved := checkedAdd_eq_some_iff.mp forward
        have ticked : (session.atTick tick).Accounted :=
          accounted.effect (.ticked (by omega))
        obtain ⟨left, same, without⟩ := ticked.advanceTime_eq forward
        cases same.symm.trans result
        rw [without.rest]
        exact moved
  push Not at advances
  have same : after.tick = session.tick := by
    refine step.invariant_on (fun other => other.tick = session.tick) ?_ rfl
    intro before action next held permitted effect
    rw [tick_of_effect effect (permitted.not_ticked advances)]
    exact held
  have none : (⟨call, outcome⟩ : Exchange).ticks = 0 := by
    cases call with
    | advanceTime ticks => exact absurd rfl (advances ticks)
    | _ => rfl
  rw [same, none]
  rfl

/-- The counters of the session against the counts of its run. -/
structure Counted (exchanges : List Exchange) (session : SessionTracer) :
    Prop where
  clock : session.tick.toNat = (exchanges.map Exchange.ticks).sum
  cursors : session.CursorsWithin (exchanges.map Exchange.segments).sum

theorem counted_of_run {hmac : Hmac} {epoch : Epoch} {limits : FlowLimits}
    {accepted : limits.Accepted} {exchanges : List Exchange}
    {session : SessionTracer}
    (run : Run (Step hmac) (new epoch limits accepted) exchanges session) :
    session.Counted exchanges := by
  induction run with
  | nil =>
      refine ⟨rfl, ?_⟩
      intro flowId flow found
      simp [new] at found
  | snoc front move induction =>
      have live : Live hmac _ := ⟨_, _, _, _, front⟩
      constructor
      · rw [tick_of_step live.accounted move, induction.clock]
        simp
      · have moved := induction.cursors.step move
        simpa using moved

/-! ## Additions that overflow -/

/-- The checks that `send` makes before it changes the flow. -/
structure Admits (session : SessionTracer) (flowId : FlowId)
    (bytes : List UInt8) (flow : ReliableFlow) : Prop where
  found : session.flows.get? flowId = some flow
  segmentRoom : session.pendingSegments <
    session.limits.maxSessionPendingSegments.toNat
  byteRoom : bytes.length ≤
    session.limits.maxSessionPendingBytes.toNat - session.pendingBytes
  flowSegmentRoom : flow.pending.length ≠
    session.limits.maxPendingSegments.toNat
  flowByteRoom : bytes.length ≤
    session.limits.maxPendingBytes.toNat - flow.pendingBytes

/-- The clock leaves no room for the expiry of a segment. -/
def AgeOverflows (session : SessionTracer) : Prop :=
  2 ^ 64 ≤ session.tick.toNat + session.limits.maxPendingAge.toNat

/-- A transition can begin, but there is no epoch to begin it with. -/
def InLastEpoch (session : SessionTracer) : Prop :=
  session.transition.retiring = none ∧
    session.epoch.value.toNat + 1 = 2 ^ 64

/-- The call makes an addition that overflows although the run is short. -/
def Exhausts (session : SessionTracer) : Call → Prop
  | .send flowId bytes =>
      (∃ flow, session.Admits flowId bytes flow) ∧ session.AgeOverflows
  | .beginTransition => session.InLastEpoch
  | .beginExplainedTransition _ _ _ => session.InLastEpoch
  | _ => False

theorem Admits.send_eq {session : SessionTracer} {flowId : FlowId}
    {bytes : List UInt8} {flow : ReliableFlow}
    (admits : session.Admits flowId bytes flow) :
    session.send flowId bytes = session.retain flowId flow bytes := by
  have present : session.flows.contains flowId = true := by
    simp [OrderedMap.contains, admits.found]
  have segments := admits.segmentRoom
  have bytesFit := admits.byteRoom
  have flowBytes := admits.flowByteRoom
  simp only [send, present, Bool.not_true, Bool.false_eq_true, if_false,
    admits.found, admits.flowSegmentRoom]
  rw [if_neg (by omega), if_neg (by omega), if_neg (by omega)]

/-- A send that panics has passed all checks. -/
theorem admits_of_panic {session after : SessionTracer} {flowId : FlowId}
    {bytes : List UInt8} {cause : Panic}
    (called : session.send flowId bytes = (.panic cause, after)) :
    ∃ flow, session.Admits flowId bytes flow := by
  unfold send at called
  split at called
  · cases called
  split at called
  · cases called
  next segmentRoom =>
  split at called
  · cases called
  next byteRoom =>
  split at called
  · cases called
  next flow found =>
  split at called
  · cases called
  next flowSegmentRoom =>
  split at called
  · cases called
  next flowByteRoom =>
  exact ⟨flow, found, by omega, by omega, flowSegmentRoom, by omega⟩

/-- Without a successor sequence or with an overflowing expiry, and only
then, a segment cannot be retained. -/
theorem Admits.retain_panics_iff {session : SessionTracer} {flowId : FlowId}
    {bytes : List UInt8} {flow : ReliableFlow}
    (admits : session.Admits flowId bytes flow)
    (accounted : session.Accounted) :
    (∃ cause after, session.retain flowId flow bytes =
        (.panic cause, after)) ↔
      2 ^ 64 ≤ flow.nextSend.value.toNat + 1 ∨ session.AgeOverflows := by
  have covered := accounted.not_overdrawn admits.found
  unfold Overdrawn at covered
  have segmentRoom := admits.segmentRoom
  have byteRoom := admits.byteRoom
  have flowByteRoom := admits.flowByteRoom
  have segmentMaximum := session.limits.maxSessionPendingSegments.toNat_lt
  have byteMaximum := session.limits.maxSessionPendingBytes.toNat_lt
  have flowByteMaximum := session.limits.maxPendingBytes.toNat_lt
  have flowBytes : sizeAdd flow.pendingBytes bytes.length =
      some (flow.pendingBytes + bytes.length) :=
    sizeAdd_eq_some_iff.mpr ⟨rfl, by omega⟩
  have segments : sizeAdd session.pendingSegments 1 =
      some (session.pendingSegments + 1) :=
    sizeAdd_eq_some_iff.mpr ⟨rfl, by omega⟩
  have sessionBytes : sizeAdd session.pendingBytes bytes.length =
      some (session.pendingBytes + bytes.length) :=
    sizeAdd_eq_some_iff.mpr ⟨rfl, by omega⟩
  have sequence := @checkedAdd_eq_none_iff flow.nextSend.value 1
  have expiry := @checkedAdd_eq_none_iff session.tick
    session.limits.maxPendingAge
  unfold AgeOverflows
  rw [← expiry, show flow.nextSend.value.toNat + 1 =
    flow.nextSend.value.toNat + (1 : UInt64).toNat from rfl, ← sequence]
  simp only [retain, flowBytes, segments, sessionBytes]
  cases checkedAdd flow.nextSend.value 1 with
  | none => simp
  | some next =>
      cases checkedAdd session.tick session.limits.maxPendingAge with
      | none => simp
      | some expiresAt => simp

theorem receive_panic {session after : SessionTracer} {segment : Segment}
    {cause : Panic}
    (called : session.receive segment = (.panic cause, after)) :
    ∃ flow, session.flows.get? segment.flowId = some flow ∧
      2 ^ 64 ≤ flow.nextReceive.value.toNat + 1 := by
  unfold receive at called
  split at called
  · cases called
  split at called
  · cases called
  next flow found =>
  split at called
  · cases called
  split at called
  · cases called
  split at called
  · cases called
  split at called
  next exhausted => exact ⟨flow, found, checkedAdd_eq_none_iff.mp exhausted⟩
  next => cases called

theorem beginTransition_panics_iff {session : SessionTracer} :
    (∃ cause after, session.beginTransition = (.panic cause, after)) ↔
      session.InLastEpoch := by
  have limit := session.transition.current.value.toNat_lt
  have last := @checkedAdd_eq_none_iff session.transition.current.value 1
  have one : (1 : UInt64).toNat = 1 := rfl
  simp only [beginTransition, InLastEpoch, TransitionState.advance, epoch]
  cases session.transition.retiring with
  | some retiring => simp
  | none =>
      cases next : checkedAdd session.transition.current.value 1 with
      | none =>
          have large := last.mp next
          have same : session.transition.current.value.toNat + 1 = 2 ^ 64 := by
            omega
          simp [same]
      | some value =>
          have small : session.transition.current.value.toNat + 1 <
              2 ^ 64 := by
            by_contra large
            rw [last.mpr (by omega)] at next
            cases next
          simp
          omega

theorem beginExplainedTransition_panics_iff {session : SessionTracer}
    {source target : CarrierKind} {reason : TransitionReason} :
    (∃ cause after, session.beginExplainedTransition source target reason =
        (.panic cause, after)) ↔ session.InLastEpoch := by
  rw [← beginTransition_panics_iff, beginExplainedTransition]
  rcases session.beginTransition with ⟨outcome, begun⟩
  cases outcome with
  | ok epoch => simp
  | err failure => simp
  | panic cause => simp

/-- The panics of a tagged operation are those of the operation. -/
theorem tag_panics_iff {Error Value : Type} {onValue : Value → Answer}
    {onError : Error → CallError}
    {result : Outcome Panic Error Value × SessionTracer} :
    (∃ cause after, tag onValue onError result = (.panic cause, after)) ↔
      ∃ cause after, result = (.panic cause, after) := by
  constructor
  · rintro ⟨cause, after, tagged⟩
    exact ⟨cause, after, panic_of_tag tagged⟩
  · rintro ⟨cause, after, rfl⟩
    exact ⟨cause, after, rfl⟩

/-- A call that overflows panics. -/
theorem Exhausts.panics {hmac : Hmac} {session : SessionTracer} {call : Call}
    (accounted : session.Accounted) (exhausts : session.Exhausts call) :
    ∃ cause after, session.perform hmac call = (.panic cause, after) := by
  cases call with
  | send flowId bytes =>
      obtain ⟨⟨flow, admits⟩, overflows⟩ := exhausts
      apply tag_panics_iff.mpr
      rw [admits.send_eq]
      exact (admits.retain_panics_iff accounted).mpr (.inr overflows)
  | beginTransition =>
      exact tag_panics_iff.mpr (beginTransition_panics_iff.mpr exhausts)
  | beginExplainedTransition source target reason =>
      exact tag_panics_iff.mpr
        (beginExplainedTransition_panics_iff.mpr exhausts)
  | _ => exact absurd exhausts id

/-- In a short run nothing else panics. -/
theorem Counted.exhausts {hmac : Hmac} {exchanges : List Exchange}
    {session after : SessionTracer} {call : Call} {cause : Panic}
    (counted : session.Counted exchanges) (accounted : session.Accounted)
    (bounded : Bounded (exchanges ++ [⟨call, .panic cause⟩]))
    (called : session.perform hmac call = (.panic cause, after)) :
    session.Exhausts call := by
  obtain ⟨ticks, segments, _⟩ := bounded
  simp only [List.map_append, List.sum_append, List.map_cons, List.map_nil,
    List.sum_cons, List.sum_nil, Nat.add_zero] at ticks segments
  rcases perform_panic_cases called with
    ⟨counts, _⟩ | ⟨actions, middle, flowId, flow, run, found, overdrawn⟩
  · cases call with
    | send flowId bytes =>
        have stopped := panic_of_tag called
        obtain ⟨flow, admits⟩ := admits_of_panic stopped
        rw [admits.send_eq] at stopped
        refine ⟨⟨flow, admits⟩, ?_⟩
        rcases (admits.retain_panics_iff accounted).mp ⟨_, _, stopped⟩ with
          exhausted | overflows
        · have within := (counted.cursors flowId flow admits.found).1
          simp only [Exchange.segments] at segments
          omega
        · exact overflows
    | receive segment =>
        obtain ⟨flow, found, exhausted⟩ := receive_panic (panic_of_tag called)
        have within := (counted.cursors segment.flowId flow found).2
        simp only [Exchange.segments] at segments
        omega
    | advanceTime span =>
        have stopped := panic_of_tag called
        have clock := counted.clock
        simp only [Exchange.ticks] at ticks
        obtain ⟨tick, forward⟩ : ∃ tick, checkedAdd session.tick span =
            some tick := by
          apply Option.ne_none_iff_exists'.mp
          rw [ne_eq, checkedAdd_eq_none_iff]
          omega
        have moved := checkedAdd_eq_some_iff.mp forward
        have ticked : (session.atTick tick).Accounted :=
          accounted.effect (.ticked (by omega))
        obtain ⟨left, same, _⟩ := ticked.advanceTime_eq forward
        cases same.symm.trans stopped
    | beginTransition =>
        exact beginTransition_panics_iff.mp ⟨_, _, panic_of_tag called⟩
    | beginExplainedTransition source target reason =>
        exact beginExplainedTransition_panics_iff.mp
          ⟨_, _, panic_of_tag called⟩
    | _ => exact absurd counts id
  · have balanced : middle.Accounted :=
      run.invariant accounted Accounted.effect
    exact absurd overdrawn (balanced.not_overdrawn found)

/-! ## Runs -/

theorem runCalls_append (hmac : Hmac) (session : SessionTracer)
    (front back : List Call) :
    runCalls hmac session (front ++ back) =
      ((runCalls hmac session front).1 ++
          (runCalls hmac (runCalls hmac session front).2 back).1,
        (runCalls hmac (runCalls hmac session front).2 back).2) := by
  induction front generalizing session with
  | nil => rfl
  | cons call rest induction =>
      simp only [List.cons_append, runCalls, induction]

/-- No call of a short run panics, exactly when no send that the limits admit
is made while the clock and the configured age exceed 64 bits, and no
transition is begun in the last epoch. -/
theorem tracer_returns_iff (hmac : Hmac) (epoch : Epoch)
    (limits : FlowLimits) (accepted : limits.Accepted) (calls : List Call)
    (bounded : Bounded (runCalls hmac (new epoch limits accepted) calls).1) :
    (∀ exchange ∈ (runCalls hmac (new epoch limits accepted) calls).1,
        exchange.outcome.Returned) ↔
      ∀ earlier call later, calls = earlier ++ call :: later →
        ¬(runCalls hmac (new epoch limits accepted) earlier).2.Exhausts
          call := by
  constructor
  · rintro returned earlier call later rfl exhausts
    rw [runCalls_append] at returned
    have run := runCalls_run hmac (new epoch limits accepted) earlier
      fun exchange member => returned exchange (List.mem_append_left _ member)
    have live : Live hmac _ := ⟨_, _, _, _, run⟩
    obtain ⟨cause, after, called⟩ := exhausts.panics live.accounted
    have stopped := returned ⟨call, .panic cause⟩ (by
      apply List.mem_append_right
      rw [runCalls, called]
      exact List.mem_cons_self)
    exact stopped
  · -- The calls before the last one make a run, so its counters are known.
    intro safe
    induction calls using List.reverseRecOn with
    | nil =>
        intro exchange member
        cases member
    | append_singleton earlier call induction =>
        rw [runCalls_append] at bounded ⊢
        have returned := induction bounded.of_append (by
          rintro front middle back rfl
          exact safe front middle (back ++ [call]) (by simp))
        have run := runCalls_run hmac (new epoch limits accepted) earlier
          returned
        have live : Live hmac _ := ⟨_, _, _, _, run⟩
        have last : (runCalls hmac (runCalls hmac (new epoch limits accepted)
            earlier).2 [call]).1 = [⟨call, ((runCalls hmac
              (new epoch limits accepted) earlier).2.perform hmac call).1⟩] :=
          rfl
        rw [last] at bounded ⊢
        intro exchange member
        rcases List.mem_append.mp member with before | final
        · exact returned exchange before
        rw [List.mem_singleton.mp final]
        cases called : (runCalls hmac (new epoch limits accepted)
            earlier).2.perform hmac call with
        | mk outcome after =>
            rw [called] at bounded
            cases outcome with
            | ok answer => trivial
            | err error => trivial
            | panic cause =>
                exact safe earlier call [] rfl
                  ((counted_of_run run).exhausts live.accounted bounded
                    called)

/-- With small limits a send after three ticks is safe. -/
theorem tracer_returns_small :
    ¬(runCalls (.ofTags []) (new ⟨0⟩ smallLimits (by decide))
      [.openReliableFlow, .advanceTime 3]).2.Exhausts (.send ⟨0⟩ [1, 2]) := by
  have exact := tracer_returns_iff (.ofTags []) ⟨0⟩ smallLimits (by decide)
    [.openReliableFlow, .advanceTime 3, .send ⟨0⟩ [1, 2], .beginTransition]
    (by decide)
  exact exact.mp (by decide) [.openReliableFlow, .advanceTime 3]
    (.send ⟨0⟩ [1, 2]) [.beginTransition] rfl

/-- Limits whose age is the largest one. -/
def agelessLimits : FlowLimits :=
  { smallLimits with maxPendingAge := 0xffffffffffffffff }

/-- After one tick, a send with the largest age panics when it has already
numbered and charged the segment. -/
theorem send_panics_after_tick :
    ∃ after : SessionTracer,
      (runCalls (.ofTags []) (new ⟨0⟩ agelessLimits (by decide))
        [.openReliableFlow, .advanceTime 1]).2.send ⟨0⟩ [7] =
          (.panic .pendingTimeoutExhausted, after) ∧
      after.flows.get? ⟨0⟩ = some ⟨⟨1⟩, ⟨0⟩, none, [], 1⟩ ∧
      ¬∀ (epoch : Epoch) (limits : FlowLimits) (accepted : limits.Accepted)
        (calls : List Call),
        Bounded (runCalls (.ofTags []) (new epoch limits accepted)
          calls).1 →
        ∀ exchange ∈ (runCalls (.ofTags []) (new epoch limits accepted)
          calls).1, exchange.outcome.Returned := by
  refine ⟨_, rfl, by decide, ?_⟩
  intro safe
  have stopped := safe ⟨0⟩ agelessLimits (by decide)
    [.openReliableFlow, .advanceTime 1, .send ⟨0⟩ [7]] (by decide)
  revert stopped
  decide

end SessionTracer

end Velum.Session
