import Velum.Session.Delivery

/-!
# The final receive cursor

Once a peer has said where a flow ends, deliveries stay below that cursor.
The deliveries of a flow are counted over the whole run of the session, also
after the flow was removed.
-/

namespace Velum.Session

open Foundation
open Velum.Protocol
open Velum.Crypto

/-- The sequence that an exchange delivers on a flow. -/
def Exchange.deliveredOn (flowId : FlowId) (exchange : Exchange) :
    Option Nat :=
  match exchange.call, exchange.outcome with
  | .receive segment, .ok (.received (.delivered _)) =>
      if segment.flowId = flowId then some segment.sequence.value.toNat
      else none
  | _, _ => none

/-- The sequences that a run delivers on a flow, in their order. -/
def deliveredSequences (flowId : FlowId) (trace : List Exchange) : List Nat :=
  trace.filterMap (Exchange.deliveredOn flowId)

theorem deliveredOn_eq_none {flowId : FlowId} {exchange : Exchange}
    (elsewhere : ¬exchange.call.DeliversOn flowId) :
    exchange.deliveredOn flowId = none := by
  obtain ⟨call, outcome⟩ := exchange
  rw [Exchange.deliveredOn]
  split
  next segment bytes isReceive _ =>
      cases isReceive
      exact if_neg elsewhere
  next => rfl

namespace SessionTracer

/-- A step delivers one segment on the flow, or all that it does leaves the
receive cursor of the flow alone. -/
theorem Step.delivering_cases {hmac : Hmac} {before after : SessionTracer}
    {exchange : Exchange} (step : Step hmac before exchange after)
    (flowId : FlowId) :
    (exchange.deliveredOn flowId = none ∧
      ∃ actions, Run Effect before actions after ∧
        ∀ action ∈ actions, ¬action.DeliversOn flowId) ∨
    (∃ segment, segment.flowId = flowId ∧
      exchange.deliveredOn flowId = some segment.sequence.value.toNat ∧
      Effect before (.delivered segment) after) := by
  by_cases delivers : exchange.call.DeliversOn flowId
  · obtain ⟨call, outcome⟩ := exchange
    cases call with
    | receive segment =>
        obtain ⟨called, returned⟩ := step
        obtain rfl := delivers
        obtain ⟨typed, result, rfl⟩ := tag_eq_iff.mp called
        rcases receive_cases result with
          ⟨failed, rfl⟩ | ⟨rfl, rfl⟩ | ⟨rfl, rfl⟩ | rfl | ⟨rfl, effect⟩
        · refine .inl ⟨?_, [], .nil, by simp⟩
          cases typed with
          | ok answer => exact absurd failed (Outcome.not_failed_ok answer)
          | err error => rfl
          | panic cause => rfl
        · refine .inl ⟨rfl, _, .single (.noted _), ?_⟩
          simp [Action.DeliversOn]
        · refine .inl ⟨rfl, _, .single (.noted _), ?_⟩
          simp [Action.DeliversOn]
        · exact absurd returned id
        · exact .inr ⟨segment, rfl, if_pos rfl, effect⟩
    | _ => exact absurd delivers id
  · obtain ⟨actions, run, permitted⟩ := step.explained
    refine .inl ⟨deliveredOn_eq_none delivers, actions, run, ?_⟩
    intro action member reaches
    exact delivers ((permitted action member).deliversOn reaches)

end SessionTracer

/-! ## Deliveries of a run -/

/-- The deliveries of a run are numbered from zero up to the cursor. -/
theorem deliveredSequences_eq_range {hmac : Hmac} {epoch : Epoch}
    {limits : FlowLimits} {accepted : limits.Accepted}
    {trace : List Exchange} {session : SessionTracer}
    (run : Run (SessionTracer.Step hmac) (.new epoch limits accepted) trace
      session) (flowId : FlowId) :
    ∃ cursor, deliveredSequences flowId trace = List.range cursor ∧
      ReceiverSide flowId cursor session := by
  induction run with
  | nil =>
      refine ⟨0, rfl, fun _ => rfl, ?_⟩
      intro flow found
      simp [SessionTracer.new] at found
  | snoc front move induction =>
      obtain ⟨cursor, sequences, side⟩ := induction
      have live : SessionTracer.Live hmac _ := ⟨_, _, _, _, front⟩
      rw [deliveredSequences, List.filterMap_append, ← deliveredSequences,
        sequences, List.filterMap_cons, List.filterMap_nil]
      rcases move.delivering_cases flowId with
        ⟨none, actions, effects, elsewhere⟩ | ⟨segment, rfl, some, effect⟩
      · refine ⟨cursor, by simp [none], ?_⟩
        exact effects.invariant_on side
          (fun held away effect => held.effect away effect) elsewhere
      · obtain ⟨advanced, position⟩ := side.deliver live.accounted effect
        refine ⟨cursor + 1, ?_, advanced⟩
        rw [some, position, List.range_succ]

/-! ## Finished flows -/

/-- A stored final cursor is left alone. -/
theorem Effect.final_frame {before after : SessionTracer} {action : Action}
    {flowId : FlowId} {flow : ReliableFlow}
    (effect : Effect before action after)
    (found : after.flows.get? flowId = some flow) :
    (before.nextFlow.toNat ≤ flowId.value.toNat ∧ flow = .opened) ∨
    ∃ old, before.flows.get? flowId = some old ∧
      ∀ final, old.receiveFinalNext = some final →
        flow.receiveFinalNext = some final := by
  cases effect with
  | opened room fresh next =>
      rcases OrderedMap.get?_insert_eq_some_iff.mp found with
        ⟨rfl, rfl⟩ | ⟨_, untouched⟩
      · exact .inl ⟨fresh, rfl⟩
      · exact .inr ⟨flow, untouched, fun _ => id⟩
  | closed present idle =>
      have kept := (OrderedMap.get?_erase_eq_some_iff.mp found).2
      exact .inr ⟨flow, kept, fun _ => id⟩
  | dropped present segmentsLeft bytesLeft =>
      have kept := (OrderedMap.get?_erase_eq_some_iff.mp found).2
      exact .inr ⟨flow, kept, fun _ => id⟩
  | retained present =>
      obtain ⟨old, known, ⟨_, rfl⟩ | ⟨rfl, rfl, rfl⟩⟩ :=
        replaced_frame present found
      · exact .inr ⟨_, known, fun _ => id⟩
      · exact .inr ⟨_, known, fun _ => id⟩
  | released present =>
      obtain ⟨old, known, ⟨_, rfl⟩ | ⟨rfl, rfl, rfl⟩⟩ :=
        replaced_frame present found
      · exact .inr ⟨_, known, fun _ => id⟩
      · exact .inr ⟨_, known, fun _ => id⟩
  | delivered present =>
      obtain ⟨old, known, ⟨_, rfl⟩ | ⟨rfl, rfl, rfl⟩⟩ :=
        replaced_frame present found
      · exact .inr ⟨_, known, fun _ => id⟩
      · exact .inr ⟨_, known, fun _ => id⟩
  | finished present reached unset =>
      obtain ⟨old, known, ⟨_, rfl⟩ | ⟨rfl, rfl, rfl⟩⟩ :=
        replaced_frame present found
      · exact .inr ⟨_, known, fun _ => id⟩
      · refine .inr ⟨_, known, ?_⟩
        intro final recorded
        rw [unset] at recorded
        cases recorded
  | _ => exact .inr ⟨flow, found, fun _ => id⟩

/-- The flow ends at the cursor, and no more than that was delivered. -/
structure FinishedAt (flowId : FlowId) (final : Sequence) (cursor : Nat)
    (session : SessionTracer) : Prop where
  opened : flowId.value.toNat < session.nextFlow.toNat
  bounded : cursor ≤ final.value.toNat
  stored : ∀ {flow}, session.flows.get? flowId = some flow →
    flow.receiveFinalNext = some final
  received : ∀ {flow}, session.flows.get? flowId = some flow →
    flow.nextReceive.value.toNat = cursor

theorem FinishedAt.stored_after {flowId : FlowId} {final : Sequence}
    {cursor : Nat} {session next : SessionTracer} {action : Action}
    (finished : FinishedAt flowId final cursor session)
    (effect : Effect session action next) {flow : ReliableFlow}
    (found : next.flows.get? flowId = some flow) :
    flow.receiveFinalNext = some final := by
  have opened := finished.opened
  rcases effect.final_frame found with ⟨fresh, _⟩ | ⟨old, present, kept⟩
  · omega
  · exact kept final (finished.stored present)

theorem FinishedAt.effect {flowId : FlowId} {final : Sequence} {cursor : Nat}
    {session next : SessionTracer} {action : Action}
    (finished : FinishedAt flowId final cursor session)
    (elsewhere : ¬action.DeliversOn flowId)
    (effect : Effect session action next) :
    FinishedAt flowId final cursor next := by
  have grows := effect.nextFlow_le
  have opened := finished.opened
  refine ⟨by omega, finished.bounded, finished.stored_after effect, ?_⟩
  intro flow found
  rcases effect.flow_frame found with
    ⟨fresh, _⟩ | ⟨old, present, _, undelivered⟩
  · omega
  · rw [undelivered elsewhere]
    exact finished.received present

/-- A delivery stays below the final cursor. -/
theorem FinishedAt.deliver {final : Sequence} {cursor : Nat}
    {session next : SessionTracer} {segment : Segment}
    (finished : FinishedAt segment.flowId final cursor session)
    (effect : Effect session (.delivered segment) next) :
    FinishedAt segment.flowId final (cursor + 1) next ∧
      segment.sequence.value.toNat = cursor := by
  have stays {flow : ReliableFlow} (found : next.flows.get? segment.flowId =
      some flow) := finished.stored_after effect found
  cases effect with
  | delivered found valid unfinished inOrder following =>
      have position := finished.received found
      have below := unfinished final (finished.stored found)
      rw [Sequence.lt_iff, inOrder] at below
      refine ⟨⟨finished.opened, by omega, stays, ?_⟩, by rw [inOrder, position]⟩
      intro flow looked
      simp only [SessionTracer.setFlow, OrderedMap.get?_insert_self,
        Option.some.injEq] at looked
      subst looked
      rw [following, position]

/-- After the end was announced the deliveries go on from where they were. -/
theorem FinishedAt.run {hmac : Hmac} {flowId : FlowId} {final : Sequence}
    {cursor : Nat} {before : List Exchange} {trace : List Exchange}
    {session next : SessionTracer}
    (sequences : deliveredSequences flowId before = List.range cursor)
    (finished : FinishedAt flowId final cursor session)
    (run : Run (SessionTracer.Step hmac) session trace next) :
    ∃ reached, deliveredSequences flowId (before ++ trace) =
        List.range reached ∧ FinishedAt flowId final reached next := by
  induction run with
  | nil =>
      rw [List.append_nil]
      exact ⟨cursor, sequences, finished⟩
  | snoc front move induction =>
      obtain ⟨reached, delivered, held⟩ := induction
      rw [← List.append_assoc, deliveredSequences, List.filterMap_append,
        ← deliveredSequences, delivered, List.filterMap_cons,
        List.filterMap_nil]
      rcases move.delivering_cases flowId with
        ⟨none, actions, effects, elsewhere⟩ | ⟨segment, rfl, some, effect⟩
      · refine ⟨reached, by simp [none], ?_⟩
        exact effects.invariant_on held
          (fun kept away effect => kept.effect away effect) elsewhere
      · obtain ⟨advanced, position⟩ := held.deliver effect
        refine ⟨reached + 1, ?_, advanced⟩
        rw [some, position, List.range_succ]

/-! ## Calls on a finished flow -/

namespace SessionTracer

variable {session after : SessionTracer} {flowId : FlowId} {epoch : Epoch}
  {final : Sequence}

/-- A finish that succeeds has reached the cursor, and no other end was known
before. -/
theorem finishReceiving_eq_ok
    (called : session.finishReceiving flowId epoch final = (.ok (), after)) :
    ∃ flow, session.flows.get? flowId = some flow ∧
      flow.nextReceive ≤ final ∧
      after = session.setFlow flowId
        { flow with receiveFinalNext := some final } := by
  rw [finishReceiving] at called
  split at called
  next => cases called
  next =>
      split at called
      next => cases called
      next flow found =>
          split at called
          next => cases called
          next reached =>
              have ordered : flow.nextReceive ≤ final := by
                rw [Sequence.lt_iff] at reached
                rw [Sequence.le_iff]
                omega
              refine ⟨flow, found, ordered, ?_⟩
              split at called
              next existing recorded =>
                  split at called
                  next same =>
                      cases called
                      have unchanged :
                          { flow with receiveFinalNext := some final } =
                            flow := by
                        rw [← same, ← recorded]
                      rw [unchanged, setFlow, OrderedMap.insert_of_get? found]
                  next => cases called
              next =>
                  cases called
                  rfl

/-- The same end may be announced again. -/
theorem finishReceiving_again {flow : ReliableFlow}
    (valid : session.requireValidEpoch epoch = .ok ())
    (found : session.flows.get? flowId = some flow)
    (stored : flow.receiveFinalNext = some final)
    (reached : flow.nextReceive ≤ final) :
    session.finishReceiving flowId epoch final = (.ok (), session) := by
  have ordered : ¬final < flow.nextReceive := by
    rw [Sequence.le_iff] at reached
    rw [Sequence.lt_iff]
    omega
  simp [finishReceiving, valid, found, ordered, stored]

/-- No other end is accepted. -/
theorem finishReceiving_failed {other : Sequence}
    (stored : ∀ {flow}, session.flows.get? flowId = some flow →
      flow.receiveFinalNext = some final) (different : other ≠ final) :
    (session.finishReceiving flowId epoch other).1.Failed := by
  rw [finishReceiving]
  split
  next => trivial
  next =>
      split
      next => trivial
      next flow found =>
          split
          next => trivial
          next =>
              rw [stored found]
              simp only [Ne.symm different, if_false]
              trivial

/-- Below the end a segment is delivered exactly when it is the next one. -/
theorem receive_delivered_iff {segment : Segment} {flow : ReliableFlow}
    (valid : session.requireValidEpoch segment.epoch = .ok ())
    (found : session.flows.get? segment.flowId = some flow)
    (stored : flow.receiveFinalNext = some final)
    (below : segment.sequence < final) :
    (session.receive segment).1 = .ok (.delivered segment.bytes) ↔
      segment.sequence = flow.nextReceive := by
  have unfinished : ¬(flow.receiveFinalNext.any fun finalNext =>
      decide (finalNext ≤ segment.sequence)) = true := by
    rw [Sequence.lt_iff] at below
    simp only [stored, Option.any_some, decide_eq_true_eq, Sequence.le_iff]
    omega
  rw [receive, valid]
  simp only [found, unfinished]
  rcases lt_trichotomy segment.sequence.value.toNat
      flow.nextReceive.value.toNat with older | same | newer
  · have passed : segment.sequence < flow.nextReceive := by
      rwa [Sequence.lt_iff]
    have different : segment.sequence ≠ flow.nextReceive := by
      rw [ne_eq, Sequence.eq_iff]
      omega
    simp [passed, different]
  · have notBelow : ¬segment.sequence < flow.nextReceive := by
      rw [Sequence.lt_iff]
      omega
    have notAbove : ¬flow.nextReceive < segment.sequence := by
      rw [Sequence.lt_iff]
      omega
    have inOrder : segment.sequence = flow.nextReceive := by
      rwa [Sequence.eq_iff]
    obtain ⟨next, counted⟩ : ∃ next,
        checkedAdd flow.nextReceive.value 1 = some next := by
      apply Option.ne_none_iff_exists'.mp
      rw [ne_eq, checkedAdd_eq_none_iff, UInt64.toNat_one]
      rw [Sequence.lt_iff] at below
      have representable := final.value.toNat_lt
      omega
    simp only [notBelow, notAbove, counted, if_false, Bool.false_eq_true]
    simp [inOrder]
  · have notBelow : ¬segment.sequence < flow.nextReceive := by
      rw [Sequence.lt_iff]
      omega
    have above : flow.nextReceive < segment.sequence := by
      rwa [Sequence.lt_iff]
    have different : segment.sequence ≠ flow.nextReceive := by
      rw [ne_eq, Sequence.eq_iff]
      omega
    simp [notBelow, above, different]

/-- At or beyond the end a segment is an error. -/
theorem receive_failed {segment : Segment}
    (stored : ∀ {flow}, session.flows.get? segment.flowId = some flow →
      flow.receiveFinalNext = some final) (beyond : final ≤ segment.sequence) :
    (session.receive segment).1.Failed := by
  rw [receive]
  split
  next => trivial
  next =>
      split
      next => trivial
      next flow found =>
          have finished : (flow.receiveFinalNext.any fun finalNext =>
              decide (finalNext ≤ segment.sequence)) = true := by
            simp [stored found, beyond]
          rw [if_pos finished]
          trivial

end SessionTracer

/-! ## Runs -/

/-- What holds after the end of a flow was announced, given the sequences that
were delivered on it. -/
structure CutOff (flowId : FlowId) (final : Sequence) (delivered : List Nat)
    (session : SessionTracer) : Prop where
  sequences : ∃ count ≤ final.value.toNat, delivered = List.range count
  cursors : ∀ flow, session.flows.get? flowId = some flow →
    flow.receiveFinalNext = some final ∧ flow.nextReceive ≤ final ∧
      delivered = List.range flow.nextReceive.value.toNat
  inOrder : ∀ segment flow, segment.flowId = flowId →
    session.flows.get? flowId = some flow →
    session.requireValidEpoch segment.epoch = .ok () →
    segment.sequence < final →
      ((session.receive segment).1 = .ok (.delivered segment.bytes) ↔
        segment.sequence = flow.nextReceive)
  beyond : ∀ segment, segment.flowId = flowId → final ≤ segment.sequence →
    (session.receive segment).1.Failed
  repeated : ∀ epoch flow, session.flows.get? flowId = some flow →
    session.requireValidEpoch epoch = .ok () →
      session.finishReceiving flowId epoch final = (.ok (), session)
  different : ∀ epoch other, other ≠ final →
    (session.finishReceiving flowId epoch other).1.Failed

theorem FinishedAt.cutOff {flowId : FlowId} {final : Sequence} {cursor : Nat}
    {session : SessionTracer} {delivered : List Nat}
    (finished : FinishedAt flowId final cursor session)
    (sequences : delivered = List.range cursor) :
    CutOff flowId final delivered session := by
  have reached : ∀ {flow}, session.flows.get? flowId = some flow →
      flow.nextReceive ≤ final := by
    intro flow found
    rw [Sequence.le_iff, finished.received found]
    exact finished.bounded
  refine
    { sequences := ⟨cursor, finished.bounded, sequences⟩
      cursors := ?_
      inOrder := ?_
      beyond := ?_
      repeated := ?_
      different := ?_ }
  · intro flow found
    rw [finished.received found]
    exact ⟨finished.stored found, reached found, sequences⟩
  · rintro segment flow rfl found valid below
    exact SessionTracer.receive_delivered_iff valid found
      (finished.stored found) below
  · rintro segment rfl beyond
    exact SessionTracer.receive_failed finished.stored beyond
  · intro epoch flow found valid
    exact SessionTracer.finishReceiving_again valid found
      (finished.stored found) (reached found)
  · intro epoch other different
    exact SessionTracer.finishReceiving_failed finished.stored different

/-- In every run in which a finish has succeeded, the flow is cut off at its
cursor from then on. -/
theorem final_cursor_cuts_off (hmac : Hmac) (epoch : Epoch)
    (limits : FlowLimits) (accepted : limits.Accepted)
    (trace : List Exchange) (session : SessionTracer)
    (run : Run (SessionTracer.Step hmac) (.new epoch limits accepted) trace
      session) (flowId : FlowId) (finishEpoch : Epoch) (final : Sequence)
    (finished : (⟨.finishReceiving flowId finishEpoch final, .ok .done⟩ :
      Exchange) ∈ trace) :
    CutOff flowId final (deliveredSequences flowId trace) session := by
  obtain ⟨front, back, before, after, rfl, early, step, late⟩ :=
    run.of_mem finished
  have live : SessionTracer.Live hmac before := ⟨_, _, _, _, early⟩
  obtain ⟨cursor, sequences, side⟩ := deliveredSequences_eq_range early flowId
  obtain ⟨typed, called, answer⟩ := SessionTracer.tag_eq_iff.mp step.1
  obtain ⟨_, rfl, _⟩ := Outcome.bimap_eq_ok_iff.mp answer
  obtain ⟨flow, found, reached, rfl⟩ :=
    SessionTracer.finishReceiving_eq_ok called
  have position := side.nextReceive found
  have ends : FinishedAt flowId final cursor (before.setFlow flowId
      { flow with receiveFinalNext := some final }) := by
    refine ⟨live.accounted.identified found, ?_, ?_, ?_⟩
    · rw [Sequence.le_iff] at reached
      omega
    · intro other looked
      simp only [SessionTracer.setFlow, OrderedMap.get?_insert_self,
        Option.some.injEq] at looked
      rw [← looked]
    · intro other looked
      simp only [SessionTracer.setFlow, OrderedMap.get?_insert_self,
        Option.some.injEq] at looked
      rw [← looked]
      exact position
  obtain ⟨count, delivered, held⟩ := ends.run sequences late
  apply held.cutOff
  rw [← delivered, deliveredSequences, deliveredSequences,
    List.filterMap_append, List.filterMap_append, List.filterMap_cons]
  rfl

/-- One of two announced segments has arrived. -/
theorem final_cursor_cuts_off_second :
    ∃ session : SessionTracer,
      CutOff ⟨0⟩ ⟨2⟩ [0] session ∧
      (session.receive ⟨⟨0⟩, ⟨0⟩, ⟨1⟩, [7]⟩).1 = .ok (.delivered [7]) := by
  have run := SessionTracer.runCalls_run (.ofTags [])
    (.new ⟨0⟩ smallLimits (by decide))
    [.openReliableFlow, .receive ⟨⟨0⟩, ⟨0⟩, ⟨0⟩, [5]⟩,
      .finishReceiving ⟨0⟩ ⟨0⟩ ⟨2⟩, .receive ⟨⟨0⟩, ⟨0⟩, ⟨2⟩, [6]⟩] (by decide)
  have cut := final_cursor_cuts_off (.ofTags []) ⟨0⟩ smallLimits (by decide)
    _ _ run ⟨0⟩ ⟨0⟩ ⟨2⟩ (by decide)
  exact ⟨_, cut, rfl⟩

end Velum.Session
