import Velum.Session.Calls

/-!
# Carrier attachments over whole runs

Which attachments a session accepts depends on the parameters it was bound
to, its current epoch, the proof, and the latest epoch in its replay window.
The history of a run is the list of its exchanges; the window bounds the
epochs of all attachments accepted so far.
-/

namespace Velum.Session

open Foundation
open Velum.Protocol
open Velum.Crypto

/-- The attachment that an exchange newly accepted, if any. -/
def Exchange.acceptedAttachment : Exchange → Option CarrierAttachment
  | ⟨.authenticateCarrierAttachment _ _ attachment,
      .ok (.attachment .accepted)⟩ => some attachment
  | _ => none

/-- The attachments a run newly accepted, oldest first. -/
def acceptedAttachments (trace : List Exchange) : List CarrierAttachment :=
  trace.filterMap Exchange.acceptedAttachment

theorem acceptedAttachments_append (front back : List Exchange) :
    acceptedAttachments (front ++ back) =
      acceptedAttachments front ++ acceptedAttachments back :=
  List.filterMap_append

theorem acceptedAttachment_eq_some {exchange : Exchange}
    {attachment : CarrierAttachment}
    (accepted : exchange.acceptedAttachment = some attachment) :
    ∃ authenticator sessionId, exchange =
      ⟨.authenticateCarrierAttachment authenticator sessionId attachment,
        .ok (.attachment .accepted)⟩ := by
  unfold Exchange.acceptedAttachment at accepted
  split at accepted
  · rename_i authenticator sessionId found
    cases accepted
    exact ⟨authenticator, sessionId, rfl⟩
  · cases accepted

/-- Everything about carriers and flows; only the event log may differ. -/
structure SessionTracer.Unchanged (before after : SessionTracer) : Prop where
  transition : after.transition = before.transition
  attachmentReplay : after.attachmentReplay = before.attachmentReplay
  acceptedAttachment : after.acceptedAttachment = before.acceptedAttachment
  retiringAttachment : after.retiringAttachment = before.retiringAttachment
  negotiated : after.negotiated = before.negotiated
  flows : after.flows = before.flows

theorem Quiet.unchanged {before after : SessionTracer}
    (quiet : Quiet before after) : before.Unchanged after := by
  rcases quiet with rfl | ⟨event, rfl⟩
  · exact ⟨rfl, rfl, rfl, rfl, rfl, rfl⟩
  · exact ⟨rfl, rfl, rfl, rfl, rfl, rfl⟩

/-! ## Who writes the attachment state -/

theorem Permits.bound {call : Call} {outcome : CallOutcome}
    {parameters : NegotiatedParameters}
    (permitted : Permits call outcome (.bound parameters)) :
    call = .bindNegotiatedParameters parameters := by
  unfold Permits at permitted
  split at permitted <;> simp_all

theorem Permits.attached {exchange : Exchange}
    {identity : AcceptedCarrierAttachment}
    (permitted : Permits exchange.call exchange.outcome
      (.attached identity)) :
    ∃ attachment, exchange.acceptedAttachment = some attachment ∧
      attachment.identity = identity := by
  obtain ⟨call, outcome⟩ := exchange
  unfold Permits at permitted
  split at permitted <;> simp_all [Exchange.acceptedAttachment]

theorem Effect.negotiated_eq {before after : SessionTracer}
    {action : Action} (effect : Effect before action after)
    (other : ∀ parameters, action ≠ .bound parameters) :
    after.negotiated = before.negotiated := by
  cases effect with
  | bound => exact absurd rfl (other _)
  | _ => rfl

theorem Effect.attachmentReplay_eq {before after : SessionTracer}
    {action : Action} (effect : Effect before action after)
    (other : ∀ identity, action ≠ .attached identity) :
    after.attachmentReplay = before.attachmentReplay := by
  cases effect with
  | attached => exact absurd rfl (other _)
  | _ => rfl

namespace SessionTracer

/-- The attachment is the accepted one or the retiring one. -/
def Holds (session : SessionTracer)
    (identity : AcceptedCarrierAttachment) : Prop :=
  session.acceptedAttachment = some identity ∨
    session.retiringAttachment = some identity

/-- Bound parameters change only by an exchange that binds them. -/
theorem Step.negotiated_cases {hmac : Hmac} {before after : SessionTracer}
    {exchange : Exchange} (step : Step hmac before exchange after) :
    after.negotiated = before.negotiated ∨
      ∃ parameters, after.negotiated = some parameters ∧
        exchange = ⟨.bindNegotiatedParameters parameters, .ok .done⟩ := by
  obtain ⟨call, outcome⟩ := exchange
  by_cases binding :
      ∃ parameters, call = .bindNegotiatedParameters parameters
  · obtain ⟨parameters, rfl⟩ := binding
    obtain ⟨typed, result, rfl⟩ := tag_eq_iff.mp step.1
    rcases bindNegotiatedParameters_cases result with
      ⟨_, rfl⟩ | ⟨rfl, effect⟩
    · exact .inl rfl
    · cases effect
      exact .inr ⟨parameters, rfl, rfl⟩
  · have preserved : ∀ {session action next},
        session.negotiated = before.negotiated →
        Permits call outcome action → Effect session action next →
        next.negotiated = before.negotiated := by
      intro session action next held permitted effect
      rw [effect.negotiated_eq, held]
      intro parameters same
      subst same
      exact binding ⟨parameters, permitted.bound⟩
    exact .inl (step.invariant_on
      (fun session => session.negotiated = before.negotiated) preserved rfl)

/-- A held attachment was held before or has just been accepted. -/
theorem Step.holds_cases {hmac : Hmac} {before after : SessionTracer}
    {exchange : Exchange} {identity : AcceptedCarrierAttachment}
    (step : Step hmac before exchange after) (held : after.Holds identity) :
    before.Holds identity ∨
      ∃ attachment, exchange.acceptedAttachment = some attachment ∧
        attachment.identity = identity := by
  have preserved : ∀ {session action next},
      (∀ identity, session.Holds identity → before.Holds identity ∨
        ∃ attachment, exchange.acceptedAttachment = some attachment ∧
          attachment.identity = identity) →
      Permits exchange.call exchange.outcome action →
      Effect session action next →
      ∀ identity, next.Holds identity → before.Holds identity ∨
        ∃ attachment, exchange.acceptedAttachment = some attachment ∧
          attachment.identity = identity := by
    intro session action next earlier permitted effect identity held
    cases effect with
    | begun =>
        rcases held with accepted | retiring
        · cases accepted
        · exact earlier identity (.inl retiring)
    | completed =>
        rcases held with accepted | retiring
        · exact earlier identity (.inl accepted)
        · cases retiring
    | attached =>
        rcases held with accepted | retiring
        · cases accepted
          exact .inr permitted.attached
        · exact earlier identity (.inr retiring)
    | _ => exact earlier identity held
  exact step.invariant_on
    (fun session => ∀ identity, session.Holds identity →
      before.Holds identity ∨
        ∃ attachment, exchange.acceptedAttachment = some attachment ∧
          attachment.identity = identity)
    preserved (fun _ => .inl) identity held

/-- The replay window changes only by an exchange that accepts an
attachment. -/
theorem Step.attachmentReplay_eq {hmac : Hmac}
    {before after : SessionTracer} {exchange : Exchange}
    (step : Step hmac before exchange after)
    (refused : exchange.acceptedAttachment = none) :
    after.attachmentReplay = before.attachmentReplay := by
  have preserved : ∀ {session action next},
      session.attachmentReplay = before.attachmentReplay →
      Permits exchange.call exchange.outcome action →
      Effect session action next →
      next.attachmentReplay = before.attachmentReplay := by
    intro session action next held permitted effect
    rw [effect.attachmentReplay_eq, held]
    intro identity same
    subst same
    obtain ⟨attachment, accepted, _⟩ := permitted.attached
    rw [refused] at accepted
    cases accepted
  exact step.invariant_on
    (fun session => session.attachmentReplay = before.attachmentReplay)
    preserved rfl

/-- A new acceptance is a verified attachment of an epoch beyond the replay
window. -/
theorem Step.accepted {hmac : Hmac} {before after : SessionTracer}
    {authenticator : AttachmentAuthenticator} {sessionId : SessionId}
    {attachment : CarrierAttachment}
    (step : Step hmac before
      ⟨.authenticateCarrierAttachment authenticator sessionId attachment,
        .ok (.attachment .accepted)⟩ after) :
    before.Verified hmac authenticator sessionId attachment ∧
      before.attachmentReplay.accepts attachment.epoch = true ∧
      Effect before (.attached attachment.identity) after := by
  obtain ⟨typed, result, accepted⟩ := tag_eq_iff.mp step.1
  rcases authenticateCarrierAttachment_cases result with
    ⟨failed, _⟩ | ⟨rfl, _⟩ | ⟨rfl, verified, _, fresh, effect⟩
  · cases typed with
    | err failure => cases accepted
    | ok acceptance => exact absurd failed (by simp)
    | panic cause => cases accepted
  · cases accepted
  · exact ⟨verified, fresh, effect⟩

end SessionTracer

/-- Along a run, a held attachment was held at the start or accepted on the
way. -/
theorem run_holds_cases {hmac : Hmac} {initial session : SessionTracer}
    {trace : List Exchange} {identity : AcceptedCarrierAttachment}
    (run : Run (SessionTracer.Step hmac) initial trace session)
    (held : session.Holds identity) :
    initial.Holds identity ∨
      ∃ attachment ∈ acceptedAttachments trace,
        attachment.identity = identity := by
  induction run with
  | nil => exact .inl held
  | snoc _ step induction =>
      rw [acceptedAttachments_append]
      rcases step.holds_cases held with earlier | ⟨attachment, newest, same⟩
      · rcases induction earlier with start | ⟨attachment, member, same⟩
        · exact .inl start
        · exact .inr ⟨attachment, List.mem_append_left _ member, same⟩
      · refine .inr ⟨attachment, List.mem_append_right _ ?_, same⟩
        simp [acceptedAttachments, newest]

/-! ## The history of a run -/

/-- The state of a session against the exchanges that led to it. -/
structure AttachmentHistory (trace : List Exchange)
    (session : SessionTracer) : Prop where
  bound : ∀ {parameters}, session.negotiated = some parameters →
    ⟨.bindNegotiatedParameters parameters, .ok .done⟩ ∈ trace
  consumed : ∀ attachment ∈ acceptedAttachments trace,
    ∃ latest, session.attachmentReplay.latest = some latest ∧
      attachment.epoch ≤ latest
  increasing : (acceptedAttachments trace).Pairwise fun earlier later =>
    earlier.epoch < later.epoch

/-- A window that accepts an epoch lies below it. -/
theorem accepts_iff {window : ReplayWindow} {epoch : Epoch} :
    window.accepts epoch = true ↔
      ∀ latest, window.latest = some latest → latest < epoch := by
  obtain ⟨latest⟩ := window
  cases latest with
  | none => simp [ReplayWindow.accepts]
  | some latest => simp [ReplayWindow.accepts]

theorem AttachmentHistory.accepted_below {trace : List Exchange}
    {session : SessionTracer} {epoch : Epoch}
    (history : AttachmentHistory trace session)
    (fresh : session.attachmentReplay.accepts epoch = true) :
    ∀ attachment ∈ acceptedAttachments trace, attachment.epoch < epoch := by
  intro attachment member
  obtain ⟨latest, window, reached⟩ := history.consumed attachment member
  have beyond := accepts_iff.mp fresh latest window
  rw [Epoch.le_iff] at reached
  rw [Epoch.lt_iff] at beyond ⊢
  omega

theorem AttachmentHistory.step {hmac : Hmac} {trace : List Exchange}
    {session next : SessionTracer} {exchange : Exchange}
    (history : AttachmentHistory trace session)
    (step : SessionTracer.Step hmac session exchange next) :
    AttachmentHistory (trace ++ [exchange]) next := by
  have bound : ∀ {parameters}, next.negotiated = some parameters →
      ⟨.bindNegotiatedParameters parameters, .ok .done⟩ ∈
        trace ++ [exchange] := by
    intro parameters negotiated
    rcases step.negotiated_cases with same | ⟨bound, written, rfl⟩
    · rw [same] at negotiated
      exact List.mem_append_left _ (history.bound negotiated)
    · rw [written] at negotiated
      cases negotiated
      exact List.mem_append_right _ List.mem_cons_self
  cases accepted : exchange.acceptedAttachment with
  | none =>
      have none : acceptedAttachments [exchange] = [] := by
        simp [acceptedAttachments, accepted]
      refine ⟨bound, ?_, ?_⟩
      · intro attachment member
        rw [acceptedAttachments_append, none, List.append_nil] at member
        rw [step.attachmentReplay_eq accepted]
        exact history.consumed attachment member
      · rw [acceptedAttachments_append, none, List.append_nil]
        exact history.increasing
  | some attachment =>
      have one : acceptedAttachments [exchange] = [attachment] := by
        simp [acceptedAttachments, accepted]
      obtain ⟨authenticator, sessionId, rfl⟩ :=
        acceptedAttachment_eq_some accepted
      obtain ⟨verified, fresh, effect⟩ := step.accepted
      have below := history.accepted_below fresh
      cases effect
      refine ⟨bound, ?_, ?_⟩
      · intro other member
        refine ⟨attachment.epoch, rfl, ?_⟩
        rw [acceptedAttachments_append, one] at member
        rcases List.mem_append.mp member with earlier | newest
        · have before := below other earlier
          rw [Epoch.lt_iff] at before
          rw [Epoch.le_iff]
          omega
        · rw [List.mem_singleton.mp newest, Epoch.le_iff]
      · rw [acceptedAttachments_append, one]
        refine List.pairwise_append.mpr
          ⟨history.increasing, List.pairwise_singleton _ _, ?_⟩
        intro earlier member later newest
        rw [List.mem_singleton.mp newest]
        exact below earlier member

theorem run_attachmentHistory {hmac : Hmac} {epoch : Epoch}
    {limits : FlowLimits} {limitsAccepted : limits.Accepted}
    {trace : List Exchange} {session : SessionTracer}
    (run : Run (SessionTracer.Step hmac) (.new epoch limits limitsAccepted)
      trace session) : AttachmentHistory trace session := by
  induction run with
  | nil =>
      refine ⟨?_, ?_, List.Pairwise.nil⟩
      · intro parameters negotiated
        cases negotiated
      · intro attachment member
        cases member
  | snoc _ step induction => exact induction.step step

/-- Over every run: an attachment is newly accepted only under parameters
bound earlier in the run, for the current epoch, and with the proof of exactly
this session, epoch, identifier, and parameters; accepted epochs increase
strictly; only a verified repetition of the accepted attachment is answered
again; and every other attempt fails and changes nothing but the log. -/
theorem attachments_safe (hmac : Hmac) (epoch : Epoch) (limits : FlowLimits)
    (limitsAccepted : limits.Accepted) (trace : List Exchange)
    (session : SessionTracer)
    (run : Run (SessionTracer.Step hmac) (.new epoch limits limitsAccepted)
      trace session) :
    ((acceptedAttachments trace).Pairwise fun earlier later =>
      earlier.epoch < later.epoch) ∧
    ∀ authenticator sessionId attachment outcome after,
      session.authenticateCarrierAttachment hmac authenticator sessionId
        attachment = (outcome, after) →
      (outcome = .ok .accepted →
        ⟨.bindNegotiatedParameters attachment.parameters, .ok .done⟩ ∈
            trace ∧
          session.Verified hmac authenticator sessionId attachment ∧
          ∀ earlier ∈ acceptedAttachments trace,
            earlier.epoch < attachment.epoch) ∧
      (outcome = .ok .alreadyAccepted ↔
        session.Verified hmac authenticator sessionId attachment ∧
          session.acceptedAttachment = some attachment.identity) ∧
      (outcome ≠ .ok .accepted → outcome ≠ .ok .alreadyAccepted →
        outcome.Failed ∧ session.Unchanged after) := by
  have history := run_attachmentHistory run
  refine ⟨history.increasing, ?_⟩
  intro authenticator sessionId attachment outcome after called
  rcases SessionTracer.authenticateCarrierAttachment_cases called with
    ⟨failed, quiet, refused⟩ | ⟨rfl, rfl, verified, repeated⟩ |
    ⟨rfl, verified, different, fresh, effect⟩
  · refine ⟨?_, ⟨?_, ?_⟩, fun _ _ => ⟨failed, quiet.unchanged⟩⟩
    · intro accepted
      subst accepted
      exact absurd failed (by simp)
    · intro answered
      subst answered
      exact absurd failed (by simp)
    · intro repetition
      exact absurd repetition.2 (refused repetition.1).1
  · refine ⟨?_, ⟨fun _ => ⟨verified, repeated⟩, fun _ => rfl⟩, ?_⟩
    · intro accepted
      cases accepted
    · intro _ notAnswered
      exact absurd rfl notAnswered
  · refine ⟨fun _ => ⟨history.bound verified.bound, verified,
      history.accepted_below fresh⟩, ⟨?_, ?_⟩, ?_⟩
    · intro answered
      cases answered
    · intro repetition
      exact absurd repetition.2 different
    · intro notAccepted
      exact absurd rfl notAccepted

/-! ## The sessions of the dispatcher tests -/

def testParameters : NegotiatedParameters where
  version := 0
  capabilities := .reliableStream
  clientNonce := ⟨List.Vector.replicate 16 1, by decide⟩
  serverNonce := ⟨List.Vector.replicate 16 2, by decide⟩

def testSessionId : SessionId :=
  ⟨List.Vector.replicate 16 9⟩

/-- The key derived from the secret `secret`. -/
def testKey : List.Vector UInt8 32 :=
  ⟨[219, 176, 115, 141, 89, 68, 52, 122, 186, 244, 9, 44, 102, 225, 243, 80,
    10, 195, 57, 138, 67, 128, 22, 77, 157, 143, 58, 202, 215, 205, 25, 3],
    rfl⟩

def testAuthenticator : AttachmentAuthenticator :=
  ⟨testKey.toList⟩

def testAttachmentId : AttachmentId :=
  ⟨List.Vector.replicate 16 3, by decide⟩

def replacementAttachmentId : AttachmentId :=
  ⟨List.Vector.replicate 16 4, by decide⟩

/-- HMAC-SHA-256 on the messages that the tests sign; the remaining message
reuses an attachment identifier in the next epoch. -/
def testHmac : Hmac :=
  .ofTags
    [(([115, 101, 99, 114, 101, 116], attachmentKeyLabel), testKey),
      ((testKey.toList,
        attachmentContext testSessionId ⟨0⟩ testAttachmentId testParameters),
        ⟨[216, 98, 94, 73, 157, 251, 197, 243, 97, 92, 150, 207, 155, 133,
          19, 13, 226, 136, 225, 181, 116, 203, 14, 31, 40, 63, 140, 207,
          232, 245, 91, 156], rfl⟩),
      ((testKey.toList,
        attachmentContext testSessionId ⟨1⟩ testAttachmentId testParameters),
        ⟨[180, 80, 155, 12, 71, 231, 149, 57, 240, 90, 83, 24, 13, 247, 201,
          88, 153, 73, 66, 134, 38, 125, 184, 129, 46, 181, 100, 255, 91,
          48, 184, 27], rfl⟩),
      ((testKey.toList,
        attachmentContext testSessionId ⟨1⟩ replacementAttachmentId
          testParameters),
        ⟨[88, 11, 140, 58, 52, 116, 136, 131, 156, 62, 83, 228, 22, 109,
          156, 217, 253, 21, 0, 105, 194, 100, 109, 78, 195, 177, 122, 211,
          116, 82, 162, 131], rfl⟩)]

/-- The attachment a carrier presents with a valid proof. -/
def testAttachment (carrier : CarrierId) (epoch : Epoch)
    (attachmentId : AttachmentId) : CarrierAttachment where
  carrier
  epoch
  attachmentId
  parameters := testParameters
  proof := testAuthenticator.prove testHmac testSessionId epoch attachmentId
    testParameters

def attachCall (carrier : CarrierId) (epoch : Epoch)
    (attachmentId : AttachmentId) : Call :=
  .authenticateCarrierAttachment testAuthenticator testSessionId
    (testAttachment carrier epoch attachmentId)

theorem attachments_safe_after_transition :
    ∃ trace session,
      Run (SessionTracer.Step testHmac)
        (.new ⟨0⟩ smallLimits (by decide)) trace session ∧
      acceptedAttachments trace =
        [testAttachment ⟨4⟩ ⟨0⟩ testAttachmentId,
          testAttachment ⟨6⟩ ⟨1⟩ replacementAttachmentId] ∧
      (session.authenticateCarrierAttachment testHmac testAuthenticator
        testSessionId
        (testAttachment ⟨6⟩ ⟨1⟩ replacementAttachmentId)).1 =
          .ok .alreadyAccepted ∧
      ((acceptedAttachments trace).Pairwise fun earlier later =>
        earlier.epoch < later.epoch) := by
  have run := SessionTracer.runCalls_run testHmac
    (.new ⟨0⟩ smallLimits (by decide))
    [.bindNegotiatedParameters testParameters,
      attachCall ⟨4⟩ ⟨0⟩ testAttachmentId, .beginTransition,
      attachCall ⟨6⟩ ⟨1⟩ replacementAttachmentId] (by decide)
  have safe := attachments_safe testHmac ⟨0⟩ smallLimits (by decide) _ _ run
  have repetition := safe.2 testAuthenticator testSessionId
    (testAttachment ⟨6⟩ ⟨1⟩ replacementAttachmentId) _ _ rfl
  exact ⟨_, _, run, by decide,
    repetition.2.1.mpr ⟨⟨by decide, by decide, rfl⟩, by decide⟩, safe.1⟩

/-! ## Reuse of attachment identifiers

The session remembers the latest accepted epoch but no identifiers, so what
it accepts is decided by the state before the call alone. -/

namespace SessionTracer

/-- The checks an attachment has to pass, on the state before the call. -/
def admits (hmac : Hmac) (session : SessionTracer)
    (authenticator : AttachmentAuthenticator) (sessionId : SessionId)
    (attachment : CarrierAttachment) : Bool :=
  session.negotiated = some attachment.parameters &&
    session.transition.validate attachment.epoch = .current &&
    (authenticator.verify hmac sessionId attachment.epoch
      attachment.attachmentId attachment.parameters
      attachment.proof).isOk &&
    session.attachmentReplay.accepts attachment.epoch

/-- The attachment that a call presents and the session admits. -/
def admittedBy (hmac : Hmac) (session : SessionTracer) :
    Call → Option CarrierAttachment
  | .authenticateCarrierAttachment authenticator sessionId attachment =>
      if session.admits hmac authenticator sessionId attachment then
        some attachment
      else none
  | _ => none

theorem admits_iff {hmac : Hmac} {session : SessionTracer}
    {authenticator : AttachmentAuthenticator} {sessionId : SessionId}
    {attachment : CarrierAttachment} :
    session.admits hmac authenticator sessionId attachment = true ↔
      session.Verified hmac authenticator sessionId attachment ∧
        session.attachmentReplay.accepts attachment.epoch = true := by
  have proven : (authenticator.verify hmac sessionId attachment.epoch
      attachment.attachmentId attachment.parameters
      attachment.proof).isOk = true ↔
      attachment.proof = authenticator.prove hmac sessionId attachment.epoch
        attachment.attachmentId attachment.parameters := by
    rw [← AttachmentAuthenticator.verify_eq_ok_iff]
    cases authenticator.verify hmac sessionId attachment.epoch
        attachment.attachmentId attachment.parameters attachment.proof with
    | ok value => simp [Except.isOk, Except.toBool]
    | error failure => simp [Except.isOk, Except.toBool]
  simp only [admits, Bool.and_eq_true, decide_eq_true_eq, proven,
    TransitionState.validate_eq_current_iff]
  constructor
  · intro passed
    obtain ⟨⟨⟨bound, current⟩, tag⟩, fresh⟩ := passed
    exact ⟨⟨bound, current, tag⟩, fresh⟩
  · intro passed
    obtain ⟨verified, fresh⟩ := passed
    exact ⟨⟨⟨verified.bound, verified.current⟩, verified.proven⟩, fresh⟩

/-- The epoch of the accepted attachment has been consumed. -/
def Consumed (session : SessionTracer) : Prop :=
  ∀ identity, session.acceptedAttachment = some identity →
    session.attachmentReplay.latest = some identity.epoch

theorem Consumed.effect {session next : SessionTracer} {action : Action}
    (consumed : session.Consumed) (effect : Effect session action next) :
    next.Consumed := by
  cases effect with
  | begun =>
      intro identity accepted
      cases accepted
  | attached =>
      intro identity accepted
      cases accepted
      rfl
  | _ => exact consumed

theorem Consumed.new (epoch : Epoch) (limits : FlowLimits)
    (limitsAccepted : limits.Accepted) :
    (new epoch limits limitsAccepted).Consumed := by
  intro identity accepted
  cases accepted

theorem Live.consumed {hmac : Hmac} {session : SessionTracer}
    (live : Live hmac session) : session.Consumed :=
  live.invariant Consumed.new Consumed.effect

/-- An attachment is newly accepted exactly when the session admits it. -/
theorem accepted_iff_admits {hmac : Hmac} {session after : SessionTracer}
    {authenticator : AttachmentAuthenticator} {sessionId : SessionId}
    {attachment : CarrierAttachment}
    {outcome : Outcome Panic AttachmentError AttachmentAcceptance}
    (consumed : session.Consumed)
    (called : session.authenticateCarrierAttachment hmac authenticator
      sessionId attachment = (outcome, after)) :
    outcome = .ok .accepted ↔
      session.admits hmac authenticator sessionId attachment = true := by
  rw [admits_iff]
  rcases authenticateCarrierAttachment_cases called with
    ⟨failed, _, refused⟩ | ⟨rfl, _, _, repeated⟩ |
    ⟨rfl, verified, _, fresh, _⟩
  · constructor
    · intro accepted
      subst accepted
      exact absurd failed (by simp)
    · intro admitted
      rw [(refused admitted.1).2] at admitted
      exact absurd admitted.2 (by simp)
  · constructor
    · intro accepted
      cases accepted
    · intro admitted
      have window := consumed _ repeated
      have beyond := accepts_iff.mp admitted.2 _ window
      rw [Epoch.lt_iff] at beyond
      exact absurd beyond (Nat.lt_irrefl _)
  · exact ⟨fun _ => ⟨verified, fresh⟩, fun _ => rfl⟩

theorem Step.acceptedAttachment_eq {hmac : Hmac}
    {before after : SessionTracer} {exchange : Exchange}
    (consumed : before.Consumed) (step : Step hmac before exchange after) :
    exchange.acceptedAttachment = before.admittedBy hmac exchange.call := by
  obtain ⟨call, outcome⟩ := exchange
  cases call with
  | authenticateCarrierAttachment authenticator sessionId attachment =>
      obtain ⟨typed, result, rfl⟩ := tag_eq_iff.mp step.1
      have decided := accepted_iff_admits consumed result
      simp only [admittedBy, ← decided]
      cases typed with
      | ok acceptance =>
          cases acceptance with
          | accepted => rfl
          | alreadyAccepted => rfl
      | err failure => rfl
      | panic cause => rfl
  | _ => rfl

/-- The attachments of a run that the session admitted, each judged on the
state before its call. -/
def admittedAttachments (hmac : Hmac) (initial : SessionTracer)
    (trace : List Exchange) : List CarrierAttachment :=
  (trace.foldl
    (fun (session, admitted) exchange =>
      ((session.perform hmac exchange.call).2,
        admitted ++ (session.admittedBy hmac exchange.call).toList))
    (initial, [])).2

theorem run_admittedAttachments {hmac : Hmac}
    {initial session : SessionTracer} {trace : List Exchange}
    (consumed : initial.Consumed)
    (run : Run (Step hmac) initial trace session) :
    acceptedAttachments trace = admittedAttachments hmac initial trace := by
  have folded : session.Consumed ∧ trace.foldl
      (fun (session, admitted) exchange =>
        ((session.perform hmac exchange.call).2,
          admitted ++ (session.admittedBy hmac exchange.call).toList))
      (initial, []) = (session, acceptedAttachments trace) := by
    induction run with
    | nil => exact ⟨consumed, rfl⟩
    | snoc _ step induction =>
        obtain ⟨held, folded⟩ := induction
        refine ⟨step.invariant Consumed.effect held, ?_⟩
        rw [List.foldl_append, folded, acceptedAttachments_append]
        simp only [List.foldl_cons, List.foldl_nil, step.1,
          ← step.acceptedAttachment_eq held]
        congr 2
  rw [admittedAttachments, folded.2]

end SessionTracer

/-- An identifier accepted in one epoch is not accepted in a later one. -/
def IdentifiersFresh (trace : List Exchange) : Prop :=
  (acceptedAttachments trace).Pairwise fun earlier later =>
    earlier.epoch < later.epoch → earlier.attachmentId ≠ later.attachmentId

instance (trace : List Exchange) : Decidable (IdentifiersFresh trace) :=
  inferInstanceAs (Decidable (List.Pairwise _ _))

/-- A run keeps identifiers fresh exactly when no two attachments that pass
the checks on the state before their call carry the same identifier. -/
theorem identifiers_fresh_iff (hmac : Hmac) (epoch : Epoch)
    (limits : FlowLimits) (limitsAccepted : limits.Accepted)
    (trace : List Exchange) (session : SessionTracer)
    (run : Run (SessionTracer.Step hmac) (.new epoch limits limitsAccepted)
      trace session) :
    IdentifiersFresh trace ↔
      (SessionTracer.admittedAttachments hmac
        (.new epoch limits limitsAccepted) trace).Pairwise
          fun earlier later =>
            earlier.attachmentId ≠ later.attachmentId := by
  have history := run_attachmentHistory run
  rw [← SessionTracer.run_admittedAttachments (.new _ _ _) run]
  constructor
  · intro fresh
    refine (fresh.and history.increasing).imp ?_
    intro earlier later both
    exact both.1 both.2
  · intro distinct
    refine distinct.imp ?_
    intro earlier later different _
    exact different

theorem identifiers_fresh_after_transition :
    ∃ trace session,
      Run (SessionTracer.Step testHmac)
        (.new ⟨0⟩ smallLimits (by decide)) trace session ∧
      (acceptedAttachments trace).length = 2 ∧ IdentifiersFresh trace := by
  have run := SessionTracer.runCalls_run testHmac
    (.new ⟨0⟩ smallLimits (by decide))
    [.bindNegotiatedParameters testParameters,
      attachCall ⟨4⟩ ⟨0⟩ testAttachmentId, .beginTransition,
      attachCall ⟨6⟩ ⟨1⟩ replacementAttachmentId] (by decide)
  have exact := identifiers_fresh_iff testHmac ⟨0⟩ smallLimits (by decide)
    _ _ run
  exact ⟨_, _, run, by decide, exact.mpr (by decide)⟩

/-- The identifier accepted in epoch 0 is accepted again in epoch 1. -/
theorem identifier_reused_in_next_epoch :
    ∃ trace session,
      Run (SessionTracer.Step testHmac)
        (.new ⟨0⟩ smallLimits (by decide)) trace session ∧
      acceptedAttachments trace =
        [testAttachment ⟨4⟩ ⟨0⟩ testAttachmentId,
          testAttachment ⟨6⟩ ⟨1⟩ testAttachmentId] ∧
      ¬IdentifiersFresh trace := by
  have run := SessionTracer.runCalls_run testHmac
    (.new ⟨0⟩ smallLimits (by decide))
    [.bindNegotiatedParameters testParameters,
      attachCall ⟨4⟩ ⟨0⟩ testAttachmentId, .beginTransition,
      attachCall ⟨6⟩ ⟨1⟩ testAttachmentId] (by decide)
  exact ⟨_, _, run, by decide, by decide⟩

end Velum.Session
