import Velum.Client.Reconnect

/-!
# The bound on automatic starts

The attempt number of the status counts the automatic starts that were made
since the last explicit start or adopted online snapshot, together with the
one that is on its way.  The epoch keeps a second one from being on its way.
-/

namespace Velum.Client

open Foundation
open Velum.Runtime

/-- The automatic starts since the last mark of another kind. -/
def spent : List StartMark → Nat
  | .automaticStart :: earlier => spent earlier + 1
  | _ => 0

theorem le_spent {count : Nat} {log : List StartMark}
    (newest : List.replicate count .automaticStart <+: log) :
    count ≤ spent log := by
  induction count generalizing log with
  | zero => exact Nat.zero_le _
  | succ count induction =>
      cases log with
      | nil => simp [List.replicate_succ] at newest
      | cons mark earlier =>
          rw [List.replicate_succ, List.cons_prefix_cons] at newest
          obtain ⟨rfl, rest⟩ := newest
          exact Nat.succ_le_succ (induction rest)

namespace ClientController

variable {maxReconnectAttempts : Int} {controller after : ClientController}

theorem Bounded.of_log (bounded : Bounded maxReconnectAttempts controller)
    (same : after.log = controller.log) :
    Bounded maxReconnectAttempts after := by
  unfold Bounded
  rw [same]
  exact bounded

theorem Bounded.cons (bounded : Bounded maxReconnectAttempts controller)
    {mark : StartMark}
    (within : spent (mark :: controller.log) ≤ maxReconnectAttempts.toNat)
    (grown : after.log = mark :: controller.log) :
    Bounded maxReconnectAttempts after := by
  intro count inside
  rw [grown] at inside
  rcases List.infix_cons_iff.mp inside with newest | earlier
  · exact Nat.le_trans (le_spent newest) within
  · exact bounded count earlier

/-- The automatic starts that are on their way: the timer, and the retries of
the current epoch that wait for their configuration. -/
def underway (controller : ClientController) : Nat :=
  (if controller.reconnectTimer.isSome then 1 else 0) +
    controller.resolving.count controller.reconnectEpoch

theorem underway_eq_zero : controller.underway = 0 ↔ controller.Settled := by
  unfold underway Settled
  rw [Nat.add_eq_zero_iff, List.count_eq_zero]
  cases controller.reconnectTimer with
  | none => simp
  | some epoch => simp

structure Paced (maxReconnectAttempts : Int)
    (controller : ClientController) : Prop where
  bounded : Bounded maxReconnectAttempts controller
  limit : controller.reconnectStatus.attempt ≤ maxReconnectAttempts.toNat
  counted : controller.configured = true →
    spent controller.log + controller.underway ≤
      controller.reconnectStatus.attempt
  idle : controller.configured = false → controller.underway = 0
  single : controller.underway ≤ 1
  timer : ∀ epoch, controller.reconnectTimer = some epoch →
    epoch = controller.reconnectEpoch
  past : ∀ epoch ∈ controller.resolving, epoch ≤ controller.reconnectEpoch
  reset : controller.snapshot.phase = .online → spent controller.log = 0

theorem paced_created (maxReconnectAttempts : Int) :
    Paced maxReconnectAttempts {} := by
  constructor
  · intro count inside
    have none : List.replicate count StartMark.automaticStart = [] :=
      List.eq_nil_of_infix_nil inside
    simp at none
    omega
  · exact Nat.zero_le _
  · intro configured
    cases configured
  · intro _
    rfl
  · exact Nat.zero_le _
  · intro epoch running
    cases running
  · intro epoch member
    cases member
  · intro _
    rfl

/-- Neither the runtime nor the counters of the snapshot matter. -/
theorem Paced.congr (paced : Paced maxReconnectAttempts controller)
    (log : after.log = controller.log)
    (status : after.reconnectStatus = controller.reconnectStatus)
    (configured : after.configured = controller.configured)
    (epoch : after.reconnectEpoch = controller.reconnectEpoch)
    (timer : after.reconnectTimer = controller.reconnectTimer)
    (resolving : after.resolving = controller.resolving)
    (online : after.snapshot.phase = .online →
      controller.snapshot.phase = .online) :
    Paced maxReconnectAttempts after := by
  have same : after.underway = controller.underway := by
    unfold underway
    rw [timer, resolving, epoch]
  constructor
  · exact paced.bounded.of_log log
  · rw [status]
    exact paced.limit
  · rw [configured, log, same, status]
    exact paced.counted
  · rw [configured, same]
    exact paced.idle
  · rw [same]
    exact paced.single
  · rw [timer, epoch]
    exact paced.timer
  · rw [resolving, epoch]
    exact paced.past
  · intro shown
    rw [log]
    exact paced.reset (online shown)

theorem Paced.fresh (paced : Paced maxReconnectAttempts controller) :
    controller.reconnectEpoch + 1 ∉ controller.resolving := by
  intro member
  have past := paced.past _ member
  omega

/-! ## What follows an adopted snapshot -/

/-- A failure is counted before the timer is set. -/
theorem Paced.syncReconnect (paced : Paced maxReconnectAttempts controller)
    {next : RuntimeSnapshot} (offline : next.phase ≠ .online) :
    Paced maxReconnectAttempts
      (controller.syncReconnect maxReconnectAttempts next) := by
  unfold ClientController.syncReconnect
  rw [if_neg offline]
  split
  · exact paced
  · split
    · exact paced
    · rename_i idle
      simp only [not_or, Bool.not_eq_false, Bool.not_eq_true,
        Option.isSome_eq_false_iff, Option.isNone_iff_eq_none] at idle
      have counted := paced.counted idle.1
      dsimp only
      split
      · exact ⟨paced.bounded, paced.limit, paced.counted, paced.idle,
          paced.single, paced.timer, paced.past, paced.reset⟩
      · rename_i within
        have alone : ∀ status,
            ({ controller with
              reconnectStatus := status
              reconnectEpoch := controller.reconnectEpoch + 1
              reconnectTimer := some (controller.reconnectEpoch + 1) } :
                ClientController).underway = 1 := by
          intro status
          unfold underway
          simp [List.count_eq_zero.mpr paced.fresh]
        constructor
        · exact paced.bounded
        · dsimp only
          omega
        · intro _
          rw [alone]
          dsimp only
          omega
        · intro unset
          rw [idle.1] at unset
          cases unset
        · rw [alone]
        · intro epoch running
          cases running
          rfl
        · intro epoch member
          have past := paced.past epoch member
          exact Nat.le_succ_of_le past
        · exact paced.reset

/-- An online snapshot that comes while nothing is on its way. -/
theorem Paced.online (paced : Paced maxReconnectAttempts controller)
    (settled : controller.Settled) (next : RuntimeSnapshot) :
    Paced maxReconnectAttempts
      { controller with
        acceptedRevision := some next.revision
        snapshot := next
        reconnectStatus := {}
        log := .adoptedOnline :: controller.log } := by
  have none := underway_eq_zero.mpr settled
  constructor
  · exact paced.bounded.cons (Nat.zero_le _) rfl
  · exact Nat.zero_le _
  · intro _
    change 0 + controller.underway ≤ 0
    rw [none]
  · exact paced.idle
  · exact paced.single
  · exact paced.timer
  · exact paced.past
  · intro _
    rfl

theorem Paced.refresh (paced : Paced maxReconnectAttempts controller)
    {reading : Option RuntimeSnapshot}
    (tame : ∀ next, reading = some next → controller.adopts next = true →
      next.phase = .online → controller.Settled) :
    Paced maxReconnectAttempts
      (controller.refresh maxReconnectAttempts reading).2 := by
  unfold ClientController.refresh
  split
  · exact paced
  · split
    · exact paced
    · cases reading with
      | none => exact paced
      | some next =>
          dsimp only
          split
          · rename_i adopted
            by_cases online : next.phase = .online
            · have settled := tame next rfl adopted online
              unfold ClientController.syncReconnect
              rw [if_pos online, if_pos online]
              exact paced.online settled next
            · rw [if_neg online]
              apply Paced.syncReconnect _ online
              refine paced.congr rfl rfl rfl rfl rfl rfl ?_
              intro shown
              exact absurd shown online
          · exact paced

theorem Paced.refresh_settled (paced : Paced maxReconnectAttempts controller)
    (settled : controller.Settled) (reading : Option RuntimeSnapshot) :
    Paced maxReconnectAttempts
      (controller.refresh maxReconnectAttempts reading).2 := by
  apply paced.refresh
  intro next _ _ _
  exact settled

/-! ## Starts -/

/-- Opening a library and raising the generation leave the retries alone. -/
theorem runtimeFor_kept (controller : ClientController)
    (answers : StartAnswers) :
    let after := (controller.runtimeFor answers).2
    after.log = controller.log ∧
      after.reconnectStatus = controller.reconnectStatus ∧
      after.configured = controller.configured ∧
      after.reconnectEpoch = controller.reconnectEpoch ∧
      after.reconnectTimer = controller.reconnectTimer ∧
      after.resolving = controller.resolving ∧
      (after.snapshot.phase = .online →
        controller.snapshot.phase = .online) := by
  unfold runtimeFor
  split
  · simp
  · split
    · simp
    · split
      · simp
      · simp

theorem Paced.startRuntime (paced : Paced maxReconnectAttempts controller)
    (settled : controller.Settled) (answers : StartAnswers) :
    Paced maxReconnectAttempts
      (controller.startRuntime maxReconnectAttempts answers).2 := by
  have kept := controller.runtimeFor_kept answers
  unfold ClientController.startRuntime
  generalize opened : controller.runtimeFor answers = result at kept ⊢
  obtain ⟨returned, prepared⟩ := result
  obtain ⟨log, status, configured, epoch, timer, resolving, online⟩ := kept
  have ready : Paced maxReconnectAttempts prepared :=
    paced.congr log status configured epoch timer resolving online
  cases returned with
  | false => exact ready
  | true =>
      dsimp only
      split
      · exact ready
      · rename_i generation _
        have raised : Paced maxReconnectAttempts
            (prepared.raiseGeneration generation) :=
          ready.congr rfl rfl rfl rfl rfl rfl id
        apply raised.refresh_settled
        unfold Settled raiseGeneration
        rw [timer, epoch, resolving]
        exact settled

theorem refresh_thrown {reading : Option RuntimeSnapshot}
    (thrown : controller.refresh maxReconnectAttempts reading =
      (false, after)) : after = controller := by
  unfold ClientController.refresh at thrown
  split at thrown
  · cases thrown
    rfl
  · split at thrown
    · cases thrown
    · cases reading with
      | none =>
          cases thrown
          rfl
      | some next =>
          dsimp only at thrown
          split at thrown
          · cases thrown
          · cases thrown

/-- A start that throws sets no timer. -/
theorem settled_of_thrown {answers : StartAnswers}
    (settled : controller.Settled)
    (thrown : controller.startRuntime maxReconnectAttempts answers =
      (false, after)) : after.Settled := by
  have kept := controller.runtimeFor_kept answers
  unfold ClientController.startRuntime at thrown
  generalize opened : controller.runtimeFor answers = result at kept thrown
  obtain ⟨returned, prepared⟩ := result
  obtain ⟨_, _, _, epoch, timer, resolving, _⟩ := kept
  have ready : prepared.Settled := by
    unfold Settled
    rw [timer, epoch, resolving]
    exact settled
  cases returned with
  | false =>
      cases thrown
      exact ready
  | true =>
      dsimp only at thrown
      split at thrown
      · cases thrown
        exact ready
      · rw [refresh_thrown thrown]
        exact ready

/-- A cancelled retry is one of an earlier epoch. -/
theorem Paced.cancelled (paced : Paced maxReconnectAttempts controller)
    (epoch : after.reconnectEpoch = controller.reconnectEpoch + 1)
    (timer : after.reconnectTimer = none)
    (resolving : after.resolving = controller.resolving)
    (status : after.reconnectStatus = {})
    (bounded : Bounded maxReconnectAttempts after)
    (counted : after.configured = true → spent after.log = 0)
    (reset : after.snapshot.phase = .online → spent after.log = 0) :
    Paced maxReconnectAttempts after ∧ after.Settled := by
  have settled : after.Settled := by
    unfold Settled
    rw [epoch, resolving]
    exact ⟨timer, paced.fresh⟩
  have none := underway_eq_zero.mpr settled
  refine ⟨?_, settled⟩
  constructor
  · exact bounded
  · rw [status]
    exact Nat.zero_le _
  · intro configured
    rw [none, counted configured]
    exact Nat.zero_le _
  · intro _
    exact none
  · rw [none]
    exact Nat.zero_le _
  · intro other running
    rw [timer] at running
    cases running
  · intro other member
    rw [resolving] at member
    rw [epoch]
    exact Nat.le_succ_of_le (paced.past other member)
  · exact reset

theorem Paced.start (paced : Paced maxReconnectAttempts controller)
    (configured : Bool) (answers : StartAnswers) :
    Paced maxReconnectAttempts
      (controller.start maxReconnectAttempts configured answers) := by
  unfold ClientController.start
  have cancelled : Paced maxReconnectAttempts
        { controller.cancelReconnect with
          configured
          log := .explicitStart :: controller.log } ∧
      Settled { controller.cancelReconnect with
        configured
        log := .explicitStart :: controller.log } := by
    refine paced.cancelled rfl rfl rfl rfl ?_ ?_ ?_
    · exact paced.bounded.cons (Nat.zero_le _) rfl
    · intro _
      rfl
    · intro _
      rfl
  exact cancelled.1.startRuntime cancelled.2 answers

theorem Paced.stop (paced : Paced maxReconnectAttempts controller)
    (generation : Option UInt64) (reading : Option RuntimeSnapshot) :
    Paced maxReconnectAttempts
      (controller.stop maxReconnectAttempts generation reading) := by
  have cancelled : Paced maxReconnectAttempts
        { controller.cancelReconnect with configured := false } ∧
      Settled { controller.cancelReconnect with configured := false } := by
    refine paced.cancelled rfl rfl rfl rfl ?_ ?_ ?_
    · exact paced.bounded
    · intro configured
      cases configured
    · exact paced.reset
  unfold ClientController.stop
  dsimp only
  split
  · exact cancelled.1
  · cases generation with
    | none => exact cancelled.1
    | some generation =>
        apply Paced.refresh_settled
        · exact cancelled.1.congr rfl rfl rfl rfl rfl rfl id
        · exact cancelled.2

theorem Paced.dispose (paced : Paced maxReconnectAttempts controller) :
    Paced maxReconnectAttempts controller.dispose := by
  have cancelled : Paced maxReconnectAttempts controller.dispose ∧
      controller.dispose.Settled := by
    refine paced.cancelled rfl rfl rfl rfl ?_ ?_ ?_
    · exact paced.bounded
    · intro configured
      cases configured
    · exact paced.reset
  exact cancelled.1

/-! ## Retries -/

/-- Less is on its way. -/
theorem Paced.less (paced : Paced maxReconnectAttempts controller)
    {timer : Option Nat} {resolving : List Nat}
    (earlier : ∀ epoch, timer = some epoch →
      controller.reconnectTimer = some epoch)
    (fewer : resolving.Sublist controller.resolving) :
    Paced maxReconnectAttempts
      { controller with reconnectTimer := timer, resolving } := by
  have decreased : underway
        { controller with reconnectTimer := timer, resolving } ≤
      controller.underway := by
    unfold underway
    have counts := fewer.count_le controller.reconnectEpoch
    cases timer with
    | none => exact Nat.add_le_add (Nat.zero_le _) counts
    | some epoch =>
        rw [earlier epoch rfl]
        exact Nat.add_le_add (Nat.le_refl _) counts
  constructor
  · exact paced.bounded
  · exact paced.limit
  · intro configured
    have counted := paced.counted configured
    dsimp only
    omega
  · intro unset
    have none := paced.idle unset
    omega
  · have single := paced.single
    omega
  · intro epoch running
    exact paced.timer epoch (earlier epoch running)
  · intro epoch member
    exact paced.past epoch (fewer.subset member)
  · exact paced.reset

/-- The timer becomes a retry that waits for its configuration. -/
theorem Paced.retry (paced : Paced maxReconnectAttempts controller)
    {epoch : Nat} (running : controller.reconnectTimer = some epoch) :
    Paced maxReconnectAttempts
      ({ controller with reconnectTimer := none }.retry maxReconnectAttempts
        epoch) := by
  have stopped : Paced maxReconnectAttempts
      { controller with reconnectTimer := none } := by
    apply paced.less _ (List.Sublist.refl _)
    intro other later
    cases later
  have current := paced.timer epoch running
  subst current
  unfold ClientController.retry
  split
  · exact stopped
  · split
    · exact stopped
    · have same : ∀ status, underway
            { controller with
              reconnectTimer := none
              reconnectStatus := status
              resolving :=
                controller.reconnectEpoch :: controller.resolving } =
          controller.underway := by
        intro status
        unfold underway
        rw [running, List.count_cons_self]
        simp
        omega
      constructor
      · exact paced.bounded
      · exact paced.limit
      · rw [same]
        exact paced.counted
      · rw [same]
        exact paced.idle
      · rw [same]
        exact paced.single
      · intro other later
        cases later
      · intro other member
        rcases List.mem_cons.mp member with rfl | earlier
        · exact Nat.le_refl _
        · exact paced.past other earlier
      · exact paced.reset

theorem Paced.erase (paced : Paced maxReconnectAttempts controller)
    (epoch : Nat) :
    Paced maxReconnectAttempts
      { controller with resolving := controller.resolving.erase epoch } :=
  paced.less (fun _ same => same) List.erase_sublist

/-- A retry that ends was the only one on its way. -/
theorem Paced.settled_erase (paced : Paced maxReconnectAttempts controller)
    (member : controller.reconnectEpoch ∈ controller.resolving) :
    Settled { controller with
        resolving := controller.resolving.erase controller.reconnectEpoch } ∧
      controller.underway = 1 := by
  have counted := List.count_pos_iff.mpr member
  have single := paced.single
  have one : controller.underway = 1 := by
    unfold underway at single ⊢
    omega
  refine ⟨?_, one⟩
  rw [← underway_eq_zero]
  unfold underway at one ⊢
  dsimp only
  rw [List.count_erase_self]
  omega

theorem Paced.retryFailed (paced : Paced maxReconnectAttempts controller)
    {epoch : Nat} (settled : epoch = controller.reconnectEpoch →
      controller.Settled) :
    Paced maxReconnectAttempts
      (controller.retryFailed maxReconnectAttempts epoch) := by
  unfold ClientController.retryFailed
  split
  · rename_i current
    by_cases online : controller.snapshot.phase = .online
    · have none := underway_eq_zero.mpr (settled current.2)
      unfold ClientController.syncReconnect
      rw [if_pos online]
      constructor
      · exact paced.bounded
      · exact Nat.zero_le _
      · intro _
        change spent controller.log + controller.underway ≤ 0
        rw [none, paced.reset online]
      · exact paced.idle
      · exact paced.single
      · exact paced.timer
      · exact paced.past
      · exact paced.reset
    · exact paced.syncReconnect online
  · exact paced

theorem Paced.retryResolved (paced : Paced maxReconnectAttempts controller)
    {epoch : Nat} (member : epoch ∈ controller.resolving)
    (answers : StartAnswers) :
    Paced maxReconnectAttempts
      ({ controller with
        resolving := controller.resolving.erase epoch }.retryResolved
          maxReconnectAttempts epoch answers) := by
  have erased := paced.erase epoch
  unfold ClientController.retryResolved
  split
  · exact erased
  · rename_i live
    simp only [not_or, ne_eq, not_not, Bool.not_eq_true,
      Bool.not_eq_false] at live
    obtain ⟨_, current, failed, configured⟩ := live
    subst current
    obtain ⟨settled, one⟩ := paced.settled_erase member
    have none := underway_eq_zero.mpr settled
    have counted := paced.counted configured
    have limit := paced.limit
    have begun : Paced maxReconnectAttempts
        { controller with
          resolving := controller.resolving.erase controller.reconnectEpoch
          log := .automaticStart :: controller.log } := by
      constructor
      · apply paced.bounded.cons _ rfl
        change spent controller.log + 1 ≤ maxReconnectAttempts.toNat
        omega
      · exact limit
      · intro _
        change spent controller.log + 1 + underway { controller with
          resolving := controller.resolving.erase
            controller.reconnectEpoch } ≤ controller.reconnectStatus.attempt
        omega
      · intro _
        exact none
      · exact erased.single
      · exact erased.timer
      · exact erased.past
      · intro online
        rw [failed] at online
        cases online
    have started := begun.startRuntime settled answers
    split
    · rename_i result
      rw [result] at started
      exact started
    · rename_i result
      rw [result] at started
      apply started.retryFailed
      intro _
      refine settled_of_thrown ?_ result
      exact settled

theorem paced_of_step {event : ControllerEvent}
    (paced : Paced maxReconnectAttempts controller)
    (step : TameStep maxReconnectAttempts controller event after) :
    Paced maxReconnectAttempts after := by
  obtain ⟨made, tame⟩ := step
  cases event with
  | start configured answers =>
      obtain ⟨_, made⟩ := Option.ite_none_left_eq_some.mp made
      cases made
      exact paced.start configured answers
  | stop generation reading =>
      obtain ⟨_, made⟩ := Option.ite_none_left_eq_some.mp made
      cases made
      exact paced.stop generation reading
  | dispose =>
      cases made
      split
      · exact paced
      · exact paced.dispose
  | refresh reading =>
      cases made
      apply paced.refresh
      rintro next rfl
      exact tame
  | timerFired =>
      obtain ⟨epoch, running, rfl⟩ := Option.map_eq_some_iff.mp made
      exact paced.retry running
  | configurationResolved epoch answers =>
      obtain ⟨member, made⟩ := Option.ite_none_right_eq_some.mp made
      cases made
      exact paced.retryResolved member answers
  | configurationFailed epoch =>
      obtain ⟨member, made⟩ := Option.ite_none_right_eq_some.mp made
      cases made
      apply (paced.erase epoch).retryFailed
      intro current
      have same : epoch = controller.reconnectEpoch := current
      subst same
      exact (paced.settled_erase member).1

/-! ## After a stop -/

/-- Without a configuration there are no retries. -/
def Quiet (starts : Nat) (controller : ClientController) : Prop :=
  controller.configured = false ∧
    controller.log.count .automaticStart = starts

variable {starts : Nat}

theorem Quiet.syncReconnect (quiet : Quiet starts controller)
    (next : RuntimeSnapshot) :
    Quiet starts (controller.syncReconnect maxReconnectAttempts next) := by
  unfold ClientController.syncReconnect
  split
  · exact quiet
  · split
    · exact quiet
    · rw [if_pos (.inl quiet.1)]
      exact quiet

theorem Quiet.refresh (quiet : Quiet starts controller)
    (reading : Option RuntimeSnapshot) :
    Quiet starts (controller.refresh maxReconnectAttempts reading).2 := by
  unfold ClientController.refresh
  split
  · exact quiet
  · split
    · exact quiet
    · cases reading with
      | none => exact quiet
      | some next =>
          dsimp only
          split
          · apply Quiet.syncReconnect
            refine ⟨quiet.1, ?_⟩
            dsimp only
            split
            · rw [List.count_cons_of_ne (by decide)]
              exact quiet.2
            · exact quiet.2
          · exact quiet

theorem Quiet.retryFailed (quiet : Quiet starts controller) (epoch : Nat) :
    Quiet starts (controller.retryFailed maxReconnectAttempts epoch) := by
  unfold ClientController.retryFailed
  split
  · exact quiet.syncReconnect _
  · exact quiet

theorem quiet_stop (generation : Option UInt64)
    (reading : Option RuntimeSnapshot) :
    Quiet (controller.log.count .automaticStart)
      (controller.stop maxReconnectAttempts generation reading) := by
  have quiet : Quiet (controller.log.count .automaticStart)
      { controller.cancelReconnect with configured := false } := ⟨rfl, rfl⟩
  unfold ClientController.stop
  dsimp only
  split
  · exact quiet
  · cases generation with
    | none => exact quiet
    | some generation =>
        apply Quiet.refresh
        exact quiet

theorem quiet_of_step {event : ControllerEvent}
    (quiet : Quiet starts controller) (other : event.isStart = false)
    (made : controller.step maxReconnectAttempts event = some after) :
    Quiet starts after := by
  cases event with
  | start configured answers => cases other
  | stop generation reading =>
      obtain ⟨_, made⟩ := Option.ite_none_left_eq_some.mp made
      cases made
      rw [← quiet.2]
      exact quiet_stop generation reading
  | dispose =>
      cases made
      split
      · exact quiet
      · exact ⟨rfl, quiet.2⟩
  | refresh reading =>
      cases made
      exact quiet.refresh reading
  | timerFired =>
      obtain ⟨epoch, _, rfl⟩ := Option.map_eq_some_iff.mp made
      unfold ClientController.retry
      split
      · exact quiet
      · rw [if_pos (.inl quiet.1)]
        exact quiet
  | configurationResolved epoch answers =>
      obtain ⟨_, made⟩ := Option.ite_none_right_eq_some.mp made
      cases made
      unfold ClientController.retryResolved
      rw [if_pos (.inr (.inr (.inr quiet.1)))]
      exact quiet
  | configurationFailed epoch =>
      obtain ⟨_, made⟩ := Option.ite_none_right_eq_some.mp made
      cases made
      apply Quiet.retryFailed
      exact quiet

/-! ### A disposed controller has no configuration -/

theorem disposed_syncReconnect (next : RuntimeSnapshot) :
    (controller.syncReconnect maxReconnectAttempts next).disposed =
      controller.disposed := by
  unfold ClientController.syncReconnect
  split
  · rfl
  · split
    · rfl
    · split
      · rfl
      · dsimp only
        split
        · rfl
        · rfl

theorem disposed_refresh (reading : Option RuntimeSnapshot) :
    (controller.refresh maxReconnectAttempts reading).2.disposed =
      controller.disposed := by
  unfold ClientController.refresh
  split
  · rfl
  · split
    · rfl
    · cases reading with
      | none => rfl
      | some next =>
          dsimp only
          split
          · rw [disposed_syncReconnect]
          · rfl

theorem disposed_startRuntime (answers : StartAnswers) :
    (controller.startRuntime maxReconnectAttempts answers).2.disposed =
      controller.disposed := by
  have opened : (controller.runtimeFor answers).2.disposed =
      controller.disposed := by
    unfold runtimeFor
    split
    · rfl
    · split
      · rfl
      · split
        · rfl
        · rfl
  unfold ClientController.startRuntime
  generalize controller.runtimeFor answers = result at opened ⊢
  obtain ⟨returned, prepared⟩ := result
  cases returned with
  | false => exact opened
  | true =>
      dsimp only
      split
      · exact opened
      · rw [disposed_refresh]
        exact opened

theorem disposed_retryFailed (epoch : Nat) :
    (controller.retryFailed maxReconnectAttempts epoch).disposed =
      controller.disposed := by
  unfold ClientController.retryFailed
  split
  · exact disposed_syncReconnect _
  · rfl

theorem disposed_retryResolved (epoch : Nat) (answers : StartAnswers) :
    (controller.retryResolved maxReconnectAttempts epoch answers).disposed =
      controller.disposed := by
  unfold ClientController.retryResolved
  split
  · rfl
  · have started : (startRuntime maxReconnectAttempts
        { controller with log := .automaticStart :: controller.log }
        answers).2.disposed = controller.disposed :=
      disposed_startRuntime answers
    split
    · rename_i result
      rw [result] at started
      exact started
    · rename_i result
      rw [result] at started
      rw [disposed_retryFailed]
      exact started

theorem disposed_of_step {event : ControllerEvent}
    (made : Step maxReconnectAttempts controller event after)
    (other : event ≠ .dispose) : after.disposed = controller.disposed := by
  cases event with
  | start configured answers =>
      obtain ⟨_, made⟩ := Option.ite_none_left_eq_some.mp made
      cases made
      exact disposed_startRuntime answers
  | stop generation reading =>
      obtain ⟨_, made⟩ := Option.ite_none_left_eq_some.mp made
      cases made
      unfold ClientController.stop
      dsimp only
      split
      · rfl
      · cases generation with
        | none => rfl
        | some generation => exact disposed_refresh reading
  | dispose => exact absurd rfl other
  | refresh reading =>
      cases made
      exact disposed_refresh reading
  | timerFired =>
      obtain ⟨epoch, _, rfl⟩ := Option.map_eq_some_iff.mp made
      unfold ClientController.retry
      split
      · rfl
      · split
        · rfl
        · rfl
  | configurationResolved epoch answers =>
      obtain ⟨_, made⟩ := Option.ite_none_right_eq_some.mp made
      cases made
      exact disposed_retryResolved epoch answers
  | configurationFailed epoch =>
      obtain ⟨_, made⟩ := Option.ite_none_right_eq_some.mp made
      cases made
      exact disposed_retryFailed epoch

def Released (controller : ClientController) : Prop :=
  controller.disposed = true → controller.configured = false

theorem released_of_step {event : ControllerEvent}
    (released : Released controller)
    (made : Step maxReconnectAttempts controller event after) :
    Released after := by
  intro gone
  by_cases disposal : event = .dispose
  · subst disposal
    cases made
    split
    · rename_i already
      exact released already
    · rfl
  · rw [disposed_of_step made disposal] at gone
    have other : event.isStart = false := by
      cases event with
      | start configured answers =>
          obtain ⟨live, _⟩ := Option.ite_none_left_eq_some.mp made
          exact absurd gone live
      | _ => rfl
    have quiet : Quiet _ controller := ⟨released gone, rfl⟩
    exact (quiet_of_step quiet other made).1

theorem unconfigured_of_ends {event : ControllerEvent}
    (released : Released controller)
    (made : Step maxReconnectAttempts controller event after)
    (ends : event.ends = true) : after.configured = false := by
  cases event with
  | stop generation reading =>
      obtain ⟨_, made⟩ := Option.ite_none_left_eq_some.mp made
      cases made
      exact (quiet_stop generation reading).1
  | dispose =>
      cases made
      split
      · rename_i already
        exact released already
      · rfl
  | start _ _ => cases ends
  | refresh _ => cases ends
  | timerFired => cases ends
  | configurationResolved _ _ => cases ends
  | configurationFailed _ => cases ends

/-- What the client promises: in a history whose online snapshots are adopted
while nothing is on its way the automatic starts are bounded, and after a stop
or a disposal there are none until the next explicit start. -/
theorem reconnects_bounded (maxReconnectAttempts : Int) :
    (∀ history controller,
      Run (TameStep maxReconnectAttempts) {} history controller →
        Bounded maxReconnectAttempts controller) ∧
    ∀ history event later (before ended final : ClientController),
      Run (Step maxReconnectAttempts) {} history before →
      Step maxReconnectAttempts before event ended → event.ends = true →
      Run (Step maxReconnectAttempts) ended later final →
      (∀ other ∈ later, other.isStart = false) →
        final.log.count .automaticStart =
          ended.log.count .automaticStart := by
  constructor
  · intro history controller run
    have paced : Paced maxReconnectAttempts controller := by
      apply run.invariant (paced_created maxReconnectAttempts)
      intro state label next held move
      exact paced_of_step held move
    exact paced.bounded
  · intro history event later before ended final earlier made ends run others
    have released : Released before := by
      apply earlier.invariant
      · intro gone
        cases gone
      · intro state label next held move
        exact released_of_step held move
    have quiet : Quiet (ended.log.count .automaticStart) ended :=
      ⟨unconfigured_of_ends released made ends, rfl⟩
    have silent : Quiet (ended.log.count .automaticStart) final := by
      apply run.invariant_on quiet _ others
      intro state label next held other move
      exact quiet_of_step held other move
    exact silent.2

/-! ## A count that is reset too early -/

def answered (generation : UInt64) (reading : Option RuntimeSnapshot) :
    StartAnswers :=
  { path := "velum", opened := true, generation := some generation, reading }

/-- The second attempt waits for its configuration. -/
def calmHistory : List ControllerEvent :=
  [.start true (answered 1 (some ⟨1, 1, .connecting, none⟩)),
    .refresh (some ⟨2, 1, .failed, some .connection⟩), .timerFired,
    .configurationResolved 2
      (answered 2 (some ⟨4, 2, .failed, some .connection⟩)), .timerFired]

/-- A stop, after which the configuration of the second attempt comes. -/
theorem reconnects_bounded_calm : ∃ controller ended final,
    (Run (TameStep 2) {} calmHistory controller ∧
      controller.log.count .automaticStart = 1 ∧ Bounded 2 controller) ∧
    Step 2 controller (.stop (some 3) none) ended ∧
    Run (Step 2) ended [.configurationResolved 3 (answered 3 none)] final ∧
    final.log.count .automaticStart = 1 := by
  obtain ⟨controller, tame, shown⟩ : ∃ controller,
      Run (TameStep 2) {} calmHistory controller ∧
        ∃ ended final,
          (controller.log.count .automaticStart = 1 ∧
            ended.log.count .automaticStart = 1) ∧
          Step 2 controller (.stop (some 3) none) ended ∧
          Run (Step 2) ended
            [.configurationResolved 3 (answered 3 none)] final := by
    refine Run.exists_cons ⟨rfl, trivial⟩ ?_
    refine Run.exists_cons ⟨rfl, ?_⟩ ?_
    · intro _ online
      cases online
    refine Run.exists_cons ⟨rfl, trivial⟩ ?_
    refine Run.exists_cons ⟨rfl, trivial⟩ ?_
    refine Run.exists_cons ⟨rfl, trivial⟩ ⟨_, .nil, ?_⟩
    exact ⟨_, _, ⟨rfl, rfl⟩, rfl, Run.of_foldlM rfl⟩
  obtain ⟨ended, final, ⟨once, still⟩, stopped, later⟩ := shown
  have promised := reconnects_bounded 2
  have run : Run (Step 2) {} calmHistory controller :=
    tame.mono fun move => move.1
  refine ⟨controller, ended, final,
    ⟨tame, once, promised.1 _ _ tame⟩, stopped, later, ?_⟩
  rw [promised.2 _ _ _ _ _ _ run stopped rfl later (by decide), still]

/-- The second attempt is still waiting when the first turns out to have
connected, and three more starts follow its loss. -/
def lateTimerHistory : List ControllerEvent :=
  [.start true (answered 1 (some ⟨1, 1, .connecting, none⟩)),
    .refresh (some ⟨2, 1, .failed, some .connection⟩), .timerFired,
    .configurationResolved 2 (answered 2 none),
    .refresh (some ⟨4, 2, .online, none⟩),
    .refresh (some ⟨5, 2, .failed, some .connection⟩), .timerFired,
    .configurationResolved 3
      (answered 3 (some ⟨6, 3, .connecting, none⟩)),
    .refresh (some ⟨7, 3, .failed, some .connection⟩), .timerFired,
    .configurationResolved 4
      (answered 4 (some ⟨8, 4, .connecting, none⟩)),
    .refresh (some ⟨9, 4, .failed, some .connection⟩), .timerFired,
    .configurationResolved 5
      (answered 5 (some ⟨10, 5, .connecting, none⟩))]

theorem starts_exceed_attempts : ∃ controller,
    Run (Step 2) {} lateTimerHistory controller ∧
      controller.log = [.automaticStart, .automaticStart, .automaticStart,
        .adoptedOnline, .automaticStart, .explicitStart] ∧
      ¬ Bounded 2 controller := by
  refine ⟨_, Run.of_foldlM rfl, rfl, ?_⟩
  intro bounded
  have within := bounded 3 ⟨[], [.adoptedOnline, .automaticStart,
    .explicitStart], rfl⟩
  exact absurd within (by decide)

end ClientController

end Velum.Client
