import Velum.Foundation.TaskPool
import Velum.Foundation.TransitionSystem
import Velum.Node.Listener

/-!
# The accept loop of the relay

The loop takes controls and connections until it is told to stop, or until it
drains and its last task is joined.  It then closes the endpoint and waits for
the tasks of its connections, which it aborts after a time.  A task that is
aborted or panics does not count its connection out.
-/

namespace Velum.Node

open Foundation

/-- A reload carries the outcome of reading the replacement. -/
inductive Control (ServerConfig : Type) where
  | drain
  | reload (replacement : Except String ServerConfig)
  | shutdown

inductive ConnectionTask where
  | handshaking
  | serving
  deriving DecidableEq

inductive AcceptPhase where
  | accepting
  | closing
  | aborting
  | returned
  deriving DecidableEq

structure AcceptLoop (ServerConfig : Type) where
  phase : AcceptPhase := .accepting
  draining : Bool := false
  serverConfig : ServerConfig
  tasks : TaskPool ConnectionTask
  -- What the status reports.
  connections : Nat := 0

inductive AcceptLabel (ServerConfig : Type) where
  -- There is no control when every sender has been dropped.
  | control (control : Option (Control ServerConfig))
  | incoming
  | endpointClosed
  | handshakeFailed (id : Nat)
  | connected (id : Nat)
  | served (id : Nat)
  -- The set of tasks catches the panic.
  | panicked (id : Nat)
  | joined
  | drained
  | timedOut
  | cancelled (id : Nat)
  | returned

namespace AcceptLoop

variable {ServerConfig : Type}

def start (config : QuicRelayConfig) (serverConfig : ServerConfig) :
    Except String (AcceptLoop ServerConfig) :=
  match config.validate with
  | .error _ => .error "invalid listener configuration"
  | .ok () => .ok {
      serverConfig, tasks := .create config.maxConnections }

/-- The loop has not broken at its head. -/
def selects (loop : AcceptLoop ServerConfig) : Bool :=
  loop.phase = .accepting && !(loop.draining && loop.tasks.isEmpty)

def controlled (loop : AcceptLoop ServerConfig) :
    Option (Control ServerConfig) → AcceptLoop ServerConfig
  | some .drain => { loop with draining := true }
  | some (.reload (.ok replacement)) =>
      { loop with serverConfig := replacement }
  -- The last good certificate stays.
  | some (.reload (.error _)) => loop
  | some .shutdown => { loop with phase := .closing }
  | none => { loop with phase := .closing }

/-- A connection is refused when no slot is left. -/
def accept (loop : AcceptLoop ServerConfig) : AcceptLoop ServerConfig :=
  match loop.tasks.spawn .handshaking with
  | some tasks => { loop with tasks }
  | none => loop

def step (loop : AcceptLoop ServerConfig) :
    AcceptLabel ServerConfig → Option (AcceptLoop ServerConfig)
  | .control control =>
      if loop.selects then some (loop.controlled control) else none
  | .incoming =>
      if loop.selects && !loop.draining then some loop.accept else none
  | .endpointClosed =>
      if loop.selects && !loop.draining then
        some { loop with phase := .closing }
      else none
  | .handshakeFailed id =>
      match loop.tasks.running.get? id with
      | some .handshaking => some { loop with tasks := loop.tasks.finish id }
      | _ => none
  | .connected id =>
      match loop.tasks.running.get? id with
      | some .handshaking => some { loop with
          tasks := loop.tasks.update id .serving
          connections := loop.connections + 1 }
      | _ => none
  | .served id =>
      match loop.tasks.running.get? id with
      | some .serving => some { loop with
          tasks := loop.tasks.finish id
          connections := loop.connections - 1 }
      | _ => none
  | .panicked id =>
      if loop.tasks.running.contains id = true then
        some { loop with tasks := loop.tasks.finish id }
      else none
  | .joined =>
      if loop.phase = .returned then none
      else loop.tasks.join.map fun tasks => { loop with tasks }
  | .drained =>
      if loop.phase = .accepting ∧ loop.draining = true ∧
          loop.tasks.isEmpty = true then
        some { loop with phase := .closing }
      else none
  | .timedOut =>
      if loop.phase = .closing then some { loop with phase := .aborting }
      else none
  | .cancelled id =>
      if loop.phase = .aborting ∧ loop.tasks.running.contains id = true then
        some { loop with tasks := loop.tasks.finish id }
      else none
  | .returned =>
      if (loop.phase = .closing ∨ loop.phase = .aborting) ∧
          loop.tasks.isEmpty = true then
        some { loop with phase := .returned }
      else none

def Step (loop : AcceptLoop ServerConfig) (label : AcceptLabel ServerConfig)
    (after : AcceptLoop ServerConfig) : Prop :=
  loop.step label = some after

/-! ## What a step does -/

inductive Moves (loop : AcceptLoop ServerConfig) :
    AcceptLabel ServerConfig → AcceptLoop ServerConfig → Prop where
  | drain (open_ : loop.phase = .accepting) :
      Moves loop (.control (some .drain)) { loop with draining := true }
  | reload (open_ : loop.phase = .accepting) (replacement : ServerConfig) :
      Moves loop (.control (some (.reload (.ok replacement))))
        { loop with serverConfig := replacement }
  | keep (open_ : loop.phase = .accepting) (failure : String) :
      Moves loop (.control (some (.reload (.error failure)))) loop
  | shutdown (open_ : loop.phase = .accepting) :
      Moves loop (.control (some .shutdown)) { loop with phase := .closing }
  | abandoned (open_ : loop.phase = .accepting) :
      Moves loop (.control none) { loop with phase := .closing }
  | refuse (open_ : loop.phase = .accepting) : Moves loop .incoming loop
  | accept (open_ : loop.phase = .accepting) (taking : loop.draining = false)
      (tasks : TaskPool ConnectionTask)
      (spawned : loop.tasks.spawn .handshaking = some tasks) :
      Moves loop .incoming { loop with tasks }
  | endpointClosed (open_ : loop.phase = .accepting) :
      Moves loop .endpointClosed { loop with phase := .closing }
  | handshakeFailed (id : Nat)
      (found : loop.tasks.running.get? id = some .handshaking) :
      Moves loop (.handshakeFailed id)
        { loop with tasks := loop.tasks.finish id }
  | connected (id : Nat)
      (found : loop.tasks.running.get? id = some .handshaking) :
      Moves loop (.connected id) { loop with
        tasks := loop.tasks.update id .serving
        connections := loop.connections + 1 }
  | served (id : Nat) (found : loop.tasks.running.get? id = some .serving) :
      Moves loop (.served id) { loop with
        tasks := loop.tasks.finish id
        connections := loop.connections - 1 }
  | panicked (id : Nat) (task : ConnectionTask)
      (found : loop.tasks.running.get? id = some task) :
      Moves loop (.panicked id) { loop with tasks := loop.tasks.finish id }
  | joined (tasks : TaskPool ConnectionTask)
      (joined : loop.tasks.join = some tasks) :
      Moves loop .joined { loop with tasks }
  | drained (open_ : loop.phase = .accepting) :
      Moves loop .drained { loop with phase := .closing }
  | timedOut (closing : loop.phase = .closing) :
      Moves loop .timedOut { loop with phase := .aborting }
  | cancelled (id : Nat) (task : ConnectionTask)
      (aborting : loop.phase = .aborting)
      (found : loop.tasks.running.get? id = some task) :
      Moves loop (.cancelled id) { loop with tasks := loop.tasks.finish id }
  | returned (stopped : loop.phase = .closing ∨ loop.phase = .aborting)
      (empty : loop.tasks.isEmpty = true) :
      Moves loop .returned { loop with phase := .returned }

theorem phase_of_selects {loop : AcceptLoop ServerConfig}
    (selects : loop.selects = true) : loop.phase = .accepting := by
  rw [AcceptLoop.selects, Bool.and_eq_true, decide_eq_true_eq] at selects
  exact selects.1

theorem moves_of_step {loop after : AcceptLoop ServerConfig}
    {label : AcceptLabel ServerConfig} (step : Step loop label after) :
    Moves loop label after := by
  rw [Step] at step
  cases label with
  | control control =>
      obtain ⟨selects, made⟩ := Option.ite_none_right_eq_some.mp step
      cases made
      have open_ := phase_of_selects selects
      match control with
      | some .drain => exact .drain open_
      | some (.reload (.ok replacement)) => exact .reload open_ replacement
      | some (.reload (.error failure)) => exact .keep open_ failure
      | some .shutdown => exact .shutdown open_
      | none => exact .abandoned open_
  | incoming =>
      obtain ⟨taking, made⟩ := Option.ite_none_right_eq_some.mp step
      cases made
      rw [Bool.and_eq_true, Bool.not_eq_true'] at taking
      have open_ := phase_of_selects taking.1
      rw [AcceptLoop.accept]
      cases spawned : loop.tasks.spawn .handshaking with
      | none => exact .refuse open_
      | some tasks => exact .accept open_ taking.2 tasks spawned
  | endpointClosed =>
      obtain ⟨taking, made⟩ := Option.ite_none_right_eq_some.mp step
      cases made
      rw [Bool.and_eq_true] at taking
      exact .endpointClosed (phase_of_selects taking.1)
  | handshakeFailed id =>
      simp only [AcceptLoop.step] at step
      split at step
      next found =>
        cases step
        exact .handshakeFailed id found
      next => cases step
  | connected id =>
      simp only [AcceptLoop.step] at step
      split at step
      next found =>
        cases step
        exact .connected id found
      next => cases step
  | served id =>
      simp only [AcceptLoop.step] at step
      split at step
      next found =>
        cases step
        exact .served id found
      next => cases step
  | panicked id =>
      obtain ⟨held, made⟩ := Option.ite_none_right_eq_some.mp step
      cases made
      obtain ⟨task, found⟩ := Option.isSome_iff_exists.mp held
      exact .panicked id task found
  | joined =>
      simp only [AcceptLoop.step] at step
      split at step
      next => cases step
      next =>
        obtain ⟨tasks, joined, rfl⟩ := Option.map_eq_some_iff.mp step
        exact .joined tasks joined
  | drained =>
      obtain ⟨quiet, made⟩ := Option.ite_none_right_eq_some.mp step
      cases made
      exact .drained quiet.1
  | timedOut =>
      obtain ⟨closing, made⟩ := Option.ite_none_right_eq_some.mp step
      cases made
      exact .timedOut closing
  | cancelled id =>
      obtain ⟨⟨aborting, held⟩, made⟩ := Option.ite_none_right_eq_some.mp step
      cases made
      obtain ⟨task, found⟩ := Option.isSome_iff_exists.mp held
      exact .cancelled id task aborting found
  | returned =>
      obtain ⟨⟨stopped, empty⟩, made⟩ :=
        Option.ite_none_right_eq_some.mp step
      cases made
      exact .returned stopped empty

/-! ## Accounts -/

/-- The connections that have been counted in and not counted out. -/
def servingWeight : ConnectionTask → Nat
  | .handshaking => 0
  | .serving => 1

def serving (loop : AcceptLoop ServerConfig) : Nat :=
  loop.tasks.running.total servingWeight

/-- The tasks that were aborted or panicked. -/
def losses (trace : List (AcceptLabel ServerConfig)) : Nat :=
  trace.countP fun
    | .cancelled _ => true
    | .panicked _ => true
    | _ => false

/-- The configuration of the last reload that succeeded. -/
def lastReload (initial : ServerConfig)
    (trace : List (AcceptLabel ServerConfig)) : ServerConfig :=
  trace.foldl (fun current label =>
    match label with
    | .control (some (.reload (.ok replacement))) => replacement
    | _ => current) initial

section Steps

variable {capacity : Nat} {initial : ServerConfig}
  {trace : List (AcceptLabel ServerConfig)}
  {loop after : AcceptLoop ServerConfig} {label : AcceptLabel ServerConfig}

theorem sound_of_moves (sound : loop.tasks.Sound capacity)
    (moves : Moves loop label after) : after.tasks.Sound capacity := by
  cases moves with
  | accept open_ taking tasks spawned => exact sound.spawn spawned
  | handshakeFailed id found => exact sound.finish found
  | connected id found => exact sound.update found
  | served id found => exact sound.finish found
  | panicked id task found => exact sound.finish found
  | joined tasks joined => exact sound.join joined
  | cancelled id task aborting found => exact sound.finish found
  | _ => exact sound

/-- A task that ends without counting its connection out. -/
theorem balance_of_loss {id : Nat} {task : ConnectionTask}
    (found : loop.tasks.running.get? id = some task) :
    ∃ lost ≤ 1, loop.connections + loop.serving =
      (loop.tasks.finish id).running.total servingWeight +
        loop.connections + lost := by
  have total := TaskPool.total_finish found servingWeight
  refine ⟨servingWeight task, ?_, ?_⟩
  · cases task with
    | handshaking => exact Nat.zero_le 1
    | serving => exact Nat.le_refl 1
  · change loop.connections + loop.tasks.running.total servingWeight = _
    omega

/-- The status counts a connection too many only where a task is lost. -/
theorem balance_of_moves (sound : loop.tasks.Sound capacity)
    (counted : loop.serving ≤ loop.connections)
    (moves : Moves loop label after) :
    ∃ lost ≤ losses [label],
      after.connections + loop.serving =
        after.serving + loop.connections + lost := by
  cases moves with
  | accept open_ taking tasks spawned =>
      have total := sound.total_spawn spawned servingWeight
      refine ⟨0, Nat.zero_le _, ?_⟩
      change loop.connections + loop.tasks.running.total servingWeight =
        tasks.running.total servingWeight + loop.connections
      rw [total]
      exact Nat.add_comm _ _
  | handshakeFailed id found =>
      have total := TaskPool.total_finish found servingWeight
      refine ⟨0, Nat.zero_le _, ?_⟩
      change loop.connections + loop.tasks.running.total servingWeight =
        (loop.tasks.finish id).running.total servingWeight + loop.connections
      rw [← total]
      exact Nat.add_comm _ _
  | connected id found =>
      have total := @TaskPool.total_update _ _ _ .serving _ found servingWeight
      refine ⟨0, Nat.zero_le _, ?_⟩
      change loop.connections + 1 + loop.tasks.running.total servingWeight =
        (loop.tasks.update id .serving).running.total servingWeight +
          loop.connections
      have one : servingWeight .serving = 1 := rfl
      have none : servingWeight .handshaking = 0 := rfl
      omega
  | served id found =>
      have total := TaskPool.total_finish found servingWeight
      refine ⟨0, Nat.zero_le _, ?_⟩
      have one : servingWeight .serving = 1 := rfl
      change loop.tasks.running.total servingWeight ≤ loop.connections
        at counted
      change loop.connections - 1 + loop.tasks.running.total servingWeight =
        (loop.tasks.finish id).running.total servingWeight + loop.connections
      omega
  | joined tasks joined =>
      obtain ⟨_, rfl⟩ := TaskPool.join_eq_some joined
      exact ⟨0, Nat.zero_le _, Nat.add_comm _ _⟩
  | panicked id task found => exact balance_of_loss found
  | cancelled id task aborting found => exact balance_of_loss found
  | _ => exact ⟨0, Nat.zero_le _, Nat.add_comm _ _⟩

theorem configured_of_moves (moves : Moves loop label after) :
    after.serverConfig = lastReload loop.serverConfig [label] := by
  cases moves with
  | _ => rfl

/-- A loop returns with no task left, and does nothing more. -/
theorem returned_of_moves
    (returned : loop.phase = .returned → loop.tasks.isEmpty = true)
    (moves : Moves loop label after) :
    after.phase = .returned → after.tasks.isEmpty = true := by
  intro stopped
  cases moves with
  | returned _ empty => exact empty
  | handshakeFailed id found =>
      rw [TaskPool.not_isEmpty_of_running found] at returned
      cases returned stopped
  | connected id found =>
      rw [TaskPool.not_isEmpty_of_running found] at returned
      cases returned stopped
  | served id found =>
      rw [TaskPool.not_isEmpty_of_running found] at returned
      cases returned stopped
  | panicked id task found =>
      rw [TaskPool.not_isEmpty_of_running found] at returned
      cases returned stopped
  | joined tasks joined =>
      rw [TaskPool.not_isEmpty_of_join joined] at returned
      cases returned stopped
  | cancelled id task aborting found =>
      rw [TaskPool.not_isEmpty_of_running found] at returned
      cases returned stopped
  | drain => exact returned stopped
  | reload => exact returned stopped
  | keep => exact returned stopped
  | refuse => exact returned stopped
  | accept open_ taking tasks spawned =>
      rw [open_] at stopped
      cases stopped
  | shutdown => cases stopped
  | abandoned => cases stopped
  | endpointClosed => cases stopped
  | drained => cases stopped
  | timedOut => cases stopped

/-- Once it drains, the loop takes no connection. -/
theorem draining_of_moves (draining : loop.draining = true)
    (moves : Moves loop label after) :
    after.draining = true ∧ after.tasks.next = loop.tasks.next := by
  cases moves with
  | accept open_ taking tasks spawned =>
      rw [draining] at taking
      cases taking
  | joined tasks joined =>
      obtain ⟨_, rfl⟩ := TaskPool.join_eq_some joined
      exact ⟨draining, rfl⟩
  | drain => exact ⟨rfl, rfl⟩
  | _ => exact ⟨draining, rfl⟩

/-! ## Returning -/

def taskWork : ConnectionTask → Nat
  | .handshaking => 3
  | .serving => 2

def phaseWork : AcceptPhase → Nat
  | .closing => 2
  | .aborting => 1
  | .accepting => 0
  | .returned => 0

/-- What a loop that has stopped has still to do. -/
def work (loop : AcceptLoop ServerConfig) : Nat :=
  loop.tasks.running.total taskWork + loop.tasks.ended + phaseWork loop.phase

theorem work_finish {id : Nat} {task : ConnectionTask}
    (found : loop.tasks.running.get? id = some task) :
    (loop.tasks.finish id).running.total taskWork +
      (loop.tasks.finish id).ended <
        loop.tasks.running.total taskWork + loop.tasks.ended := by
  have total := TaskPool.total_finish found taskWork
  have ended : (loop.tasks.finish id).ended = loop.tasks.ended + 1 := rfl
  have heavy : 2 ≤ taskWork task := by
    cases task with
    | handshaking => exact Nat.le_succ 2
    | serving => exact Nat.le_refl 2
  omega

theorem work_of_moves (stopped : loop.phase ≠ .accepting)
    (moves : Moves loop label after) :
    after.work < loop.work ∧ after.phase ≠ .accepting := by
  cases moves with
  | handshakeFailed id found =>
      exact ⟨Nat.add_lt_add_right (work_finish found) _, stopped⟩
  | served id found =>
      exact ⟨Nat.add_lt_add_right (work_finish found) _, stopped⟩
  | panicked id task found =>
      exact ⟨Nat.add_lt_add_right (work_finish found) _, stopped⟩
  | cancelled id task aborting found =>
      exact ⟨Nat.add_lt_add_right (work_finish found) _, stopped⟩
  | connected id found =>
      have total := @TaskPool.total_update _ _ _ .serving _ found taskWork
      have before : taskWork .handshaking = 3 := rfl
      have behind : taskWork .serving = 2 := rfl
      refine ⟨?_, stopped⟩
      change (loop.tasks.update id .serving).running.total taskWork +
        loop.tasks.ended + phaseWork loop.phase < loop.work
      rw [work]
      omega
  | joined tasks joined =>
      obtain ⟨ended, rfl⟩ := TaskPool.join_eq_some joined
      refine ⟨?_, stopped⟩
      change loop.tasks.running.total taskWork + (loop.tasks.ended - 1) +
        phaseWork loop.phase < loop.work
      rw [work]
      omega
  | timedOut closing =>
      refine ⟨?_, fun open_ => by cases open_⟩
      rw [work, work, closing]
      exact Nat.lt_succ_self _
  | returned halting empty =>
      refine ⟨?_, fun open_ => by cases open_⟩
      rw [work, work]
      rcases halting with closing | aborting
      · rw [closing]
        exact Nat.lt_add_of_pos_right (Nat.zero_lt_succ 1)
      · rw [aborting]
        exact Nat.lt_succ_self _
  | drain open_ => exact absurd open_ stopped
  | reload open_ => exact absurd open_ stopped
  | keep open_ => exact absurd open_ stopped
  | shutdown open_ => exact absurd open_ stopped
  | abandoned open_ => exact absurd open_ stopped
  | refuse open_ => exact absurd open_ stopped
  | accept open_ => exact absurd open_ stopped
  | endpointClosed open_ => exact absurd open_ stopped
  | drained open_ => exact absurd open_ stopped

theorem length_le_work (stopped : loop.phase ≠ .accepting)
    (run : Run Step loop trace after) :
    trace.length + after.work ≤ loop.work ∧ after.phase ≠ .accepting := by
  induction run with
  | nil => exact ⟨Nat.le_of_eq (Nat.zero_add _), stopped⟩
  | snoc _ step induction =>
      have less := work_of_moves induction.2 (moves_of_step step)
      refine ⟨?_, less.2⟩
      rw [List.length_append, List.length_singleton]
      omega

/-- A loop that aborts its tasks can go on until it returns, whatever its
connections do. -/
theorem exists_step (stopped : loop.phase ≠ .accepting)
    (going : loop.phase ≠ .returned) :
    ∃ label next, Step loop label next := by
  by_cases empty : loop.tasks.isEmpty = true
  · refine ⟨.returned, _, if_pos ⟨?_, empty⟩⟩
    cases phase : loop.phase with
    | accepting => exact absurd phase stopped
    | closing => exact .inl rfl
    | aborting => exact .inr rfl
    | returned => exact absurd phase going
  cases phase : loop.phase with
  | accepting => exact absurd phase stopped
  | returned => exact absurd phase going
  | closing => exact ⟨.timedOut, _, if_pos phase⟩
  | aborting =>
      by_cases ended : loop.tasks.ended = 0
      · have running : loop.tasks.running.entries ≠ [] := by
          intro none
          rw [TaskPool.isEmpty_iff] at empty
          exact empty ⟨congrArg List.length none, ended⟩
        obtain ⟨entry, member⟩ := List.exists_mem_of_ne_nil _ running
        have found : loop.tasks.running.get? entry.1 = some entry.2 :=
          OrderedMap.get?_eq_some_iff.mpr member
        refine ⟨.cancelled entry.1, _, if_pos ⟨phase, ?_⟩⟩
        rw [OrderedMap.contains, found]
        rfl
      · refine ⟨.joined, { loop with
          tasks := { loop.tasks with ended := loop.tasks.ended - 1 } }, ?_⟩
        have joined : loop.tasks.join =
            some { loop.tasks with ended := loop.tasks.ended - 1 } :=
          if_neg ended
        rw [Step, AcceptLoop.step, if_neg going, joined]
        rfl

theorem returns (stopped : loop.phase ≠ .accepting) :
    ∃ later final, Run Step loop later final ∧ final.phase = .returned := by
  induction bound : loop.work using Nat.strongRecOn generalizing loop with
  | ind bound induction =>
      by_cases returned : loop.phase = .returned
      · exact ⟨[], loop, .nil, returned⟩
      obtain ⟨label, next, step⟩ := exists_step stopped returned
      have less := work_of_moves stopped (moves_of_step step)
      obtain ⟨later, final, run, ended⟩ :=
        induction next.work (bound ▸ less.1) less.2 rfl
      exact ⟨label :: later, final, .cons step run, ended⟩

/-! ## Whole runs -/

/-- What holds in every state of an accept loop, given how it came there. -/
structure Accounted (capacity : Nat) (started : AcceptLoop ServerConfig)
    (trace : List (AcceptLabel ServerConfig))
    (loop : AcceptLoop ServerConfig) : Prop where
  slots : loop.tasks.permits + loop.tasks.running.size = capacity
  counted : loop.serving ≤ loop.connections
  bounded : loop.connections ≤ loop.serving + losses trace
  configured : loop.serverConfig = lastReload started.serverConfig trace
  closed : ∀ front back middle,
    trace = front ++ .control (some .drain) :: back →
    Run Step started front middle → loop.tasks.next = middle.tasks.next
  joined : loop.phase = .returned →
    loop.tasks.isEmpty = true ∧ loop.tasks.permits = capacity
  finite : loop.phase ≠ .accepting → ∀ later final,
    Run Step loop later final → later.length ≤ loop.work
  returning : loop.phase ≠ .accepting → ∃ later final,
    Run Step loop later final ∧ final.phase = .returned

theorem start_eq_ok {config : QuicRelayConfig} {serverConfig : ServerConfig}
    (started : start config serverConfig = .ok loop) :
    loop = { serverConfig, tasks := .create config.maxConnections } := by
  rw [start] at started
  split at started
  next => cases started
  next =>
    cases started
    rfl

theorem kept_of_run {started : AcceptLoop ServerConfig}
    (sound : started.tasks.Sound capacity)
    (counted : started.serving = started.connections)
    (open_ : started.phase = .accepting) (run : Run Step started trace loop) :
    loop.tasks.Sound capacity ∧
      (loop.serving ≤ loop.connections ∧
        loop.connections ≤ loop.serving + losses trace) ∧
      loop.serverConfig = lastReload started.serverConfig trace ∧
      (loop.phase = .returned → loop.tasks.isEmpty = true) := by
  induction run with
  | nil =>
      refine ⟨sound, ⟨Nat.le_of_eq counted, Nat.le_of_eq counted.symm⟩, rfl, ?_⟩
      intro stopped
      rw [open_] at stopped
      cases stopped
  | @snoc trace loop next label _ step induction =>
      obtain ⟨sound, ⟨least, most⟩, configured, returned⟩ := induction
      have moves := moves_of_step step
      obtain ⟨lost, few, balance⟩ := balance_of_moves sound least moves
      have split : losses (trace ++ [label]) =
          losses trace + losses [label] := List.countP_append
      refine ⟨sound_of_moves sound moves, ⟨by omega, by omega⟩, ?_,
        returned_of_moves returned moves⟩
      rw [configured_of_moves moves, configured, lastReload, lastReload,
        lastReload, List.foldl_append]

theorem next_of_run (draining : loop.draining = true)
    (run : Run Step loop trace after) :
    after.draining = true ∧ after.tasks.next = loop.tasks.next := by
  induction run with
  | nil => exact ⟨draining, rfl⟩
  | snoc _ step induction =>
      have moved := draining_of_moves induction.1 (moves_of_step step)
      exact ⟨moved.1, moved.2.trans induction.2⟩

theorem step_deterministic {first second : AcceptLoop ServerConfig}
    (left : Step loop label first) (right : Step loop label second) :
    first = second :=
  Option.some.inj (left.symm.trans right)

theorem run_deterministic {first second : AcceptLoop ServerConfig}
    (left : Run Step loop trace first) (right : Run Step loop trace second) :
    first = second := by
  induction trace generalizing loop with
  | nil => rw [left.eq_of_nil, right.eq_of_nil]
  | cons label trace induction =>
      obtain ⟨next, step, run⟩ := left.head
      obtain ⟨other, otherStep, otherRun⟩ := right.head
      cases step_deterministic step otherStep
      exact induction run otherRun

/-- No connection is taken after a drain. -/
theorem closed_of_run {started middle : AcceptLoop ServerConfig}
    {front back : List (AcceptLabel ServerConfig)}
    (run : Run Step started (front ++ .control (some .drain) :: back) loop)
    (before : Run Step started front middle) :
    loop.tasks.next = middle.tasks.next := by
  obtain ⟨same, early, later⟩ := run.split
  cases run_deterministic before early
  obtain ⟨next, step, rest⟩ := later.head
  cases moves_of_step step with
  | drain => exact (next_of_run rfl rest).2

/-- Every task of the loop holds one of its slots, the status counts too many
connections only after tasks were lost, a reload that fails changes nothing,
nothing is accepted after a drain, and a loop that stops returns with every task
joined. -/
theorem accept_loop_accounts {config : QuicRelayConfig}
    {serverConfig : ServerConfig} {started : AcceptLoop ServerConfig}
    (accepted : start config serverConfig = .ok started)
    (run : Run Step started trace loop) :
    Accounted config.maxConnections started trace loop := by
  cases start_eq_ok accepted
  have created : TaskPool.Sound config.maxConnections
      (.create config.maxConnections : TaskPool ConnectionTask) :=
    TaskPool.sound_create
  obtain ⟨sound, ⟨least, most⟩, configured, returned⟩ :=
    kept_of_run created rfl rfl run
  refine ⟨sound.permits, least, most, configured, ?_, ?_, ?_, returns⟩
  · rintro front back middle rfl before
    exact closed_of_run run before
  · intro stopped
    have empty := returned stopped
    have none := (TaskPool.isEmpty_iff.mp empty).1
    have permits := sound.permits
    exact ⟨empty, by omega⟩
  · intro stopped later final rest
    have bounded := (length_le_work stopped rest).1
    omega

end Steps

/-- A connection is served while a reload fails, and the loop drains. -/
def drainingTrace : List (AcceptLabel Nat) :=
  [.incoming, .connected 0, .control (some (.reload (.error "expired"))),
    .control (some (.reload (.ok 2))), .control (some .drain), .served 0,
    .joined, .drained, .returned]

theorem accept_loop_accounts_drained :
    ∃ started loop : AcceptLoop Nat, start {} 1 = .ok started ∧
      Run Step started drainingTrace loop ∧ loop.phase = .returned ∧
      loop.serverConfig = 2 ∧
      Accounted 1024 started drainingTrace loop := by
  have accepted : start {} (1 : Nat) =
      .ok { serverConfig := 1, tasks := .create 1024 } := by rfl
  have made : (drainingTrace.foldlM AcceptLoop.step
      { serverConfig := 1, tasks := .create 1024 }).isSome = true := by decide
  obtain ⟨loop, reached⟩ := Option.isSome_iff_exists.mp made
  have run := Run.of_foldlM reached
  have facts : (drainingTrace.foldlM AcceptLoop.step
      { serverConfig := 1, tasks := .create 1024 }).map
        (fun loop => (loop.phase, loop.serverConfig)) =
          some (.returned, 2) := by decide
  rw [reached] at facts
  cases loop
  simp only [Option.map_some, Option.some.injEq, Prod.mk.injEq] at facts
  exact ⟨_, _, accepted, run, facts.1, facts.2,
    accept_loop_accounts accepted run⟩

end AcceptLoop

end Velum.Node
