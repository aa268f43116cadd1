import Velum.Foundation.OrderedMap

/-!
# Pools of tasks

A loop spawns tasks beside itself and joins those that have ended.  Each task
takes one of a bounded number of permits when it is spawned and gives it back
when it ends, whether it is joined or not.
-/

namespace Foundation

structure TaskPool (Task : Type) where
  permits : Nat
  running : OrderedMap Nat Task
  -- Tasks that have ended and have not been joined.
  ended : Nat
  next : Nat

namespace TaskPool

variable {Task : Type}

def create (capacity : Nat) : TaskPool Task where
  permits := capacity
  running := .empty
  ended := 0
  next := 0

def isEmpty (pool : TaskPool Task) : Bool :=
  pool.running.size = 0 && pool.ended = 0

/-- Spawns a task if a permit is left. -/
def spawn (pool : TaskPool Task) (task : Task) : Option (TaskPool Task) :=
  if pool.permits = 0 then none
  else some { pool with
    permits := pool.permits - 1
    running := pool.running.insert pool.next task
    next := pool.next + 1 }

/-- Puts a running task into another state. -/
def update (pool : TaskPool Task) (id : Nat) (task : Task) : TaskPool Task :=
  { pool with running := pool.running.insert id task }

/-- A running task ends, by itself or because it is cancelled. -/
def finish (pool : TaskPool Task) (id : Nat) : TaskPool Task :=
  { pool with
    permits := pool.permits + 1
    running := pool.running.erase id
    ended := pool.ended + 1 }

def join (pool : TaskPool Task) : Option (TaskPool Task) :=
  if pool.ended = 0 then none else some { pool with ended := pool.ended - 1 }

/-- The permits that are left and those of the running tasks make up the
capacity. -/
structure Sound (capacity : Nat) (pool : TaskPool Task) : Prop where
  permits : pool.permits + pool.running.size = capacity
  fresh : ∀ id task, pool.running.get? id = some task → id < pool.next

section Operations

variable {capacity : Nat} {pool after : TaskPool Task} {id : Nat}
  {task former : Task}

theorem sound_create : Sound capacity (create capacity : TaskPool Task) where
  permits := Nat.add_zero capacity
  fresh := by
    intro id task found
    rw [create, OrderedMap.get?_empty] at found
    cases found

theorem Sound.absent (sound : Sound capacity pool) :
    pool.running.get? pool.next = none := by
  cases found : pool.running.get? pool.next with
  | none => rfl
  | some task => exact absurd (sound.fresh _ _ found) (Nat.lt_irrefl _)

theorem spawn_eq_some (spawned : pool.spawn task = some after) :
    0 < pool.permits ∧ after = { pool with
      permits := pool.permits - 1
      running := pool.running.insert pool.next task
      next := pool.next + 1 } := by
  rw [spawn] at spawned
  split at spawned
  next => cases spawned
  next left =>
    cases spawned
    exact ⟨Nat.pos_of_ne_zero left, rfl⟩

theorem join_eq_some (joined : pool.join = some after) :
    0 < pool.ended ∧ after = { pool with ended := pool.ended - 1 } := by
  rw [join] at joined
  split at joined
  next => cases joined
  next left =>
    cases joined
    exact ⟨Nat.pos_of_ne_zero left, rfl⟩

theorem Sound.spawn (sound : Sound capacity pool)
    (spawned : pool.spawn task = some after) : Sound capacity after := by
  obtain ⟨left, rfl⟩ := spawn_eq_some spawned
  have permits := sound.permits
  refine ⟨?_, ?_⟩
  · have size := OrderedMap.size_insert_of_absent sound.absent task
    simp only [size]
    omega
  · intro id other found
    rcases OrderedMap.get?_insert_eq_some_iff.mp found with
      ⟨rfl, _⟩ | ⟨_, earlier⟩
    · exact Nat.lt_succ_self _
    · exact Nat.lt_succ_of_lt (sound.fresh id other earlier)

/-- A weight of the running tasks when one of them changes. -/
theorem total_update (present : pool.running.get? id = some former)
    (weight : Task → Nat) :
    (pool.update id task).running.total weight + weight former =
      pool.running.total weight + weight task := by
  have changed := OrderedMap.total_insert pool.running id task weight
  have before := OrderedMap.total_eq_of_get? present weight
  change (pool.running.insert id task).total weight + weight former = _
  omega

theorem total_finish (present : pool.running.get? id = some former)
    (weight : Task → Nat) :
    (pool.finish id).running.total weight + weight former =
      pool.running.total weight := by
  have before := OrderedMap.total_eq_of_get? present weight
  change (pool.running.erase id).total weight + weight former = _
  omega

theorem Sound.total_spawn (sound : Sound capacity pool)
    (spawned : pool.spawn task = some after) (weight : Task → Nat) :
    after.running.total weight = pool.running.total weight + weight task := by
  obtain ⟨_, rfl⟩ := spawn_eq_some spawned
  have grown := OrderedMap.total_insert_of_absent sound.absent task weight
  simp only [grown]
  exact Nat.add_comm _ _

theorem Sound.update (sound : Sound capacity pool)
    (present : pool.running.get? id = some former) :
    Sound capacity (pool.update id task) := by
  have permits := sound.permits
  have size := @total_update _ _ _ task _ present fun _ => 1
  rw [← OrderedMap.size_eq_total, ← OrderedMap.size_eq_total] at size
  refine ⟨?_, ?_⟩
  · change pool.permits + (pool.update id task).running.size = capacity
    omega
  · intro other found held
    rcases OrderedMap.get?_insert_eq_some_iff.mp held with
      ⟨rfl, _⟩ | ⟨_, earlier⟩
    · exact sound.fresh _ _ present
    · exact sound.fresh _ _ earlier

theorem Sound.finish (sound : Sound capacity pool)
    (present : pool.running.get? id = some former) :
    Sound capacity (pool.finish id) := by
  have permits := sound.permits
  have size := total_finish present fun _ => 1
  rw [← OrderedMap.size_eq_total, ← OrderedMap.size_eq_total] at size
  refine ⟨?_, ?_⟩
  · change pool.permits + 1 + (pool.finish id).running.size = capacity
    omega
  · intro other task held
    exact sound.fresh other task (OrderedMap.get?_erase_eq_some_iff.mp held).2

theorem Sound.join (sound : Sound capacity pool)
    (joined : pool.join = some after) : Sound capacity after := by
  obtain ⟨_, rfl⟩ := join_eq_some joined
  exact ⟨sound.permits, sound.fresh⟩

theorem isEmpty_iff :
    pool.isEmpty = true ↔ pool.running.size = 0 ∧ pool.ended = 0 := by
  rw [isEmpty, Bool.and_eq_true, decide_eq_true_eq, decide_eq_true_eq]

theorem not_isEmpty_of_running (present : pool.running.get? id = some former) :
    pool.isEmpty = false := by
  have size := OrderedMap.total_eq_of_get? present fun _ => 1
  rw [← OrderedMap.size_eq_total] at size
  rw [Bool.eq_false_iff, Ne, isEmpty_iff]
  omega

theorem not_isEmpty_of_join (joined : pool.join = some after) :
    pool.isEmpty = false := by
  obtain ⟨ended, _⟩ := join_eq_some joined
  rw [Bool.eq_false_iff, Ne, isEmpty_iff]
  omega

end Operations

end TaskPool

end Foundation
