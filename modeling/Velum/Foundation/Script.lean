import Mathlib.Logic.Basic

/-!
# Scripts of calls to an environment

A script is a program whose only effects are calls to an environment it does
not control: every call is answered, and the rest of the script depends on the
answer.  What a call may do is a relation between worlds, so one script is run
against every failure the environment is capable of.

`Guarantees` is the triple of this language with a condition on every call.
The condition sees the world in which the call is made, so it also speaks of a
process that dies between two calls.
-/

namespace Foundation

inductive Script (Call : Type) (Reply : Call → Type) (Result : Type) where
  | done (result : Result) : Script Call Reply Result
  | ask (call : Call) (next : Reply call → Script Call Reply Result) :
      Script Call Reply Result

namespace Script

variable {Call : Type} {Reply : Call → Type} {Result Final : Type}

def bind : Script Call Reply Result → (Result → Script Call Reply Final) →
    Script Call Reply Final
  | done result, rest => rest result
  | ask call next, rest => ask call fun reply => (next reply).bind rest

def call (request : Call) : Script Call Reply (Reply request) :=
  ask request done

instance : Monad (Script Call Reply) where
  pure := done
  bind := bind

@[simp] theorem pure_eq (result : Result) :
    (pure result : Script Call Reply Result) = done result := rfl

@[simp] theorem done_bind (result : Result)
    (rest : Result → Script Call Reply Final) :
    (done result : Script Call Reply Result) >>= rest = rest result := rfl

@[simp] theorem ask_bind (request : Call)
    (next : Reply request → Script Call Reply Result)
    (rest : Result → Script Call Reply Final) :
    ask request next >>= rest =
      ask request fun reply => next reply >>= rest := rfl

@[simp] theorem call_bind (request : Call)
    (rest : Reply request → Script Call Reply Final) :
    call request >>= rest = ask request rest := rfl

section Environment

variable {World : Type}

/-- The script ends with a result in a world, along answers that the
environment can give. -/
inductive Ends
    (answers : World → (request : Call) → Reply request → World → Prop) :
    World → Script Call Reply Result → Result → World → Prop where
  | done {world : World} {result : Result} :
      Ends answers world (done result) result world
  | ask {world between final : World} {request : Call}
      {reply : Reply request}
      {next : Reply request → Script Call Reply Result} {result : Result} :
      answers world request reply between →
      Ends answers between (next reply) result final →
      Ends answers world (ask request next) result final

/-- A world that the script leaves behind when it is cut off: some of its
calls, from the first on, have been answered. -/
inductive Leads
    (answers : World → (request : Call) → Reply request → World → Prop) :
    World → Script Call Reply Result → World → Prop where
  | stop {world : World} {script : Script Call Reply Result} :
      Leads answers world script world
  | ask {world between final : World} {request : Call}
      {reply : Reply request}
      {next : Reply request → Script Call Reply Result} :
      answers world request reply between →
      Leads answers between (next reply) final →
      Leads answers world (ask request next) final

/-- The environment beside a variable that is computed from the calls and
their answers and that nothing reads. -/
def observing {Ghost : Type}
    (answers : World → (request : Call) → Reply request → World → Prop)
    (observe : (request : Call) → Reply request → Ghost → Ghost)
    (world : World × Ghost) (request : Call) (reply : Reply request)
    (after : World × Ghost) : Prop :=
  answers world.1 request reply after.1 ∧
    after.2 = observe request reply world.2

/-- Every call of the script is made in a world where it is safe, and the
script can only end in a result and a world that meet `post`. -/
def Guarantees
    (answers : World → (request : Call) → Reply request → World → Prop)
    (safe : World → Call → Prop) (post : Result → World → Prop) :
    Script Call Reply Result → World → Prop
  | done result, world => post result world
  | ask request next, world =>
      safe world request ∧ ∀ reply after, answers world request reply after →
        Guarantees answers safe post (next reply) after

variable {answers : World → (request : Call) → Reply request → World → Prop}
  {safe : World → Call → Prop} {post : Result → World → Prop}

@[simp] theorem guarantees_done {result : Result} {world : World} :
    Guarantees answers safe post (done result) world ↔ post result world :=
  Iff.rfl

@[simp] theorem guarantees_ask {request : Call} {world : World}
    {next : Reply request → Script Call Reply Result} :
    Guarantees answers safe post (ask request next) world ↔
      safe world request ∧ ∀ reply after, answers world request reply after →
        Guarantees answers safe post (next reply) after :=
  Iff.rfl

theorem guarantees_bind {script : Script Call Reply Result}
    {rest : Result → Script Call Reply Final}
    {finally_ : Final → World → Prop} {world : World} :
    Guarantees answers safe finally_ (script >>= rest) world ↔
      Guarantees answers safe
        (fun result after =>
          Guarantees answers safe finally_ (rest result) after)
        script world := by
  induction script generalizing world with
  | done result => rfl
  | ask request next induction =>
      simp only [ask_bind, guarantees_ask, induction]

/-- The rule for scripts that may raise a failure. -/
theorem guarantees_bind_except {Failure : Type}
    {script : ExceptT Failure (Script Call Reply) Result}
    {rest : Result → ExceptT Failure (Script Call Reply) Final}
    {finally_ : Except Failure Final → World → Prop} {world : World} :
    Guarantees answers safe finally_
        (script >>= rest : ExceptT Failure (Script Call Reply) Final) world ↔
      Guarantees answers safe
        (fun result after =>
          match result with
          | .ok value => Guarantees answers safe finally_ (rest value) after
          | .error failure => finally_ (.error failure) after)
        script world := by
  refine guarantees_bind.trans ?_
  apply iff_of_eq
  congr 1
  funext result after
  cases result with
  | ok value => rfl
  | error failure => rfl

/-- The rule for scripts that catch a failure. -/
theorem guarantees_tryCatch {Failure : Type}
    {script : ExceptT Failure (Script Call Reply) Result}
    {handler : Failure → ExceptT Failure (Script Call Reply) Result}
    {finally_ : Except Failure Result → World → Prop} {world : World} :
    Guarantees answers safe finally_
        (tryCatch script handler : ExceptT Failure (Script Call Reply) Result)
        world ↔
      Guarantees answers safe
        (fun result after =>
          match result with
          | .ok value => finally_ (.ok value) after
          | .error failure =>
              Guarantees answers safe finally_ (handler failure) after)
        script world := by
  refine guarantees_bind.trans ?_
  apply iff_of_eq
  congr 1
  funext result after
  cases result with
  | ok value => rfl
  | error failure => rfl

/-- The rule of consequence. -/
theorem Guarantees.mono {weaker : World → Call → Prop}
    {later : Result → World → Prop} {script : Script Call Reply Result}
    {world : World}
    (held : Guarantees answers safe post script world)
    (calls : ∀ {world request}, safe world request → weaker world request)
    (ends : ∀ {result world}, post result world → later result world) :
    Guarantees answers weaker later script world := by
  induction script generalizing world with
  | done result => exact ends held
  | ask request next induction =>
      refine ⟨calls held.1, ?_⟩
      intro reply after answered
      exact induction reply (held.2 reply after answered)

/-- A script that may raise a failure returns or raises in a world that meets
the condition. -/
def Yields {Failure : Type}
    (answers : World → (request : Call) → Reply request → World → Prop)
    (script : ExceptT Failure (Script Call Reply) Result)
    (world : World) (returns : Result → World → Prop)
    (raises : Failure → World → Prop) : Prop :=
  Guarantees answers (fun _ _ => True)
    (fun result after =>
      match result with
      | .ok value => returns value after
      | .error failure => raises failure after)
    script world

section Yields

variable {Failure : Type}
  {script : ExceptT Failure (Script Call Reply) Result} {world : World}
  {returns : Result → World → Prop} {raises : Failure → World → Prop}

@[simp] theorem yields_pure {value : Result} :
    Yields answers (pure value : ExceptT Failure (Script Call Reply) Result)
      world returns raises ↔ returns value world :=
  Iff.rfl

@[simp] theorem yields_throw {failure : Failure} :
    Yields answers
      (throw failure : ExceptT Failure (Script Call Reply) Result) world
      returns raises ↔ raises failure world :=
  Iff.rfl

@[simp] theorem yields_bind
    {rest : Result → ExceptT Failure (Script Call Reply) Final}
    {finally_ : Final → World → Prop} :
    Yields answers (script >>= rest) world finally_ raises ↔
      Yields answers script world
        (fun value after => Yields answers (rest value) after finally_ raises)
        raises :=
  guarantees_bind_except

@[simp] theorem yields_tryCatch
    {handler : Failure → ExceptT Failure (Script Call Reply) Result} :
    Yields answers (tryCatch script handler) world returns raises ↔
      Yields answers script world returns
        (fun failure after =>
          Yields answers (handler failure) after returns raises) :=
  guarantees_tryCatch

/-- The result of a script as a value. -/
theorem yields_lift {answered : Except Failure Result → World → Prop} :
    Yields answers
      (ExceptT.lift script : ExceptT Failure (Script Call Reply)
        (Except Failure Result)) world answered raises ↔
      Yields answers script world
        (fun value after => answered (.ok value) after)
        (fun failure after => answered (.error failure) after) := by
  unfold Yields
  refine guarantees_bind.trans ?_
  apply iff_of_eq
  congr 1
  funext result after
  cases result with
  | ok value => rfl
  | error failure => rfl

theorem Yields.mono {later : Result → World → Prop}
    {louder : Failure → World → Prop}
    (held : Yields answers script world returns raises)
    (values : ∀ {value after}, returns value after → later value after)
    (failures : ∀ {failure after}, raises failure after →
      louder failure after) :
    Yields answers script world later louder := by
  refine Guarantees.mono held (fun _ => trivial) ?_
  intro result after reached
  cases result with
  | ok value => exact values reached
  | error failure => exact failures reached

end Yields

theorem guarantees_of_always
    (calls : ∀ world request, safe world request)
    (ends : ∀ result world, post result world)
    (script : Script Call Reply Result) (world : World) :
    Guarantees answers safe post script world := by
  induction script generalizing world with
  | done result => exact ends result world
  | ask request next induction =>
      refine ⟨calls world request, ?_⟩
      intro reply after _
      exact induction reply after

theorem Guarantees.of_ends {script : Script Call Reply Result}
    {result : Result} {world final : World}
    (held : Guarantees answers safe post script world)
    (ended : Ends answers world script result final) : post result final := by
  induction ended with
  | done => exact held
  | ask answered _ induction => exact induction (held.2 _ _ answered)

theorem Yields.of_ends {Failure : Type}
    {script : ExceptT Failure (Script Call Reply) Result}
    {returns : Result → World → Prop} {raises : Failure → World → Prop}
    {result : Except Failure Result} {world final : World}
    (held : Yields answers script world returns raises)
    (ended : Ends answers world script result final) :
    (∀ value, result = .ok value → returns value final) ∧
      ∀ failure, result = .error failure → raises failure final := by
  have reached := Guarantees.of_ends held ended
  constructor
  · rintro value rfl
    exact reached
  · rintro failure rfl
    exact reached

/-- The ends of a script in an environment of which the world is a part. -/
theorem Ends.part {Whole : Type} {part : Whole → World}
    {whole : Whole → (request : Call) → Reply request → Whole → Prop}
    {script : Script Call Reply Result} {result : Result}
    {world final : Whole}
    (parts : ∀ {world request reply after}, whole world request reply after →
      answers (part world) request reply (part after))
    (ended : Ends whole world script result final) :
    Ends answers (part world) script result (part final) := by
  induction ended with
  | done => exact .done
  | ask answered _ induction => exact .ask (parts answered) induction

/-- What holds wherever a call is safe, and at the end, holds wherever the
script is cut off. -/
theorem Guarantees.of_leads {kept : World → Prop}
    {script : Script Call Reply Result} {world final : World}
    (held : Guarantees answers safe post script world)
    (calls : ∀ {world request}, safe world request → kept world)
    (ends : ∀ {result world}, post result world → kept world)
    (cut : Leads answers world script final) : kept final := by
  induction cut with
  | @stop world script =>
      cases script with
      | done result => exact ends held
      | ask request next => exact calls held.1
  | ask answered _ induction => exact induction (held.2 _ _ answered)

theorem Ends.leads {script : Script Call Reply Result} {result : Result}
    {world final : World} (ended : Ends answers world script result final) :
    Leads answers world script final := by
  induction ended with
  | done => exact .stop
  | ask answered _ induction => exact .ask answered induction

/-- What every answer preserves holds wherever the script is cut off. -/
theorem Leads.invariant {good : World → Prop}
    {script : Script Call Reply Result} {world final : World}
    (kept : ∀ {world request reply after}, good world →
      answers world request reply after → good after)
    (cut : Leads answers world script final) (start : good world) :
    good final := by
  induction cut with
  | stop => exact start
  | ask answered _ induction => exact induction (kept start answered)

@[simp] theorem ends_done_iff {result other : Result} {world final : World} :
    Ends answers world (done result) other final ↔
      other = result ∧ final = world := by
  constructor
  · intro ended
    cases ended
    exact ⟨rfl, rfl⟩
  · rintro ⟨rfl, rfl⟩
    exact .done

theorem ends_bind_iff {script : Script Call Reply Result}
    {rest : Result → Script Call Reply Final} {result : Final}
    {world final : World} :
    Ends answers world (script >>= rest) result final ↔
      ∃ middle between, Ends answers world script middle between ∧
        Ends answers between (rest middle) result final := by
  constructor
  · intro ended
    induction script generalizing world with
    | done middle => exact ⟨middle, world, .done, ended⟩
    | ask request next induction =>
        cases ended with
        | ask answered later =>
            obtain ⟨middle, between, front, back⟩ := induction _ later
            exact ⟨middle, between, .ask answered front, back⟩
  · rintro ⟨middle, between, front, back⟩
    induction front with
    | done => exact back
    | ask answered _ induction => exact .ask answered (induction back)

end Environment

/-! ## An environment that computes its answers -/

section Run

variable {World : Type}
  {perform : World → (request : Call) → Reply request × World}

/-- The result of the script and the world after it. -/
def run (perform : World → (request : Call) → Reply request × World) :
    Script Call Reply Result → World → Result × World
  | done result, world => (result, world)
  | ask request next, world =>
      (next (perform world request).1).run perform (perform world request).2

@[simp] theorem run_done (result : Result) (world : World) :
    (done result : Script Call Reply Result).run perform world =
      (result, world) := rfl

@[simp] theorem run_call (request : Call) (world : World) :
    (call request : Script Call Reply _).run perform world =
      perform world request := rfl

theorem run_bind (script : Script Call Reply Result)
    (rest : Result → Script Call Reply Final) (world : World) :
    (script >>= rest).run perform world =
      (rest (script.run perform world).1).run perform
        (script.run perform world).2 := by
  induction script generalizing world with
  | done result => rfl
  | ask request next induction =>
      rw [ask_bind, run, induction]
      rfl

/-- The run of scripts that may raise a failure, when the first one ends with
a value. -/
theorem run_bind_ok {Failure : Type}
    {script : ExceptT Failure (Script Call Reply) Result}
    {rest : Result → ExceptT Failure (Script Call Reply) Final}
    {world between : World} {result : Result}
    (ended : Script.run perform script world = (.ok result, between)) :
    Script.run perform
        (script >>= rest : ExceptT Failure (Script Call Reply) Final) world =
      Script.run perform (rest result) between := by
  refine (run_bind _ _ _).trans ?_
  rw [ended]
  rfl

theorem run_tryCatch_ok {Failure : Type}
    {script : ExceptT Failure (Script Call Reply) Result}
    {handler : Failure → ExceptT Failure (Script Call Reply) Result}
    {world between : World} {result : Result}
    (ended : Script.run perform script world = (.ok result, between)) :
    Script.run perform
        (tryCatch script handler : ExceptT Failure (Script Call Reply) Result)
        world = (.ok result, between) := by
  refine (run_bind _ _ _).trans ?_
  rw [ended]
  rfl

/-- A run is one of the ways in which the script can end. -/
theorem ends_run
    {answers : World → (request : Call) → Reply request → World → Prop}
    (answered : ∀ world request, answers world request
      (perform world request).1 (perform world request).2)
    (script : Script Call Reply Result) (world : World) :
    Ends answers world script (script.run perform world).1
      (script.run perform world).2 := by
  induction script generalizing world with
  | done result => exact .done
  | ask request next induction =>
      exact .ask (answered world request) (induction _ _)

/-- The answers of such an environment as a relation, together with the
failures it may have besides. -/
def faulty (faults : Prop)
    (fails : World → (request : Call) → Reply request → World → Prop)
    (perform : World → (request : Call) → Reply request × World)
    (world : World) (request : Call) (reply : Reply request)
    (after : World) : Prop :=
  perform world request = (reply, after) ∨
    faults ∧ fails world request reply after

variable {Ghost : Type} {faults : Prop}
  {fails : World → (request : Call) → Reply request → World → Prop}
  {observe : (request : Call) → Reply request → Ghost → Ghost}
  {safe : World × Ghost → Call → Prop}

/-- The answers beside a variable that observes them. -/
def observed (perform : World → (request : Call) → Reply request × World)
    (observe : (request : Call) → Reply request → Ghost → Ghost)
    (world : World × Ghost) (request : Call) :
    Reply request × (World × Ghost) :=
  ((perform world.1 request).1, ((perform world.1 request).2,
    observe request (perform world.1 request).1 world.2))

/-- What a script guarantees without faults is one of its ends. -/
theorem Guarantees.ends {post : Result → World × Ghost → Prop}
    {script : Script Call Reply Result} {state : World × Ghost}
    (held : Guarantees (observing (faulty False fails perform) observe) safe
      post script state) :
    ∃ result after, Ends (observing (faulty faults fails perform) observe)
      state script result after ∧ post result after := by
  induction script generalizing state with
  | done result => exact ⟨result, state, .done, held⟩
  | ask request next induction =>
      obtain ⟨result, after, ended, met⟩ :=
        induction _ (held.2 _ (_, _) ⟨.inl rfl, rfl⟩)
      exact ⟨result, after, .ask ⟨.inl rfl, rfl⟩ ended, met⟩

/-- What a script guarantees holds of its run. -/
theorem Guarantees.of_run {post : Result → World × Ghost → Prop}
    {script : Script Call Reply Result} {world : World} {ghost : Ghost}
    (held : Guarantees (observing (faulty faults fails perform) observe) safe
      post script (world, ghost)) :
    ∃ after, post (script.run perform world).1
      ((script.run perform world).2, after) := by
  induction script generalizing world ghost with
  | done result => exact ⟨ghost, held⟩
  | ask request next induction =>
      exact induction _ (held.2 _ (_, _) ⟨.inl rfl, rfl⟩)

end Run

/-! ## A script beside other calls -/

section Beside

variable {Other : Type} {OtherReply : Other → Type}

/-- The script as one that could also make other calls. -/
def inRight : Script Call Reply Result →
    Script (Other ⊕ Call) (Sum.elim OtherReply Reply) Result
  | done result => done result
  | ask request next => ask (.inr request) fun reply => (next reply).inRight

/-- Two environments side by side. -/
def beside {World OtherWorld : Type}
    (other : OtherWorld → (request : Other) → OtherReply request × OtherWorld)
    (perform : World → (request : Call) → Reply request × World)
    (world : OtherWorld × World) :
    (request : Other ⊕ Call) →
      Sum.elim OtherReply Reply request × (OtherWorld × World)
  | .inl request =>
      ((other world.1 request).1, ((other world.1 request).2, world.2))
  | .inr request =>
      ((perform world.2 request).1, (world.1, (perform world.2 request).2))

theorem beside_inr {World OtherWorld : Type}
    {other : OtherWorld → (request : Other) →
      OtherReply request × OtherWorld}
    {perform : World → (request : Call) → Reply request × World}
    {left : OtherWorld} {world after : World} {request : Call}
    {reply : Reply request}
    (answered : perform world request = (reply, after)) :
    beside other perform (left, world) (.inr request) =
      (reply, (left, after)) :=
  congrArg (fun answer => (answer.1, (left, answer.2))) answered

theorem run_inRight {World OtherWorld : Type}
    {other : OtherWorld → (request : Other) →
      OtherReply request × OtherWorld}
    {perform : World → (request : Call) → Reply request × World}
    (script : Script Call Reply Result) (left : OtherWorld) (world : World) :
    (script.inRight : Script (Other ⊕ Call) _ Result).run
        (beside other perform) (left, world) =
      ((script.run perform world).1, (left, (script.run perform world).2)) := by
  induction script generalizing world with
  | done result => rfl
  | ask request next induction => exact induction _ _

end Beside

end Script

end Foundation
