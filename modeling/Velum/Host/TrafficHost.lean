import Velum.Foundation.OrderedMap
import Velum.Foundation.Script
import Velum.Foundation.TransitionSystem
import Velum.Helper.Protocol

/-!
# The privileged traffic host

The lifecycle shared by the desktop traffic hosts.  A request runs a script of
calls to the recovery journal and to the platform backend.  The calls may
fail, and the process may die between any two of them; what survives is the
journal and what the backend has done.

Two components of the world are not data of the program.  `mayHold` says that
`start` was called and neither `stop` nor `recover` has succeeded since, and
`applied` is the newest configuration whose `start` succeeded and that has
been neither stopped nor recovered.
-/

namespace Velum.Host

open Foundation
open Velum.Helper

def maxCachedResponses : Nat := 256

/-- Root-owned recovery record written before any route or DNS mutation. -/
structure RecoveryRecord where
  profileGeneration : UInt64
  configuration : StartParameters
  deriving DecidableEq

inductive HostFailure where
  | invalidConfiguration
  | platform
  | journal
  deriving DecidableEq, Repr

/-- The calls of a host to its journal (`load`, `write`, `clear`) and to its
platform backend (`start`, `stop`, `recover`). -/
inductive HostCall where
  | load
  | write (record : RecoveryRecord)
  | clear
  | start (configuration : StartParameters)
  | stop
  | recover (record : RecoveryRecord)
  deriving DecidableEq

/-- The calls that a host makes to apply or to undo a configuration outside
recovery. -/
def HostCall.Applies : HostCall → Prop
  | .write _ | .start _ | .stop => True
  | .load | .clear | .recover _ => False

def HostCall.Reply : HostCall → Type
  | .load => Except HostFailure (Option RecoveryRecord)
  | _ => Except HostFailure Unit

abbrev HostScript := Script HostCall HostCall.Reply

namespace Journal

abbrev load : HostScript (Except HostFailure (Option RecoveryRecord)) :=
  Script.call HostCall.load

abbrev write (record : RecoveryRecord) :
    HostScript (Except HostFailure Unit) :=
  Script.call (HostCall.write record)

abbrev clear : HostScript (Except HostFailure Unit) :=
  Script.call HostCall.clear

end Journal

namespace Backend

abbrev start (configuration : StartParameters) :
    HostScript (Except HostFailure Unit) :=
  Script.call (HostCall.start configuration)

abbrev stop : HostScript (Except HostFailure Unit) :=
  Script.call HostCall.stop

abbrev recover (record : RecoveryRecord) :
    HostScript (Except HostFailure Unit) :=
  Script.call (HostCall.recover record)

end Backend

def validNetwork (network : IpNetwork) : Bool :=
  match network.address with
  | .v4 _ => network.prefixLength ≤ 32
  | .v6 _ => network.prefixLength ≤ 128

def validConfiguration (configuration : StartParameters) : Bool :=
  if !(576 ≤ configuration.mtu && configuration.mtu ≤ 9000)
      || configuration.ipv4.isNone && configuration.ipv6.isNone
      || configuration.dns.isEmpty
      || configuration.dns.length > 16 then
    false
  else
    [configuration.ipv4, configuration.ipv6].reduceOption.all validNetwork

structure TrafficHost where
  capabilities : Finset Capability
  state : HostState
  generation : UInt64
  recoveryRequired : Bool
  /-- Responses under the number of their request. -/
  responses : OrderedMap Nat Response

/-- Removes the smallest request identifiers until the cache is within its
bound. -/
def evict (responses : OrderedMap Nat Response) : OrderedMap Nat Response :=
  if responses.size > maxCachedResponses then
    match _found : responses.entries.head? with
    | none => responses
    | some oldest => evict (responses.erase oldest.1)
  else responses
termination_by responses.size
decreasing_by
  have stored : responses.get? oldest.1 = some oldest.2 :=
    OrderedMap.get?_eq_some_iff.mpr (List.mem_of_head? _found)
  have split := (OrderedMap.erase_perm stored).length_eq
  simp only [OrderedMap.size, split, List.length_cons]
  omega

theorem evict_of_size_le {responses : OrderedMap Nat Response}
    (within : responses.size ≤ maxCachedResponses) :
    evict responses = responses := by
  rw [evict, if_neg (Nat.not_lt.mpr within)]

theorem mem_of_mem_evict {responses : OrderedMap Nat Response}
    {entry : Nat × Response} (member : entry ∈ (evict responses).entries) :
    entry ∈ responses.entries := by
  induction responses using evict.induct with
  | case1 responses tooMany none =>
      rw [evict, if_pos tooMany] at member
      split at member
      · exact member
      · rename_i oldest found
        rw [none] at found
        cases found
  | case2 responses tooMany oldest found induction =>
      rw [evict, if_pos tooMany] at member
      split at member
      · exact member
      · rename_i other same
        rw [found] at same
        cases same
        exact (OrderedMap.mem_erase_iff.mp (induction member)).1
  | case3 responses within =>
      rw [evict, if_neg within] at member
      exact member

namespace TrafficHost

/-- The host that `new` builds on what the journal held. -/
def restored (capabilities : Finset Capability)
    (record : Option RecoveryRecord) : TrafficHost :=
  let recoveryRequired := record.isSome
  { capabilities
    state := if recoveryRequired then .recovering else .stopped
    generation := 0
    recoveryRequired
    responses := .empty }

def new (capabilities : Finset Capability) :
    HostScript (Except HostFailure TrafficHost) := do
  match ← Journal.load with
  | .error failure => return .error failure
  | .ok record => return .ok (restored capabilities record)

/-- The calls of the `Start` branch of `execute`. -/
def replace (host : TrafficHost) (request : Request)
    (configuration : StartParameters) :
    HostScript (CommandResult × TrafficHost) := do
  let record : RecoveryRecord := ⟨request.profileGeneration, configuration⟩
  match ← Journal.write record with
  | .error _ => return (.err .platform, { host with state := .failed })
  | .ok _ =>
      match ← Backend.start configuration with
      | .error _ =>
          return (.err .platform,
            { host with state := .recovering, recoveryRequired := true })
      | .ok _ =>
          return (.ok .started,
            { host with
              generation := request.profileGeneration
              state := .running })

/-- The `Start` branch of `execute`. -/
def start (host : TrafficHost) (request : Request)
    (configuration : StartParameters) :
    HostScript (CommandResult × TrafficHost) :=
  if host.recoveryRequired then
    return (.err .recoveryRequired, host)
  else if ¬validConfiguration configuration then
    return (.err .invalidConfiguration, host)
  else if host.state = .starting ∨ host.state = .stopping then
    return (.err .busy, host)
  else if host.state = .running ∧
      request.profileGeneration = host.generation then
    return (.ok .started, host)
  else host.replace request configuration

/-- The calls of the `Stop` branch of `execute`. -/
def undo (host : TrafficHost) (request : Request) :
    HostScript (CommandResult × TrafficHost) := do
  let failed : TrafficHost :=
    { host with state := .recovering, recoveryRequired := true }
  match ← Backend.stop with
  | .error _ => return (.err .platform, failed)
  | .ok _ =>
      match ← Journal.clear with
      | .error _ => return (.err .platform, failed)
      | .ok _ =>
          return (.ok .stopped,
            { host with
              generation := max host.generation request.profileGeneration
              state := .stopped })

/-- The `Stop` branch of `execute`. -/
def stop (host : TrafficHost) (request : Request) :
    HostScript (CommandResult × TrafficHost) :=
  if host.recoveryRequired then
    return (.err .recoveryRequired, host)
  else if host.state = .stopped then
    return (.ok .stopped, host)
  else host.undo request

def recover (host : TrafficHost) :
    HostScript (CommandResult × TrafficHost) := do
  let host := { host with state := .recovering }
  match ← Journal.load with
  | .error _ => return (.err .platform, host)
  | .ok none =>
      return (.ok .recovered,
        { host with recoveryRequired := false, state := .stopped })
  | .ok (some record) =>
      match ← Backend.recover record with
      | .error _ =>
          return (.err .platform, { host with recoveryRequired := true })
      | .ok _ =>
          match ← Journal.clear with
          | .error _ =>
              return (.err .platform, { host with recoveryRequired := true })
          | .ok _ =>
              return (.ok .recovered,
                { host with
                  generation := max host.generation record.profileGeneration
                  recoveryRequired := false
                  state := .stopped })

def execute (host : TrafficHost) (request : Request) :
    HostScript (CommandResult × TrafficHost) :=
  match request.command with
  | .hello => return (.ok .hello, host)
  | .status => return (.ok (.status host.state), host)
  | .recover => host.recover
  | .start configuration => host.start request configuration
  | .stop => host.stop request

def cache (host : TrafficHost) (response : Response) : TrafficHost :=
  { host with
    responses :=
      evict (host.responses.insert response.requestId.toNat response) }

theorem mem_cache {host : TrafficHost} {response : Response}
    {entry : Nat × Response}
    (member : entry ∈ (host.cache response).responses.entries) :
    entry.2 = response ∨ entry ∈ host.responses.entries := by
  rcases OrderedMap.mem_insert_iff.mp (mem_of_mem_evict member) with
    rfl | ⟨old, _⟩
  · exact .inl rfl
  · exact .inr old

/-- The checks that stand before `execute`. -/
def precheck (host : TrafficHost) (request : Request) : Option ErrorCode :=
  if request.version ≠ protocolVersion then some .unsupportedVersion
  else if ¬request.capabilities ⊆ host.capabilities then
    some .unsupportedCapability
  else if request.profileGeneration < host.generation then
    some .generationConflict
  else none

/-- The response to a request, and the host that remembers it. -/
def respond (request : Request) (result : CommandResult)
    (host : TrafficHost) : Response × TrafficHost :=
  let response : Response := {
    version := protocolVersion
    requestId := request.requestId
    profileGeneration := request.profileGeneration
    capabilities := host.capabilities
    response := result }
  (response, host.cache response)

def handle (host : TrafficHost) (request : Request) :
    HostScript (Response × TrafficHost) :=
  match host.responses.get? request.requestId.toNat with
  | some response => return (response, host)
  | none => do
      let (result, host) ←
        match host.precheck request with
        | some code => pure (.err code, host)
        | none => host.execute request
      return respond request result host

end TrafficHost

/-! ## Runs with failing calls and crashes -/

structure World where
  journal : Option RecoveryRecord
  mayHold : Bool
  applied : Option StartParameters
  deriving DecidableEq

/-- What a call may answer and do.  A failing `write` leaves the old record or
the new one, and a failing `clear` leaves the record. -/
def Answers (world : World) :
    (call : HostCall) → call.Reply → World → Prop
  | .load, reply, after =>
      after = world ∧ ((∃ failure, reply = .error failure) ∨
        reply = .ok world.journal)
  | .write record, reply, after =>
      (∃ failure, reply = .error failure ∧
        (after = world ∨ after = { world with journal := some record })) ∨
      reply = .ok () ∧ after = { world with journal := some record }
  | .clear, reply, after =>
      (∃ failure, reply = .error failure ∧ after = world) ∨
      reply = .ok () ∧ after = { world with journal := none }
  | .start configuration, reply, after =>
      (∃ failure, reply = .error failure ∧
        after = { world with mayHold := true }) ∨
      reply = .ok () ∧
        after = { world with mayHold := true, applied := some configuration }
  | .stop, reply, after =>
      (∃ failure, reply = .error failure ∧ after = world) ∨
      reply = .ok () ∧
        after = { world with mayHold := false, applied := none }
  | .recover _, reply, after =>
      (∃ failure, reply = .error failure ∧ after = world) ∨
      reply = .ok () ∧
        after = { world with mayHold := false, applied := none }

inductive Process where
  | down
  | launching (script : HostScript (Except HostFailure TrafficHost))
  | idle (host : TrafficHost)
  /-- The script is what remains of the request; the host is the one that
  received it. -/
  | handling (host : TrafficHost) (request : Request)
      (script : HostScript (Response × TrafficHost))

structure System where
  process : Process
  world : World

inductive Event where
  | launched
  | exited (failure : HostFailure)
  | ready
  | received (request : Request)
  | called (call : HostCall) (reply : call.Reply)
  | responded (response : Response)
  | crashed

inductive Step (capabilities : Finset Capability) :
    System → Event → System → Prop where
  | launched {world : World} :
      Step capabilities ⟨.down, world⟩ .launched
        ⟨.launching (TrafficHost.new capabilities), world⟩
  | launching {world after : World} {call : HostCall} {reply : call.Reply}
      {next : call.Reply → HostScript (Except HostFailure TrafficHost)} :
      Answers world call reply after →
      Step capabilities ⟨.launching (.ask call next), world⟩
        (.called call reply) ⟨.launching (next reply), after⟩
  | exited {world : World} {failure : HostFailure} :
      Step capabilities ⟨.launching (.done (.error failure)), world⟩
        (.exited failure) ⟨.down, world⟩
  | ready {world : World} {host : TrafficHost} :
      Step capabilities ⟨.launching (.done (.ok host)), world⟩ .ready
        ⟨.idle host, world⟩
  | received {world : World} {host : TrafficHost} {request : Request} :
      Step capabilities ⟨.idle host, world⟩ (.received request)
        ⟨.handling host request (host.handle request), world⟩
  | handling {world after : World} {host : TrafficHost} {request : Request}
      {call : HostCall} {reply : call.Reply}
      {next : call.Reply → HostScript (Response × TrafficHost)} :
      Answers world call reply after →
      Step capabilities ⟨.handling host request (.ask call next), world⟩
        (.called call reply) ⟨.handling host request (next reply), after⟩
  | responded {world : World} {host later : TrafficHost} {request : Request}
      {response : Response} :
      Step capabilities
        ⟨.handling host request (.done (response, later)), world⟩
        (.responded response) ⟨.idle later, world⟩
  | crashed {process : Process} {world : World} :
      Step capabilities ⟨process, world⟩ .crashed ⟨.down, world⟩

/-- No process runs, and nothing that was started needs to be undone.  A
record in the journal may be older than this history. -/
def System.Initial (system : System) : Prop :=
  system.process = .down ∧ system.world.mayHold = false ∧
    system.world.applied = none

/-! ## Proving that a run maintains an invariant

A system rests between processes, a host waits between requests, and a script
guarantees what it leaves behind.  The answers and the steps under
consideration may be fewer than all. -/

open Script

namespace TrafficHost

variable {Answer : World → (call : HostCall) → call.Reply → World → Prop}
  {safe : World → HostCall → Prop}
  {post : Response × TrafficHost → World → Prop}

theorem guarantees_handle {host : TrafficHost} {request : Request}
    {world : World}
    (remembered : ∀ response,
      host.responses.get? request.requestId.toNat = some response →
      post (response, host) world)
    (refused : ∀ code, host.precheck request = some code →
      post (respond request (.err code) host) world)
    (executed : Guarantees Answer safe
      (fun result after => post (respond request result.1 result.2) after)
      (host.execute request) world) :
    Guarantees Answer safe post (host.handle request) world := by
  unfold handle
  cases found : host.responses.get? request.requestId.toNat with
  | some response => exact remembered response found
  | none =>
      cases checked : host.precheck request with
      | some code => exact refused code checked
      | none => exact guarantees_bind.mpr executed

variable {result : CommandResult × TrafficHost → World → Prop}

/-- `start` answers at once and leaves the host as it was, or it replaces the
configuration. -/
theorem guarantees_start {host : TrafficHost} {request : Request}
    {configuration : StartParameters} {world : World}
    (atOnce : ∀ answer, (answer = .err .recoveryRequired →
      host.recoveryRequired = true) → result (answer, host) world)
    (replaces : host.recoveryRequired = false →
      Guarantees Answer safe result
        (host.replace request configuration) world) :
    Guarantees Answer safe result (host.start request configuration)
      world := by
  unfold start
  split
  · rename_i required
    exact atOnce _ fun _ => required
  rename_i ready
  split
  · exact atOnce _ (by simp)
  split
  · exact atOnce _ (by simp)
  split
  · exact atOnce _ (by simp)
  · exact replaces (by simpa using ready)

/-- `stop` answers at once and leaves the host as it was, or it undoes the
configuration. -/
theorem guarantees_stop {host : TrafficHost} {request : Request}
    {world : World}
    (atOnce : ∀ answer, (answer = .err .recoveryRequired →
      host.recoveryRequired = true) → result (answer, host) world)
    (undoes : host.recoveryRequired = false →
      Guarantees Answer safe result (host.undo request) world) :
    Guarantees Answer safe result (host.stop request) world := by
  unfold stop
  split
  · rename_i required
    exact atOnce _ fun _ => required
  rename_i ready
  split
  · exact atOnce _ (by simp)
  · exact undoes (by simpa using ready)

end TrafficHost

/-- What is kept of a world while no process runs and while a host waits, what
a request leaves behind, and which calls may be made meanwhile. -/
structure Discipline where
  Answer : TrafficHost → World → (call : HostCall) → call.Reply → World → Prop
  safe : World → HostCall → Prop
  rests : World → Prop
  waits : TrafficHost → World → Prop
  leaves : Response × TrafficHost → World → Prop

namespace Discipline

variable {capabilities : Finset Capability}

/-- The discipline is kept: at rest, while waiting, and by what a running
script still has to do. -/
def Kept (discipline : Discipline) (system : System) : Prop :=
  match system.process with
  | .down => discipline.rests system.world
  | .launching script =>
      Guarantees Answers
        (fun world call => discipline.rests world ∧ call = .load)
        (fun result world => discipline.rests world ∧
          ∀ host, result = .ok host → discipline.waits host world)
        script system.world
  | .idle host => discipline.waits host system.world
  | .handling host _ script =>
      Guarantees (discipline.Answer host) discipline.safe discipline.leaves
        script system.world

/-- What has to be shown of the allowed steps for a discipline to be kept
along them. -/
structure Upheld (discipline : Discipline)
    (capabilities : Finset Capability)
    (allowed : System → Event → System → Prop) : Prop where
  narrow : ∀ {host request script later world call reply after},
    allowed ⟨.handling host request script, world⟩ (.called call reply)
      ⟨later, after⟩ →
    Answers world call reply after →
    discipline.Answer host world call reply after
  born : ∀ {world}, discipline.rests world →
    discipline.waits (.restored capabilities world.journal) world
  handles : ∀ {host world} request, discipline.waits host world →
    Guarantees (discipline.Answer host) discipline.safe discipline.leaves
      (host.handle request) world
  answered : ∀ {host request response later world},
    allowed ⟨.handling host request (.done (response, later)), world⟩
      (.responded response) ⟨.idle later, world⟩ →
    discipline.leaves (response, later) world →
    discipline.waits later world
  dies : ∀ {process world}, discipline.Kept ⟨process, world⟩ →
    allowed ⟨process, world⟩ .crashed ⟨.down, world⟩ → discipline.rests world

variable {discipline : Discipline}
  {allowed : System → Event → System → Prop}

theorem Upheld.new (upheld : discipline.Upheld capabilities allowed)
    {world : World} (resting : discipline.rests world) :
    discipline.Kept ⟨.launching (TrafficHost.new capabilities), world⟩ := by
  refine ⟨⟨resting, rfl⟩, ?_⟩
  rintro reply after ⟨rfl, ⟨failure, rfl⟩ | rfl⟩
  · refine ⟨resting, ?_⟩
    intro host impossible
    cases impossible
  · refine ⟨resting, ?_⟩
    intro host same
    cases same
    exact upheld.born resting

theorem Upheld.step (upheld : discipline.Upheld capabilities allowed)
    {system next : System} {event : Event} (kept : discipline.Kept system)
    (move : Step capabilities system event next ∧
      allowed system event next) : discipline.Kept next := by
  obtain ⟨move, allow⟩ := move
  cases move with
  | launched => exact upheld.new kept
  | launching reply => exact kept.2 _ _ reply
  | exited => exact kept.1
  | ready => exact kept.2 _ rfl
  | received => exact upheld.handles _ kept
  | handling reply => exact kept.2 _ _ (upheld.narrow allow reply)
  | responded => exact upheld.answered allow kept
  | crashed => exact upheld.dies kept allow

theorem Upheld.run (upheld : discipline.Upheld capabilities allowed)
    {initial final : System} {trace : List Event}
    (kept : discipline.Kept initial)
    (run : Run (fun system event next =>
      Step capabilities system event next ∧ allowed system event next)
      initial trace final) : discipline.Kept final :=
  run.invariant kept upheld.step

/-- A call is the reading of the journal at launch, or it is safe. -/
theorem Kept.called {system next : System} {call : HostCall}
    {reply : call.Reply} (kept : discipline.Kept system)
    (move : Step capabilities system (.called call reply) next) :
    call = .load ∨ discipline.safe system.world call := by
  cases move with
  | launching => exact .inl kept.1.2
  | handling => exact .inr kept.1

/-- Every call along a run that keeps the discipline was safe. -/
theorem Upheld.calls (upheld : discipline.Upheld capabilities allowed)
    {initial final : System} {trace : List Event}
    (kept : discipline.Kept initial)
    (run : Run (fun system event next =>
      Step capabilities system event next ∧ allowed system event next)
      initial trace final)
    {call : HostCall} {reply : call.Reply}
    (made : .called call reply ∈ trace) :
    call = .load ∨ ∃ world, discipline.safe world call := by
  obtain ⟨front, back, before, after, _, early, move, _⟩ := run.of_mem made
  rcases (upheld.run kept early).called move.1 with load | safe
  · exact .inl load
  · exact .inr ⟨_, safe⟩

end Discipline

end Velum.Host
