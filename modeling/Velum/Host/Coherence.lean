import Velum.Host.Recovery

/-!
# The reported state and the demand for recovery

A host keeps the state it reports and the flag that makes it refuse in two
variables.  Every branch writes them together, except a recovery that cannot
read the journal: it reports that it is recovering and leaves the flag as it
was.  An identifier that was answered with the demand for recovery gets that
answer again when nothing demands it any more.
-/

namespace Velum.Host

open Foundation
open Foundation.Script
open Velum.Helper

/-- A recovery that nothing demanded and that cannot read the journal. -/
inductive Stumbles (host : TrafficHost) :
    (call : HostCall) → call.Reply → Prop where
  | load {failure : HostFailure} :
      host.recoveryRequired = false → Stumbles host .load (.error failure)

/-- A step in which such a recovery gets its answer. -/
inductive Stumbled : System → Event → System → Prop where
  | called {host : TrafficHost} {request : Request} {later : Process}
      {script : HostScript (Response × TrafficHost)} {world after : World}
      {call : HostCall} {reply : call.Reply} :
      Stumbles host call reply →
      Stumbled ⟨.handling host request script, world⟩ (.called call reply)
        ⟨later, after⟩

/-- The identifier of the request is remembered with the demand for recovery,
which has been met since. -/
def TrafficHost.Repeats (host : TrafficHost) (request : Request) : Prop :=
  host.recoveryRequired = false ∧
    ∃ response, host.responses.get? request.requestId.toNat = some response ∧
      response.response = .err .recoveryRequired

/-- A step in which a host receives such a request. -/
inductive Repeated : System → Event → System → Prop where
  | received {host : TrafficHost} {request : Request} {later : Process}
      {world after : World} :
      host.Repeats request →
      Repeated ⟨.idle host, world⟩ (.received request) ⟨later, after⟩

/-- The steps on which the two variables agree and decide the answers. -/
def Orderly (system : System) (event : Event) (next : System) : Prop :=
  ¬Stumbled system event next ∧ ¬Repeated system event next

namespace TrafficHost

/-- The host reports that it is recovering exactly when it demands it. -/
def Coherent (host : TrafficHost) : Prop :=
  host.state = .recovering ↔ host.recoveryRequired = true

/-- The answers on which this host does not stumble. -/
def Steady (host : TrafficHost) (world : World) (call : HostCall)
    (reply : call.Reply) (after : World) : Prop :=
  Answers world call reply after ∧ ¬Stumbles host call reply

theorem coherent_of_required {host : TrafficHost}
    (recovering : host.state = .recovering)
    (required : host.recoveryRequired = true) : host.Coherent := by
  simp [Coherent, recovering, required]

theorem coherent_of_ready {host : TrafficHost}
    (reported : host.state ≠ .recovering)
    (ready : host.recoveryRequired = false) : host.Coherent := by
  simp [Coherent, reported, ready]

theorem replace_coherent {host : TrafficHost} {request : Request}
    {configuration : StartParameters} {world : World}
    (ready : host.recoveryRequired = false) :
    Guarantees host.Steady (fun _ _ => True)
      (fun result _ => result.2.Coherent)
      (host.replace request configuration) world := by
  refine ⟨trivial, ?_⟩
  rintro reply after ⟨⟨failure, rfl, _⟩ | ⟨rfl, _⟩, _⟩
  · exact coherent_of_ready (by simp) ready
  refine ⟨trivial, ?_⟩
  rintro reply after ⟨⟨failure, rfl, _⟩ | ⟨rfl, _⟩, _⟩
  · exact coherent_of_required rfl rfl
  · exact coherent_of_ready (by simp) ready

theorem undo_coherent {host : TrafficHost} {request : Request}
    {world : World} (ready : host.recoveryRequired = false) :
    Guarantees host.Steady (fun _ _ => True)
      (fun result _ => result.2.Coherent) (host.undo request) world := by
  refine ⟨trivial, ?_⟩
  rintro reply after ⟨⟨failure, rfl, _⟩ | ⟨rfl, _⟩, _⟩
  · exact coherent_of_required rfl rfl
  refine ⟨trivial, ?_⟩
  rintro reply after ⟨⟨failure, rfl, _⟩ | ⟨rfl, _⟩, _⟩
  · exact coherent_of_required rfl rfl
  · exact coherent_of_ready (by simp) ready

theorem recover_coherent {host : TrafficHost} {world : World} :
    Guarantees host.Steady (fun _ _ => True)
      (fun result _ => result.2.Coherent) host.recover world := by
  refine ⟨trivial, ?_⟩
  rintro reply after ⟨⟨_, ⟨failure, rfl⟩ | rfl⟩, steady⟩
  · -- The flag is left as it was, so it has to be set already.
    have required : host.recoveryRequired = true := by
      by_contra unset
      exact steady (.load (by simpa using unset))
    exact coherent_of_required rfl required
  cases world.journal with
  | none => exact coherent_of_ready (by simp) rfl
  | some record =>
      refine ⟨trivial, ?_⟩
      rintro reply later ⟨⟨failure, rfl, _⟩ | ⟨rfl, _⟩, _⟩
      · exact coherent_of_required rfl rfl
      refine ⟨trivial, ?_⟩
      rintro reply final ⟨⟨failure, rfl, _⟩ | ⟨rfl, _⟩, _⟩
      · exact coherent_of_required rfl rfl
      · exact coherent_of_ready (by simp) rfl

theorem execute_coherent {host : TrafficHost} (request : Request)
    {world : World} (coherent : host.Coherent) :
    Guarantees host.Steady (fun _ _ => True)
      (fun result _ => result.2.Coherent) (host.execute request) world := by
  unfold execute
  cases request.command with
  | hello => exact coherent
  | status => exact coherent
  | start configuration =>
      apply guarantees_start
      · intro _ _
        exact coherent
      · intro ready
        exact replace_coherent ready
  | stop =>
      apply guarantees_stop
      · intro _ _
        exact coherent
      · intro ready
        exact undo_coherent ready
  | recover => exact recover_coherent

theorem handle_coherent {host : TrafficHost} (request : Request)
    {world : World} (coherent : host.Coherent) :
    Guarantees host.Steady (fun _ _ => True)
      (fun answer _ => answer.2.Coherent) (host.handle request) world := by
  apply guarantees_handle
  · intro _ _
    exact coherent
  · intro _ _
    exact coherent
  · exact execute_coherent request coherent

theorem restored_coherent (capabilities : Finset Capability)
    (record : Option RecoveryRecord) :
    (restored capabilities record).Coherent := by
  cases record with
  | none => exact coherent_of_ready (by simp [restored]) rfl
  | some record => exact coherent_of_required rfl rfl

end TrafficHost

/-- A waiting host is coherent. -/
def cohering : Discipline where
  Answer := TrafficHost.Steady
  safe := fun _ _ => True
  rests := fun _ => True
  waits := fun host _ => host.Coherent
  leaves := fun answer _ => answer.2.Coherent

theorem cohering_upheld (capabilities : Finset Capability) :
    cohering.Upheld capabilities Orderly where
  narrow := by
    intro host request script later world call reply after orderly answered
    refine ⟨answered, ?_⟩
    intro stumbles
    exact orderly.1 (.called stumbles)
  born := by
    intro world _
    exact TrafficHost.restored_coherent capabilities world.journal
  handles := by
    intro host world request coherent
    exact TrafficHost.handle_coherent request coherent
  answered := by
    intro _ _ _ _ _ _ coherent
    exact coherent
  dies := by
    intro _ _ _ _
    trivial

/-! ## What the two variables decide -/

namespace TrafficHost

theorem precheck_ne_recoveryRequired {host : TrafficHost}
    {request : Request} {code : ErrorCode}
    (refused : host.precheck request = some code) :
    code ≠ .recoveryRequired := by
  unfold precheck at refused
  split at refused
  · cases refused
    simp
  split at refused
  · cases refused
    simp
  split at refused
  · cases refused
    simp
  · cases refused

/-- Only the demand for recovery makes a host execute a command to that
answer. -/
theorem execute_refused (host : TrafficHost) (request : Request)
    (world : World) :
    Guarantees Answers (fun _ _ => True)
      (fun result _ => result.1 = .err .recoveryRequired →
        host.recoveryRequired = true)
      (host.execute request) world := by
  unfold execute
  cases request.command with
  | hello =>
      intro impossible
      cases impossible
  | status =>
      intro impossible
      cases impossible
  | start configuration =>
      apply guarantees_start
      · intro answer required
        exact required
      intro _
      refine ⟨trivial, ?_⟩
      rintro reply after (⟨failure, rfl, _⟩ | ⟨rfl, _⟩)
      · intro impossible
        cases impossible
      refine ⟨trivial, ?_⟩
      rintro reply after (⟨failure, rfl, _⟩ | ⟨rfl, _⟩)
      · intro impossible
        cases impossible
      · intro impossible
        cases impossible
  | stop =>
      apply guarantees_stop
      · intro answer required
        exact required
      intro _
      refine ⟨trivial, ?_⟩
      rintro reply after (⟨failure, rfl, _⟩ | ⟨rfl, _⟩)
      · intro impossible
        cases impossible
      refine ⟨trivial, ?_⟩
      rintro reply after (⟨failure, rfl, _⟩ | ⟨rfl, _⟩)
      · intro impossible
        cases impossible
      · intro impossible
        cases impossible
  | recover =>
      refine ⟨trivial, ?_⟩
      rintro reply after ⟨_, ⟨failure, rfl⟩ | rfl⟩
      · intro impossible
        cases impossible
      cases world.journal with
      | none =>
          intro impossible
          cases impossible
      | some record =>
          refine ⟨trivial, ?_⟩
          rintro reply later (⟨failure, rfl, _⟩ | ⟨rfl, _⟩)
          · intro impossible
            cases impossible
          refine ⟨trivial, ?_⟩
          rintro reply final (⟨failure, rfl, _⟩ | ⟨rfl, _⟩)
          · intro impossible
            cases impossible
          · intro impossible
            cases impossible

theorem handle_refused {host : TrafficHost} {request : Request}
    (unrepeated : ¬host.Repeats request) (world : World) :
    Guarantees Answers (fun _ _ => True)
      (fun answer _ => answer.1.response = .err .recoveryRequired →
        host.recoveryRequired = true)
      (host.handle request) world := by
  apply guarantees_handle
  · intro response found demanded
    by_contra unset
    exact unrepeated ⟨by simpa using unset, response, found, demanded⟩
  · intro code refused demanded
    exact absurd (CommandResult.err.inj demanded)
      (precheck_ne_recoveryRequired refused)
  · exact execute_refused host request world

theorem start_refused {host : TrafficHost} {request : Request}
    {configuration : StartParameters}
    (required : host.recoveryRequired = true)
    (command : request.command = .start configuration) :
    ∃ answer, host.handle request = .done answer := by
  unfold handle
  cases host.responses.get? request.requestId.toNat with
  | some response => exact ⟨_, rfl⟩
  | none =>
      cases host.precheck request with
      | some code => exact ⟨_, rfl⟩
      | none =>
          simp only [execute, command, start_of_required required]
          exact ⟨_, rfl⟩

end TrafficHost

/-- The request under way came to a coherent host.  A start that came while
recovery was demanded is answered at once, and only then is the answer the
demand. -/
def System.Decided (system : System) : Prop :=
  ∀ host request script, system.process = .handling host request script →
    host.Coherent ∧
    (∀ configuration, host.recoveryRequired = true →
      request.command = .start configuration →
      ∃ answer, script = .done answer) ∧
    Guarantees Answers (fun _ _ => True)
      (fun answer _ => answer.1.response = .err .recoveryRequired →
        host.recoveryRequired = true) script system.world

theorem decided_step {capabilities : Finset Capability}
    {system next : System} {event : Event} (kept : cohering.Kept system)
    (decided : system.Decided)
    (step : Step capabilities system event next)
    (orderly : Orderly system event next) : next.Decided := by
  cases step with
  | @received world host request =>
      intro _ _ _ same
      cases same
      have unrepeated : ¬host.Repeats request := fun repeats =>
        orderly.2 (.received repeats)
      refine ⟨kept, ?_, TrafficHost.handle_refused unrepeated world⟩
      intro configuration required command
      exact TrafficHost.start_refused required command
  | handling answered =>
      intro _ _ _ same
      cases same
      obtain ⟨coherent, starts, refuses⟩ := decided _ _ _ rfl
      refine ⟨coherent, ?_, refuses.2 _ _ answered⟩
      intro configuration required command
      obtain ⟨answer, impossible⟩ := starts configuration required command
      cases impossible
  | _ => exact nofun

theorem decided_of_run {capabilities : Finset Capability}
    {initial system : System} {trace : List Event}
    (first : initial.Initial)
    (run : Run (fun system event next => Step capabilities system event next ∧
      Orderly system event next) initial trace system) :
    cohering.Kept system ∧ system.Decided := by
  apply run.invariant
  · obtain ⟨process, world⟩ := initial
    obtain ⟨rfl, _⟩ := first
    exact ⟨trivial, nofun⟩
  · rintro state label next ⟨kept, decided⟩ move
    exact ⟨(cohering_upheld capabilities).step kept move,
      decided_step kept decided move.1 move.2⟩

/-- In every state of a run in which no undemanded recovery stumbles over the
journal and no demand that has been met is repeated from memory: a waiting
host reports that it is recovering exactly when it demands recovery, a start
that comes while it reports so is answered without a call, and no other state
answers a request with the demand. -/
theorem recovering_iff_required {capabilities : Finset Capability}
    {initial system : System} {trace : List Event}
    (first : initial.Initial)
    (run : Run (fun system event next => Step capabilities system event next ∧
      ¬Stumbled system event next ∧ ¬Repeated system event next)
      initial trace system) :
    (∀ host, system.process = .idle host →
      (host.state = .recovering ↔ host.recoveryRequired = true)) ∧
    (∀ host request script configuration,
      system.process = .handling host request script →
      host.state = .recovering → request.command = .start configuration →
      ∃ answer, script = .done answer) ∧
    ∀ host request response later,
      system.process = .handling host request (.done (response, later)) →
      response.response = .err .recoveryRequired →
      host.state = .recovering := by
  obtain ⟨kept, decided⟩ := decided_of_run first run
  refine ⟨?_, ?_, ?_⟩
  · intro host waiting
    obtain ⟨process, world⟩ := system
    subst waiting
    exact kept
  · intro host request script configuration handling recovering command
    obtain ⟨coherent, starts, _⟩ := decided host request script handling
    exact starts configuration (coherent.mp recovering) command
  · intro host request response later handling demanded
    obtain ⟨coherent, _, refuses⟩ := decided _ _ _ handling
    exact coherent.mpr (refuses demanded)

/-- An event that is neither a failure to read the journal nor a request. -/
def Event.Unasked : Event → Prop
  | .called .load reply => ∃ record, reply = .ok record
  | .received _ => False
  | _ => True

theorem orderly_of_unasked {system next : System} {event : Event}
    (unasked : event.Unasked) : Orderly system event next := by
  constructor
  · intro stumbled
    cases stumbled with
    | called stumbles =>
        cases stumbles with
        | load =>
            obtain ⟨record, impossible⟩ := unasked
            cases impossible
  · intro repeated
    cases repeated with
    | received => exact unasked

/-- A restarted host with a record answers its first request, a start, with
the demand. -/
theorem recovering_iff_required_restarted :
    (TrafficHost.restored ∅ (some ⟨1, sampleConfiguration 1500⟩)).state =
        .recovering ∧
      ∃ answer, (TrafficHost.restored ∅
        (some ⟨1, sampleConfiguration 1500⟩)).handle
          (sampleStart 1 1 1500) = .done answer := by
  have unasked := @Run.restrict _ _ _ _ _ _ Event.Unasked (launch_run ∅
    ⟨some ⟨1, sampleConfiguration 1500⟩, false, none⟩) (by
      intro event member
      simp only [List.mem_cons, List.not_mem_nil, or_false] at member
      rcases member with rfl | rfl | rfl
      · trivial
      · exact ⟨_, rfl⟩
      · trivial)
  have orderly : ∀ {system event next},
      Step ∅ system event next ∧ event.Unasked →
      Step ∅ system event next ∧ Orderly system event next := by
    rintro system event next ⟨move, unasked⟩
    exact ⟨move, orderly_of_unasked unasked⟩
  have launched := unasked.mono orderly
  have demanded : ∀ {world next}, Orderly
      ⟨.idle (.restored ∅ (some ⟨1, sampleConfiguration 1500⟩)), world⟩
      (.received (sampleStart 1 1 1500)) next := by
    intro world next
    constructor
    · intro failed
      cases failed
    · intro repeated
      cases repeated with
      | received repeats =>
          obtain ⟨same, _⟩ := repeats
          cases same
  have received := launched.snoc ⟨.received, demanded⟩
  have waiting := (recovering_iff_required ⟨rfl, rfl, rfl⟩ launched).1 _ rfl
  have recovering := waiting.mpr rfl
  have handling := (recovering_iff_required ⟨rfl, rfl, rfl⟩ received).2.1
  exact ⟨recovering, handling _ _ _ _ rfl recovering rfl⟩

/-- A host that was asked to recover and cannot read the journal reports that
it is recovering and still starts. -/
theorem recovering_without_demand :
    ¬∀ initial trace system host, System.Initial initial →
      Run (Step ∅) initial trace system → system.process = .idle host →
      (host.state = .recovering ↔ host.recoveryRequired = true) := by
  intro coherent
  have received := (launch_run ∅ ⟨none, false, none⟩).snoc
    (recover_received _ _ _)
  have failed := received.snoc
    (.handling ⟨rfl, .inl ⟨HostFailure.journal, rfl⟩⟩)
  have answered := failed.snoc .responded
  have contradiction := coherent _ _ _ _ ⟨rfl, rfl, rfl⟩ answered rfl
  exact absurd (contradiction.mp rfl) (by decide)

end Velum.Host
