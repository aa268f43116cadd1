import Velum.Host.Recovery

/-!
# Retried requests

A host remembers its responses under the number of their request, and drops
the smallest numbers when there are too many.  A number below all remembered
ones is dropped as soon as it is remembered, so its retry is handled again.
-/

namespace Velum.Host

open Foundation
open Foundation.Script
open Velum.Helper

/-! ## The bounded cache -/

theorem size_insert_of_absent {responses : OrderedMap Nat Response}
    {id : Nat} (absent : responses.get? id = none) (response : Response) :
    (responses.insert id response).size = responses.size + 1 := by
  have perm := (responses.insert_perm id response).length_eq
  rw [OrderedMap.erase_of_get?_eq_none absent] at perm
  exact perm

theorem evict_of_head {responses : OrderedMap Nat Response}
    {oldest : Nat × Response} (tooMany : responses.size > maxCachedResponses)
    (head : responses.entries.head? = some oldest) :
    evict responses = evict (responses.erase oldest.1) := by
  rw [evict, if_pos tooMany]
  split
  · rename_i none
    rw [head] at none
    cases none
  · rename_i other same
    rw [head] at same
    cases same
    rfl

theorem size_erase_head {responses : OrderedMap Nat Response}
    {oldest : Nat × Response}
    (head : responses.entries.head? = some oldest) :
    responses.size = (responses.erase oldest.1).size + 1 := by
  have stored : responses.get? oldest.1 = some oldest.2 :=
    OrderedMap.get?_eq_some_iff.mpr (List.mem_of_head? head)
  exact (OrderedMap.erase_perm stored).length_eq

theorem size_evict_le (responses : OrderedMap Nat Response) :
    (evict responses).size ≤ maxCachedResponses := by
  induction responses using evict.induct with
  | case1 responses tooMany none =>
      have empty : responses.entries = [] := List.head?_eq_none_iff.mp none
      simp [OrderedMap.size, empty, maxCachedResponses] at tooMany
  | case2 responses tooMany oldest found induction =>
      rw [evict_of_head tooMany found]
      exact induction
  | case3 responses within =>
      rw [evict, if_neg within]
      exact Nat.not_lt.mp within

/-- One response too many costs the smallest number. -/
theorem evict_insert_of_full {responses : OrderedMap Nat Response}
    {id : Nat} {response : Response} {oldest : Nat × Response}
    (absent : responses.get? id = none)
    (full : responses.size = maxCachedResponses)
    (head : (responses.insert id response).entries.head? = some oldest) :
    evict (responses.insert id response) =
      (responses.insert id response).erase oldest.1 := by
  have size := size_insert_of_absent absent response
  have erased := size_erase_head head
  rw [evict_of_head (by omega) head, evict_of_size_le (by omega)]

/-- The host keeps the response to a request with this number. -/
def TrafficHost.Retains (host : TrafficHost) (request : Request) : Prop :=
  (host.responses.get? request.requestId.toNat).isSome = true ∨
  host.responses.size < maxCachedResponses ∨
  ∃ entry ∈ host.responses.entries, entry.1 < request.requestId.toNat

theorem get?_evict_insert {responses : OrderedMap Nat Response} {id : Nat}
    (response : Response) (absent : responses.get? id = none)
    (within : responses.size ≤ maxCachedResponses)
    (room : responses.size < maxCachedResponses ∨
      ∃ entry ∈ responses.entries, entry.1 < id) :
    (evict (responses.insert id response)).get? id = some response := by
  by_cases space : responses.size < maxCachedResponses
  · have size := size_insert_of_absent absent response
    rw [evict_of_size_le (by omega)]
    exact OrderedMap.get?_insert_self _ _ _
  · obtain ⟨entry, member, below⟩ := room.resolve_left space
    have kept : entry ∈ responses.entries.filter fun entry => entry.1 < id :=
      List.mem_filter.mpr ⟨member, by simpa using below⟩
    obtain ⟨oldest, rest, front⟩ := List.exists_cons_of_ne_nil
      (List.ne_nil_of_mem kept)
    have oldestBelow : oldest.1 < id := by
      have inside : oldest ∈ responses.entries.filter
          fun entry => entry.1 < id := by
        rw [front]
        exact List.mem_cons_self
      simpa using (List.mem_filter.mp inside).2
    have head : (responses.insert id response).entries.head? =
        some oldest := by
      simp only [OrderedMap.insert, front, List.cons_append, List.head?_cons]
    rw [evict_insert_of_full absent (by omega) head,
      OrderedMap.get?_erase_of_ne _ oldestBelow.ne']
    exact OrderedMap.get?_insert_self _ _ _

/-- A number below all of a full cache is dropped at once. -/
theorem evict_insert_below {responses : OrderedMap Nat Response} {id : Nat}
    (response : Response) (full : responses.size = maxCachedResponses)
    (below : ∀ entry ∈ responses.entries, id < entry.1) :
    evict (responses.insert id response) = responses := by
  have lower : responses.entries.filter (fun entry => entry.1 < id) = [] := by
    rw [List.filter_eq_nil_iff]
    intro entry member
    have above := below entry member
    simp only [decide_eq_true_eq]
    omega
  have upper : responses.entries.filter (fun entry => id < entry.1) =
      responses.entries := by
    rw [List.filter_eq_self]
    intro entry member
    simpa using below entry member
  have inserted : (responses.insert id response).entries =
      (id, response) :: responses.entries := by
    simp only [OrderedMap.insert, lower, upper, List.nil_append]
  have absent : responses.get? id = none := by
    rw [OrderedMap.get?_eq_none_iff]
    intro entry member
    exact (below entry member).ne'
  have head : (responses.insert id response).entries.head? =
      some (id, response) := by
    rw [inserted, List.head?_cons]
  rw [evict_insert_of_full absent full head]
  have erased : ((responses.insert id response).erase id).entries =
      responses.entries := by
    simp only [OrderedMap.erase, inserted]
    rw [List.filter_cons_of_neg (by simp), List.filter_eq_self]
    intro entry member
    simpa using (below entry member).ne'
  obtain ⟨entries, sorted⟩ := responses
  rw [OrderedMap.mk.injEq]
  exact erased

/-! ## Handling a request twice -/

namespace TrafficHost

/-- The request is answered without a call to the journal or the backend. -/
def Silent (host : TrafficHost) (request : Request) : Prop :=
  request.version ≠ protocolVersion ∨
  ¬request.capabilities ⊆ host.capabilities ∨
  request.profileGeneration < host.generation ∨
  match request.command with
  | .hello | .status => True
  | .recover => False
  | .start configuration =>
      host.recoveryRequired = true ∨
      validConfiguration configuration = false ∨
      host.state = .starting ∨ host.state = .stopping ∨
      host.state = .running ∧ request.profileGeneration = host.generation
  | .stop => host.recoveryRequired = true ∨ host.state = .stopped

theorem precheck_eq_none_iff {host : TrafficHost} {request : Request} :
    host.precheck request = none ↔
      request.version = protocolVersion ∧
      request.capabilities ⊆ host.capabilities ∧
      ¬request.profileGeneration < host.generation := by
  unfold precheck
  split_ifs <;> simp_all

variable {host : TrafficHost} {request : Request}

theorem handle_of_remembered {response : Response}
    (found : host.responses.get? request.requestId.toNat = some response) :
    host.handle request = .done (response, host) := by
  simp only [handle, found, pure_eq]

theorem handle_of_refused {code : ErrorCode}
    (fresh : host.responses.get? request.requestId.toNat = none)
    (refused : host.precheck request = some code) :
    host.handle request = .done (respond request (.err code) host) := by
  simp only [handle, fresh, refused]
  rfl

theorem handle_of_executed
    (fresh : host.responses.get? request.requestId.toNat = none)
    (checked : host.precheck request = none) :
    host.handle request =
      host.execute request >>= fun answer =>
        .done (respond request answer.1 answer.2) := by
  simp only [handle, fresh, checked]
  rfl

theorem execute_of_silent (silent : host.Silent request)
    (checked : host.precheck request = none) :
    ∃ result, host.execute request = .done (result, host) := by
  obtain ⟨version, capable, current⟩ := precheck_eq_none_iff.mp checked
  have reason := ((silent.resolve_left (not_not.mpr version)).resolve_left
    (not_not.mpr capable)).resolve_left current
  unfold execute
  cases command : request.command with
  | hello => exact ⟨_, rfl⟩
  | status => exact ⟨_, rfl⟩
  | recover =>
      rw [command] at reason
      exact reason.elim
  | start configuration =>
      rw [command] at reason
      simp only [start]
      split_ifs <;> first | exact ⟨_, rfl⟩ | simp_all
  | stop =>
      rw [command] at reason
      simp only [stop]
      split_ifs <;> first | exact ⟨_, rfl⟩ | simp_all

/-- Executing a command leaves the remembered responses alone. -/
theorem execute_keeps_responses (host : TrafficHost) (request : Request)
    (world : World) :
    Guarantees Answers (fun _ _ => True)
      (fun result _ => result.2.responses = host.responses)
      (host.execute request) world := by
  unfold execute
  cases request.command with
  | hello => rfl
  | status => rfl
  | start configuration =>
      apply guarantees_start
      · intro _ _
        rfl
      intro _
      refine ⟨trivial, ?_⟩
      rintro (failure | done) after _
      · rfl
      refine ⟨trivial, ?_⟩
      rintro (failure | done) after _
      · rfl
      · rfl
  | stop =>
      apply guarantees_stop
      · intro _ _
        rfl
      intro _
      refine ⟨trivial, ?_⟩
      rintro (failure | done) after _
      · rfl
      refine ⟨trivial, ?_⟩
      rintro (failure | done) after _
      · rfl
      · rfl
  | recover =>
      refine ⟨trivial, ?_⟩
      rintro (failure | _ | record) after _
      · rfl
      · rfl
      refine ⟨trivial, ?_⟩
      rintro (failure | done) after _
      · rfl
      refine ⟨trivial, ?_⟩
      rintro (failure | done) after _
      · rfl
      · rfl

theorem ends_handle {world final : World}
    {answer : Response × TrafficHost}
    (fresh : host.responses.get? request.requestId.toNat = none)
    (ended : Ends Answers world (host.handle request) answer final) :
    ∃ result before, before.responses = host.responses ∧
      answer = respond request result before := by
  cases checked : host.precheck request with
  | some code =>
      rw [handle_of_refused fresh checked, ends_done_iff] at ended
      exact ⟨_, host, rfl, ended.1⟩
  | none =>
      rw [handle_of_executed fresh checked, ends_bind_iff] at ended
      obtain ⟨⟨result, before⟩, between, executed, responded⟩ := ended
      rw [ends_done_iff] at responded
      refine ⟨result, before, ?_, responded.1⟩
      exact (execute_keeps_responses host request world).of_ends executed

/-- Handling the request again, whatever the first handling met, gives the
same response without a call and changes nothing. -/
def Idempotent (host : TrafficHost) (request : Request) (world : World) :
    Prop :=
  ∀ response later final,
    Ends Answers world (host.handle request) (response, later) final →
    later.handle request = .done (response, later)

theorem idempotent_of_retained {world : World}
    (within : host.responses.size ≤ maxCachedResponses)
    (retained : host.Retains request) : host.Idempotent request world := by
  intro response later final ended
  cases found : host.responses.get? request.requestId.toNat with
  | some remembered =>
      rw [handle_of_remembered found, ends_done_iff] at ended
      cases ended.1
      exact handle_of_remembered found
  | none =>
      have room := retained.resolve_left (by simp [found])
      obtain ⟨result, before, kept, answer⟩ := ends_handle found ended
      cases answer
      apply handle_of_remembered
      rw [← kept] at found within room
      exact get?_evict_insert _ found within room

/-- A request that is not retained leaves no trace in the cache. -/
theorem respond_of_not_retained {before : TrafficHost}
    {result : CommandResult}
    (within : host.responses.size ≤ maxCachedResponses)
    (dropped : ¬host.Retains request)
    (kept : before.responses = host.responses) :
    (respond request result before).2 = before := by
  unfold Retains at dropped
  push Not at dropped
  obtain ⟨absent, full, above⟩ := dropped
  have below : ∀ entry ∈ before.responses.entries,
      request.requestId.toNat < entry.1 := by
    intro entry member
    rw [kept] at member
    refine lt_of_le_of_ne (above entry member) ?_
    intro same
    apply absent
    rw [same, OrderedMap.get?_eq_some_iff.mpr member]
    rfl
  have size : before.responses.size = maxCachedResponses := by
    rw [kept]
    omega
  simp only [respond, cache, evict_insert_below _ size below]

theorem idempotent_of_silent {world : World}
    (within : host.responses.size ≤ maxCachedResponses)
    (dropped : ¬host.Retains request) (silent : host.Silent request) :
    host.Idempotent request world := by
  intro response later final ended
  have fresh : host.responses.get? request.requestId.toNat = none := by
    by_contra found
    exact dropped (.inl (Option.isSome_iff_ne_none.mpr found))
  have atOnce : ∃ result, host.handle request =
      .done (respond request result host) := by
    cases checked : host.precheck request with
    | some code => exact ⟨_, handle_of_refused fresh checked⟩
    | none =>
        obtain ⟨result, executed⟩ := execute_of_silent silent checked
        refine ⟨result, ?_⟩
        rw [handle_of_executed fresh checked, executed, done_bind]
  obtain ⟨result, handled⟩ := atOnce
  rw [handled, ends_done_iff] at ended
  have same : (respond request result host).2 = host :=
    respond_of_not_retained within dropped rfl
  have later_eq : later = host := by
    rw [← same, ← ended.1]
  rw [later_eq, handled, ← ended.1, later_eq]

/-- A retry that has to be executed again. -/
theorem handle_again {later : TrafficHost}
    (fresh : host.responses.get? request.requestId.toNat = none)
    (checked : host.precheck request = none)
    (kept : later.responses = host.responses)
    (capabilities : later.capabilities = host.capabilities)
    (generation : later.generation = host.generation) :
    later.handle request =
      later.execute request >>= fun answer =>
        .done (respond request answer.1 answer.2) := by
  apply handle_of_executed
  · rw [kept]
    exact fresh
  · rw [← checked]
    simp only [precheck, capabilities, generation]

/-- A request that is neither retained nor silent can fail, and its retry then
calls again or answers otherwise. -/
theorem not_idempotent {world : World}
    (within : host.responses.size ≤ maxCachedResponses)
    (dropped : ¬host.Retains request) (loud : ¬host.Silent request) :
    ¬host.Idempotent request world := by
  intro idempotent
  have fresh : host.responses.get? request.requestId.toNat = none := by
    by_contra found
    exact dropped (.inl (Option.isSome_iff_ne_none.mpr found))
  simp only [Silent, not_or, ne_eq, not_not] at loud
  obtain ⟨version, capable, current, reason⟩ := loud
  have checked : host.precheck request = none :=
    precheck_eq_none_iff.mpr ⟨version, capable, current⟩
  have again : ∀ {later : TrafficHost} {result : CommandResult},
      Ends Answers world (host.execute request) (result, later) world →
      later.responses = host.responses →
      later.capabilities = host.capabilities →
      later.generation = host.generation →
      (later.execute request >>= fun answer =>
          .done (respond request answer.1 answer.2)) =
        .done (respond request result later) := by
    intro later result executed kept capabilities generation
    have same : (respond request result later).2 = later :=
      respond_of_not_retained within dropped kept
    have ended : Ends Answers world (host.handle request)
        (respond request result later) world := by
      rw [handle_of_executed fresh checked]
      exact ends_bind_iff.mpr ⟨_, world, executed, .done⟩
    have retried : (respond request result later).2.handle request =
        .done (respond request result later) := idempotent _ _ _ ended
    rw [same] at retried
    rw [← handle_again fresh checked kept capabilities generation, retried]
  cases command : request.command with
  | hello =>
      rw [command] at reason
      exact reason trivial
  | status =>
      rw [command] at reason
      exact reason trivial
  | recover =>
      have executed : Ends Answers world (host.execute request)
          (.err .platform, { host with state := .recovering }) world := by
        simp only [execute, command]
        exact .ask ⟨rfl, .inl ⟨.journal, rfl⟩⟩ .done
      have impossible := again executed rfl rfl rfl
      simp only [execute, command] at impossible
      cases impossible
  | start configuration =>
      rw [command] at reason
      simp only [not_or] at reason
      obtain ⟨ready, valid, starting, stopping, other⟩ := reason
      have replaces : ∀ state, state ≠ .starting → state ≠ .stopping →
          ¬(state = .running ∧ request.profileGeneration = host.generation) →
          ({ host with state } : TrafficHost).execute request =
            ({ host with state } : TrafficHost).replace request
              configuration := by
        intro state notStarting notStopping notRunning
        simp only [execute, command, start, ready, valid, notStarting,
          notStopping, notRunning, or_self, if_false]
        rfl
      have executed : Ends Answers world (host.execute request)
          (.err .platform, { host with state := .failed }) world := by
        rw [replaces host.state starting stopping other]
        exact .ask (.inl ⟨.journal, rfl, .inl rfl⟩) .done
      have impossible := again executed rfl rfl rfl
      rw [replaces .failed (by simp) (by simp) (by simp)] at impossible
      cases impossible
  | stop =>
      rw [command] at reason
      simp only [not_or] at reason
      obtain ⟨ready, stopped⟩ := reason
      have executed : Ends Answers world (host.execute request)
          (.err .platform,
            { host with state := .recovering, recoveryRequired := true })
          world := by
        simp only [execute, command, stop, ready, stopped, if_false]
        exact .ask (.inl ⟨.platform, rfl, rfl⟩) .done
      have impossible := again executed rfl rfl rfl
      simp only [execute, command, stop_of_required, done_bind] at impossible
      cases impossible

theorem idempotent_iff {world : World}
    (within : host.responses.size ≤ maxCachedResponses) :
    host.Idempotent request world ↔
      host.Retains request ∨ host.Silent request := by
  constructor
  · intro idempotent
    by_contra neither
    obtain ⟨dropped, loud⟩ := not_or.mp neither
    exact not_idempotent within dropped loud idempotent
  · intro either
    by_cases retained : host.Retains request
    · exact idempotent_of_retained within retained
    · exact idempotent_of_silent within retained
        (either.resolve_left retained)

end TrafficHost

/-! ## Every host of a run -/

/-- A waiting host remembers no more than it may. -/
def bounding : Discipline where
  Answer := fun _ => Answers
  safe := fun _ _ => True
  rests := fun _ => True
  waits := fun host _ => host.responses.size ≤ maxCachedResponses
  leaves := fun answer _ =>
    answer.2.responses.size ≤ maxCachedResponses

theorem bounding_upheld (capabilities : Finset Capability) :
    bounding.Upheld capabilities fun _ _ _ => True where
  narrow := by
    intro _ _ _ _ _ _ _ _ _ answered
    exact answered
  born := by
    intro world _
    exact Nat.zero_le _
  handles := by
    intro host world request within
    apply TrafficHost.guarantees_handle
    · intro _ _
      exact within
    · intro _ _
      exact size_evict_le _
    · apply guarantees_of_always
      · intro _ _
        trivial
      · intro _ _
        exact size_evict_le _
  answered := by
    intro _ _ _ _ _ _ within
    exact within
  dies := by
    intro _ _ _ _
    trivial

theorem bounded_of_run {capabilities : Finset Capability}
    {initial system : System} {trace : List Event} {host : TrafficHost}
    (first : initial.Initial)
    (run : Run (Step capabilities) initial trace system)
    (waiting : system.process = .idle host) :
    host.responses.size ≤ maxCachedResponses := by
  have start : bounding.Kept initial := by
    obtain ⟨process, world⟩ := initial
    obtain ⟨rfl, _⟩ := first
    exact trivial
  have kept : bounding.Kept system := by
    apply (bounding_upheld capabilities).run start
    apply run.mono
    intro system event next move
    exact ⟨move, trivial⟩
  obtain ⟨process, world⟩ := system
  subst waiting
  exact kept

/-- At every host of a run, handling a request a second time repeats the
response without a call and without a change, however the first handling
fared, exactly when the host keeps the response or the request makes no
call. -/
theorem retry_repeats_iff {capabilities : Finset Capability}
    {initial system : System} {trace : List Event} {host : TrafficHost}
    (request : Request) (first : initial.Initial)
    (run : Run (Step capabilities) initial trace system)
    (waiting : system.process = .idle host) :
    (∀ response later final,
      Ends Answers system.world (host.handle request) (response, later)
        final →
      later.handle request = .done (response, later)) ↔
    host.Retains request ∨ host.Silent request :=
  TrafficHost.idempotent_iff (bounded_of_run first run waiting)

theorem retry_repeats_first_start :
    (TrafficHost.restored ∅ none).Retains (sampleStart 1 1 1500) ∧
    ∀ response later final,
      Ends Answers ⟨none, false, none⟩
        ((TrafficHost.restored ∅ none).handle (sampleStart 1 1 1500))
        (response, later) final →
      later.handle (sampleStart 1 1 1500) = .done (response, later) := by
  have room : (TrafficHost.restored ∅ none).Retains
      (sampleStart 1 1 1500) := by
    right
    left
    decide
  exact ⟨room, (retry_repeats_iff (sampleStart 1 1 1500) ⟨rfl, rfl, rfl⟩
    (launch_run ∅ ⟨none, false, none⟩) rfl).mpr (.inl room)⟩

/-! ## A retry that is executed again -/

def helloRequest (requestId : UInt64) : Request where
  version := protocolVersion
  requestId := requestId
  profileGeneration := 0
  capabilities := ∅
  command := .hello

/-- A host that answered greetings with the numbers from one to `count`. -/
theorem hello_run (count : Nat) (within : count ≤ maxCachedResponses) :
    ∃ trace host, Run (Step ∅) ⟨.down, none, false, none⟩ trace
        ⟨.idle host, none, false, none⟩ ∧
      host.generation = 0 ∧ host.responses.size = count ∧
      ∀ entry ∈ host.responses.entries, 0 < entry.1 ∧ entry.1 ≤ count := by
  induction count with
  | zero =>
      refine ⟨_, _, launch_run ∅ ⟨none, false, none⟩, rfl, rfl, ?_⟩
      intro entry member
      cases member
  | succ count induction =>
      obtain ⟨trace, host, run, generation, size, numbers⟩ :=
        induction (by omega)
      have number : (UInt64.ofNat (count + 1)).toNat = count + 1 := by
        apply UInt64.toNat_ofNat_of_lt'
        unfold maxCachedResponses at within
        unfold UInt64.size
        omega
      have fresh : host.responses.get?
          (helloRequest (UInt64.ofNat (count + 1))).requestId.toNat =
            none := by
        rw [OrderedMap.get?_eq_none_iff]
        intro entry member
        have upper := (numbers entry member).2
        simp only [helloRequest, number]
        omega
      have checked : host.precheck
          (helloRequest (UInt64.ofNat (count + 1))) = none := by
        rw [TrafficHost.precheck_eq_none_iff, generation]
        exact ⟨rfl, Finset.empty_subset _, lt_irrefl (0 : UInt64).toNat⟩
      have received := run.snoc
        (@Step.received ∅ _ _ (helloRequest (UInt64.ofNat (count + 1))))
      rw [TrafficHost.handle_of_executed fresh checked] at received
      have answered := received.snoc .responded
      have grown := size_insert_of_absent fresh (TrafficHost.respond
        (helloRequest (UInt64.ofNat (count + 1))) (.ok .hello) host).1
      have kept := evict_of_size_le (show _ ≤ _ by
        rw [grown]
        omega)
      refine ⟨_, _, answered, generation, ?_, ?_⟩
      · simp only [TrafficHost.respond, TrafficHost.cache] at kept grown ⊢
        rw [kept, grown, size]
      · intro entry member
        rcases OrderedMap.mem_insert_iff.mp (mem_of_mem_evict member) with
          same | ⟨old, _⟩
        · rw [same]
          simp only [helloRequest, number]
          omega
        · have bounds := numbers entry old
          omega

/-- The host is asked to recover under a number below all that it
remembers. -/
theorem retry_executed_again :
    ¬∀ initial trace system host request, System.Initial initial →
      Run (Step ∅) initial trace system → system.process = .idle host →
      ∀ response later final,
        Ends Answers system.world (host.handle request) (response, later)
          final →
        later.handle request = .done (response, later) := by
  intro idempotent
  obtain ⟨trace, host, run, generation, size, numbers⟩ :=
    hello_run maxCachedResponses le_rfl
  have dropped : ¬host.Retains recoverRequest := by
    have absent : host.responses.get? 0 = none := by
      rw [OrderedMap.get?_eq_none_iff]
      intro entry member
      exact (numbers entry member).1.ne'
    rintro (found | space | ⟨entry, _, below⟩)
    · simp [recoverRequest, absent] at found
    · exact absurd space (by omega)
    · exact Nat.not_lt_zero _ below
  have loud : ¬host.Silent recoverRequest := by
    rintro (version | capable | stale | impossible)
    · exact version rfl
    · exact capable (Finset.empty_subset _)
    · rw [generation] at stale
      exact lt_irrefl (0 : UInt64).toNat stale
    · exact impossible
  exact TrafficHost.not_idempotent size.le dropped loud
    (idempotent _ _ _ _ recoverRequest ⟨rfl, rfl, rfl⟩ run rfl)

end Velum.Host
