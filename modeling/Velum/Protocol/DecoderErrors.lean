import Velum.Protocol.FrameDecoder

/-!
# The decoder after an error

A refused header empties the buffer.  A complete frame that does not decode
stays in front of it, and every later push that brings bytes adds one of them.
The frames collected by the failing push are not returned.
-/

namespace Velum.Protocol

open Foundation

namespace FrameDecoder

/-! ## Retention -/

/-- A complete frame within the maximum that does not decode is in front. -/
def Malformed (maximum : Nat) (bytes : List UInt8) : Prop :=
  advertisedLength bytes ≤ maximum ∧
    frameHeaderBytes + advertisedLength bytes ≤ bytes.length ∧
    ∃ failure, Frame.decodeExact
      (bytes.take (frameHeaderBytes + advertisedLength bytes)) maximum =
        .error failure

theorem refused_of_malformed {maximum : Nat} {bytes : List UInt8}
    (malformed : Malformed maximum bytes) :
    ∃ failure, Frame.cut maximum bytes = .refused failure := by
  obtain ⟨fits, complete, failure, failed⟩ := malformed
  rcases Frame.cut_cases maximum bytes with
    ⟨_, short⟩ | ⟨refused, _⟩ |
    ⟨_, _, ⟨failure, refused, _⟩ | ⟨frame, _, decoded⟩⟩
  · omega
  · exact ⟨_, refused⟩
  · exact ⟨_, refused⟩
  · rw [failed] at decoded
    cases decoded

theorem malformed_of_refused {maximum : Nat} {bytes : List UInt8}
    {failure : FrameDecodeError}
    (refused : Frame.cut maximum bytes = .refused failure)
    (fits : advertisedLength bytes ≤ maximum) : Malformed maximum bytes := by
  rcases Frame.cut_cases maximum bytes with
    ⟨other, _⟩ | ⟨_, _, oversized⟩ |
    ⟨complete, _, ⟨failure, _, failed⟩ | ⟨frame, other, _⟩⟩
  · rw [other] at refused
    cases refused
  · omega
  · exact ⟨fits, complete, failure, failed⟩
  · rw [other] at refused
    cases refused

theorem malformed_append {maximum : Nat} {bytes : List UInt8}
    (malformed : Malformed maximum bytes) (later : List UInt8) :
    Malformed maximum (bytes ++ later) := by
  obtain ⟨fits, complete, failure, failed⟩ := malformed
  have same := Frame.advertisedLength_append
    (show frameHeaderBytes ≤ bytes.length by omega) later
  refine ⟨by rw [same]; exact fits, ?_, failure, ?_⟩
  · rw [same, List.length_append]
    omega
  · rw [same, List.take_append_of_le_length complete]
    exact failed

/-- Only its own bytes decide whether a frame in front is malformed. -/
theorem malformed_take {maximum : Nat} {bytes : List UInt8}
    (malformed : Malformed maximum bytes) :
    Malformed maximum
      (bytes.take (frameHeaderBytes + advertisedLength bytes)) := by
  obtain ⟨fits, complete, failure, failed⟩ := malformed
  have length : (bytes.take
      (frameHeaderBytes + advertisedLength bytes)).length =
        frameHeaderBytes + advertisedLength bytes := by
    rw [List.length_take]
    omega
  have same : advertisedLength (bytes.take
      (frameHeaderBytes + advertisedLength bytes)) =
        advertisedLength bytes := by
    have whole := Frame.advertisedLength_append
      (show frameHeaderBytes ≤ (bytes.take
        (frameHeaderBytes + advertisedLength bytes)).length by omega)
      (bytes.drop (frameHeaderBytes + advertisedLength bytes))
    rw [List.take_append_drop] at whole
    exact whole.symm
  refine ⟨by rw [same]; exact fits, by rw [same, length], failure, ?_⟩
  rw [same, List.take_take, Nat.min_self]
  exact failed

/-- A decoder that can no longer get past the front of its buffer. -/
def Stuck (decoder : FrameDecoder) : Prop :=
  Malformed decoder.maximumPayload decoder.buffered

theorem push_of_stuck {decoder : FrameDecoder} (stuck : decoder.Stuck)
    (byte : UInt8) (rest : List UInt8) :
    ∃ failure, decoder.push (byte :: rest) =
      (.error failure,
        { decoder with buffered := decoder.buffered ++ [byte] }) := by
  have still : Malformed decoder.maximumPayload
      (decoder.buffered ++ [byte]) := malformed_append stuck [byte]
  obtain ⟨failure, refused⟩ := refused_of_malformed still
  refine ⟨failure, ?_⟩
  unfold push pushFrom
  rw [drain_eq, settle_of_refused [] (by exact refused),
    if_neg (Nat.not_lt.mpr still.1)]

theorem cutWith_of_stuck {decoder : FrameDecoder} (stuck : decoder.Stuck)
    (bytes : List UInt8) :
    decoder.cutWith bytes = ([], decoder.buffered ++ bytes) := by
  obtain ⟨failure, refused⟩ := refused_of_malformed stuck
  exact Cutter.cutAll_of_refused
    ((Frame.cutter decoder.maximumPayload).refusalStays bytes refused)

/-- The number of pushes that bring bytes. -/
def arrivals (chunks : List (List UInt8)) : Nat :=
  chunks.countP fun chunk => !chunk.isEmpty

theorem pushAll_of_stuck {decoder : FrameDecoder} (stuck : decoder.Stuck)
    (chunks : List (List UInt8)) :
    (decoder.pushAll chunks).2.Stuck ∧
      (decoder.pushAll chunks).2.bufferedLen =
        decoder.bufferedLen + arrivals chunks ∧
      framesReceived (decoder.pushAll chunks).1 = [] := by
  induction chunks generalizing decoder with
  | nil => exact ⟨stuck, rfl, rfl⟩
  | cons chunk rest induction =>
      cases chunk with
      | nil =>
          obtain ⟨still, length, received⟩ := induction stuck
          exact ⟨still, length, received⟩
      | cons byte others =>
          obtain ⟨failure, pushed⟩ := push_of_stuck stuck byte others
          have appended : Stuck
              { decoder with buffered := decoder.buffered ++ [byte] } :=
            malformed_append stuck [byte]
          obtain ⟨still, length, received⟩ := induction appended
          unfold pushAll
          rw [pushed]
          refine ⟨still, ?_, received⟩
          rw [length]
          unfold bufferedLen arrivals
          rw [List.length_append, List.length_singleton,
            List.countP_cons_of_pos (by rfl)]
          omega

theorem pushAll_append (decoder : FrameDecoder)
    (first second : List (List UInt8)) :
    decoder.pushAll (first ++ second) =
      ((decoder.pushAll first).1 ++
          ((decoder.pushAll first).2.pushAll second).1,
        ((decoder.pushAll first).2.pushAll second).2) := by
  induction first generalizing decoder with
  | nil => rfl
  | cons chunk rest induction =>
      simp only [List.cons_append, pushAll, induction]

theorem pushAll_snoc (decoder : FrameDecoder)
    (chunks : List (List UInt8)) (chunk : List UInt8) :
    (decoder.pushAll (chunks ++ [chunk])).2 =
      ((decoder.pushAll chunks).2.push chunk).2 := by
  rw [pushAll_append]
  rfl

theorem bufferedLen_of_waiting {decoder : FrameDecoder}
    (waiting : decoder.Waiting) :
    decoder.bufferedLen < frameHeaderBytes + decoder.maximumPayload := by
  rcases Frame.cut_cases decoder.maximumPayload decoder.buffered with
    ⟨_, short⟩ | ⟨other, _⟩ | ⟨_, _, ⟨_, other, _⟩ | ⟨_, other, _⟩⟩
  · unfold bufferedLen
    omega
  · exact absurd (waiting.symm.trans other) nofun
  · exact absurd (waiting.symm.trans other) nofun
  · exact absurd (waiting.symm.trans other) nofun

/-- A push that returns leaves the decoder waiting, also after a refused
header.  A malformed frame leaves it stuck with that frame. -/
theorem push_of_waiting {decoder : FrameDecoder}
    (waiting : decoder.Waiting) (chunk : List UInt8) :
    (decoder.push chunk).2.maximumPayload = decoder.maximumPayload ∧
      ((decoder.push chunk).2.Waiting ∧
          ¬Malformed decoder.maximumPayload (decoder.cutWith chunk).2 ∨
        Malformed decoder.maximumPayload (decoder.cutWith chunk).2 ∧
          (decoder.push chunk).2.Stuck ∧
          (decoder.push chunk).2.bufferedLen = frameHeaderBytes +
            advertisedLength (decoder.cutWith chunk).2) := by
  rw [push_eq waiting]
  rcases cutWith_waits_or_refuses decoder chunk with
    continued | ⟨failure, refused⟩
  · rw [digest_of_incomplete [] continued]
    refine ⟨rfl, .inl ⟨continued, ?_⟩⟩
    intro malformed
    obtain ⟨failure, refused⟩ := refused_of_malformed malformed
    exact absurd (continued.symm.trans refused) nofun
  · rw [digest_of_refused [] refused]
    refine ⟨rfl, ?_⟩
    unfold keptOf
    by_cases oversized : advertisedLength (decoder.cutWith chunk).2 >
        decoder.maximumPayload
    · rw [if_pos oversized]
      refine .inl ⟨rfl, ?_⟩
      intro malformed
      exact absurd malformed.1 (Nat.not_le.mpr oversized)
    · rw [if_neg oversized]
      have malformed := malformed_of_refused refused
        (Nat.not_lt.mp oversized)
      refine .inr ⟨malformed, malformed_take malformed, ?_⟩
      unfold bufferedLen
      rw [List.length_take]
      exact Nat.min_eq_left malformed.2.1

theorem push_of_stuck_last {decoder : FrameDecoder}
    (stuck : decoder.Stuck) (chunk : List UInt8) :
    (decoder.push chunk).2.maximumPayload = decoder.maximumPayload ∧
      (decoder.push chunk).2.Stuck ∧
      (decoder.push chunk).2.bufferedLen =
        decoder.bufferedLen + arrivals [chunk] := by
  obtain ⟨still, length, _⟩ := pushAll_of_stuck stuck [chunk]
  refine ⟨?_, still, length⟩
  cases chunk with
  | nil => rfl
  | cons byte rest =>
      obtain ⟨failure, pushed⟩ := push_of_stuck stuck byte rest
      rw [pushed]

/-- Where a malformed frame got stuck, and how much has been added since. -/
theorem pushAll_waits_or_sticks {decoder : FrameDecoder}
    (waiting : decoder.Waiting) (chunks : List (List UInt8)) :
    (decoder.pushAll chunks).2.maximumPayload = decoder.maximumPayload ∧
      ((decoder.pushAll chunks).2.Waiting ∨
        (decoder.pushAll chunks).2.Stuck ∧
        ∃ earlier chunk later, chunks = earlier ++ chunk :: later ∧
          Malformed decoder.maximumPayload
            ((decoder.pushAll earlier).2.cutWith chunk).2 ∧
          (decoder.pushAll chunks).2.bufferedLen = frameHeaderBytes +
            advertisedLength
              ((decoder.pushAll earlier).2.cutWith chunk).2 +
            arrivals later) := by
  induction chunks using List.reverseRecOn with
  | nil => exact ⟨rfl, .inl waiting⟩
  | append_singleton chunks chunk induction =>
      obtain ⟨maximum, waits | ⟨stuck, earlier, origin, later, rfl,
        malformed, length⟩⟩ := induction
      · obtain ⟨same, still | ⟨malformed, stuck, length⟩⟩ :=
          push_of_waiting waits chunk
        · rw [pushAll_snoc]
          exact ⟨same.trans maximum, .inl still.1⟩
        · rw [maximum] at malformed
          rw [pushAll_snoc]
          exact ⟨same.trans maximum, .inr ⟨stuck, chunks, chunk, [], rfl,
            malformed, length⟩⟩
      · obtain ⟨same, still, longer⟩ := push_of_stuck_last stuck chunk
        rw [pushAll_snoc]
        refine ⟨same.trans maximum, .inr ⟨still, earlier, origin,
          later ++ [chunk], by simp, malformed, ?_⟩⟩
        rw [longer, length]
        unfold arrivals
        rw [List.countP_append, Nat.add_assoc]

/-- The bound on the buffer is kept exactly as long as no malformed frame is
followed by more pushes with bytes than its payload leaves room for. -/
theorem bufferedLen_bounded_iff {maximum : Nat} {decoder : FrameDecoder}
    (fresh : new maximum = .ok decoder) (chunks : List (List UInt8)) :
    (∀ pushed, pushed <+: chunks →
      (decoder.pushAll pushed).2.bufferedLen ≤
        frameHeaderBytes + maximum) ↔
    ∀ earlier chunk later, chunks = earlier ++ chunk :: later →
      Malformed maximum ((decoder.pushAll earlier).2.cutWith chunk).2 →
      advertisedLength ((decoder.pushAll earlier).2.cutWith chunk).2 +
        arrivals later ≤ maximum := by
  obtain ⟨rfl, _, waiting⟩ := waiting_of_new fresh
  constructor
  · intro bounded earlier chunk later split malformed
    have last := bounded chunks (List.prefix_refl _)
    rw [split, pushAll_append] at last
    change (((decoder.pushAll earlier).2.push
      chunk).2.pushAll later).2.bufferedLen ≤ _ at last
    obtain ⟨maximum, waits | ⟨stuck, _⟩⟩ :=
      pushAll_waits_or_sticks waiting earlier
    · obtain ⟨_, ⟨_, other⟩ | ⟨_, sticks, length⟩⟩ :=
        push_of_waiting waits chunk
      · rw [maximum] at other
        exact absurd malformed other
      · rw [(pushAll_of_stuck sticks later).2.1, length] at last
        omega
    · -- Already stuck: the same malformed frame, with bytes behind it.
      obtain ⟨_, still, longer⟩ := push_of_stuck_last stuck chunk
      rw [(pushAll_of_stuck still later).2.1, longer] at last
      have complete := stuck.2.1
      rw [cutWith_of_stuck stuck, Frame.advertisedLength_append (by omega)]
      unfold bufferedLen at last
      omega
  · intro room pushed isPrefix
    obtain ⟨rest, rfl⟩ := isPrefix
    obtain ⟨maximum, waits | ⟨_, earlier, chunk, later, rfl, malformed,
      length⟩⟩ := pushAll_waits_or_sticks waiting pushed
    · have bound := bufferedLen_of_waiting waits
      omega
    · have fits := room earlier chunk (later ++ rest) (by simp) malformed
      unfold arrivals at fits length
      rw [List.countP_append] at fits
      omega

/-- An unknown mandatory frame may stay when nothing is pushed behind it. -/
theorem bufferedLen_bounded_unfollowed :
    ∃ decoder, new 0 = .ok decoder ∧
      ∀ pushed, pushed <+: [[0x40, 0, 0, 0]] →
        (decoder.pushAll pushed).2.bufferedLen ≤ frameHeaderBytes + 0 := by
  refine ⟨_, rfl, (bufferedLen_bounded_iff rfl _).mpr ?_⟩
  intro earlier chunk later split malformed
  have last : later = [] := by
    have lengths := congrArg List.length split
    simp only [List.length_append, List.length_cons,
      List.length_nil] at lengths
    exact List.length_eq_zero_iff.mp (by omega)
  rw [last]
  exact malformed.1

/-- One byte behind an unknown mandatory frame exceeds the bound. -/
theorem bufferedLen_exceeded :
    ∃ decoder, new 0 = .ok decoder ∧
      ¬(decoder.pushAll [[0x40, 0, 0, 0], [0]]).2.bufferedLen ≤
        frameHeaderBytes + 0 :=
  ⟨_, rfl, by decide⟩

/-- The two states after an error: stuck behind a complete frame, or empty
behind an oversized header. -/
theorem push_failed {decoder : FrameDecoder} {failing : List UInt8}
    {failure : FrameDecodeError}
    (state : decoder.Waiting ∨ decoder.Stuck)
    (failed : (decoder.push failing).1 = .error failure) :
    frameHeaderBytes ≤ (decoder.cutWith failing).2.length ∧
      (advertisedLength (decoder.cutWith failing).2 ≤
            decoder.maximumPayload ∧
          (decoder.push failing).2.Stuck ∨
        decoder.maximumPayload <
            advertisedLength (decoder.cutWith failing).2 ∧
          (decoder.push failing).2.buffered = []) := by
  rcases state with waiting | stuck
  · rw [push_eq waiting] at failed ⊢
    rcases cutWith_waits_or_refuses decoder failing with
      continued | ⟨refusal, refused⟩
    · rw [digest_of_incomplete [] continued] at failed
      cases failed
    rw [digest_of_refused [] refused]
    by_cases oversized : advertisedLength (decoder.cutWith failing).2 >
        decoder.maximumPayload
    · refine ⟨?_, .inr ⟨oversized, if_pos oversized⟩⟩
      rcases Frame.cut_cases decoder.maximumPayload
          (decoder.cutWith failing).2 with
        ⟨other, _⟩ | ⟨_, header, _⟩ | ⟨_, fits, _⟩
      · rw [refused] at other
        cases other
      · exact header
      · omega
    · have malformed := malformed_of_refused refused
        (Nat.not_lt.mp oversized)
      have complete := malformed.2.1
      refine ⟨by omega, .inl ⟨malformed.1, ?_⟩⟩
      unfold Stuck keptOf
      rw [if_neg oversized]
      exact malformed_take malformed
  · have still := malformed_append stuck failing
    have complete := still.2.1
    rw [cutWith_of_stuck stuck]
    exact ⟨Nat.le_of_add_right_le complete,
      .inl ⟨still.1, (push_of_stuck_last stuck failing).2.1⟩⟩

/-! ## Frames in front of an error -/

/-- A frame and an encoding that the maximum admits. -/
def Admissible (maximum : Nat) (frame : Frame) (bytes : List UInt8) : Prop :=
  frame.encode = .ok bytes ∧ frame.Checked ∧
    bytes.length ≤ frameHeaderBytes + maximum

theorem decodeExact_extent {maximum : Nat} {frame : Frame}
    {bytes : List UInt8}
    (decoded : Frame.decodeExact bytes maximum = .ok frame) :
    advertisedLength bytes ≤ maximum ∧
      bytes.length = frameHeaderBytes + advertisedLength bytes := by
  unfold Frame.decodeExact at decoded
  split at decoded
  · rename_i frameType reserved high low payload
    by_cases oversized : (word16 [high, low]).toNat > maximum
    · simp only [if_pos oversized, reduceCtorEq] at decoded
    by_cases mismatch : payload.length ≠ (word16 [high, low]).toNat
    · simp only [if_neg oversized, if_pos mismatch, reduceCtorEq] at decoded
    · simp only [advertisedLength, List.length_cons, frameHeaderBytes]
      omega
  · cases decoded

theorem cut_of_decoded {maximum : Nat} {frame : Frame}
    {bytes : List UInt8}
    (decoded : Frame.decodeExact bytes maximum = .ok frame) :
    Frame.cut maximum bytes = .piece frame bytes.length := by
  obtain ⟨fits, length⟩ := decodeExact_extent decoded
  have whole : bytes.take (frameHeaderBytes + advertisedLength bytes) =
      bytes := by
    rw [← length, List.take_length]
  rcases Frame.cut_cases maximum bytes with
    ⟨_, short⟩ | ⟨_, _, oversized⟩ |
    ⟨_, _, ⟨_, _, failed⟩ | ⟨other, found, same⟩⟩
  · omega
  · omega
  · rw [whole, decoded] at failed
    cases failed
  · rw [whole, decoded] at same
    cases same
    rw [length]
    exact found

/-- Admissible frames are cut off one by one. -/
theorem cutAll_admissible {maximum : Nat} {frames : List Frame}
    {encodings : List (List UInt8)}
    (admissible : List.Forall₂ (Admissible maximum) frames encodings)
    (tail : List UInt8) :
    (Frame.cutter maximum).cutAll (encodings.flatten ++ tail) =
      (frames ++ ((Frame.cutter maximum).cutAll tail).1,
        ((Frame.cutter maximum).cutAll tail).2) := by
  induction admissible with
  | nil => rfl
  | @cons frame bytes frames encodings first _ induction =>
      have found : (Frame.cutter maximum).cut
          (bytes ++ (encodings.flatten ++ tail)) =
            .piece frame bytes.length :=
        (Frame.cutter maximum).cutStays _
          (cut_of_decoded (Frame.decodeExact_eq_ok_iff.mpr first))
      rw [List.flatten_cons, List.append_assoc,
        Cutter.cutAll_of_piece found, List.drop_left, induction]
      rfl

/-- Bytes that stop inside admissible frames do not give all of them. -/
theorem cutAll_short {maximum : Nat} {frames : List Frame}
    {encodings : List (List UInt8)}
    (admissible : List.Forall₂ (Admissible maximum) frames encodings)
    {bytes missing : List UInt8}
    (split : encodings.flatten = bytes ++ missing)
    (short : missing ≠ []) :
    ¬frames <+: ((Frame.cutter maximum).cutAll bytes).1 := by
  intro given
  have whole := cutAll_admissible admissible []
  rw [List.append_nil, Frame.cutAll_nil, split, Cutter.cutAll_append,
    List.append_nil] at whole
  obtain ⟨pieces, rest⟩ := Prod.mk.inj whole
  have noMore : ((Frame.cutter maximum).cutAll
      (((Frame.cutter maximum).cutAll bytes).2 ++ missing)).1 = [] := by
    have lengths := given.length_le
    rw [← pieces, List.length_append] at lengths
    exact List.length_eq_zero_iff.mp (by omega)
  have nothing := Cutter.remainder_of_no_pieces noMore
  rw [rest] at nothing
  exact short (List.append_eq_nil_iff.mp nothing.symm).2

/-- What the caller gets up to the first error. -/
def framesBeforeError (outcomes : List Pushed) : List Frame :=
  framesReceived (outcomes.takeWhile fun outcome => outcome.isOk)

/-- The pushes in front of the first error. -/
theorem clean_nil : Clean [] := by
  intro outcome member
  cases member

theorem pushes_before_error (decoder : FrameDecoder)
    (chunks : List (List UInt8)) :
    ∃ accepted rejected, chunks = accepted ++ rejected ∧
      Clean (decoder.pushAll accepted).1 ∧
      framesBeforeError (decoder.pushAll chunks).1 =
        framesReceived (decoder.pushAll accepted).1 ∧
      ∀ first, first <+: chunks → Clean (decoder.pushAll first).1 →
        first <+: accepted := by
  induction chunks generalizing decoder with
  | nil =>
      exact ⟨[], [], rfl, clean_nil, rfl, fun first within _ => within⟩
  | cons chunk rest induction =>
      cases pushed : decoder.push chunk with
      | mk outcome next =>
      cases outcome with
      | error failure =>
          refine ⟨[], chunk :: rest, rfl, clean_nil, ?_, ?_⟩
          · unfold pushAll
            rw [pushed]
            rfl
          · intro first within clean
            cases first with
            | nil => exact List.prefix_refl _
            | cons other others =>
                obtain ⟨rfl, _⟩ := List.cons_prefix_cons.mp within
                unfold pushAll at clean
                rw [pushed] at clean
                have returned := clean _ List.mem_cons_self
                exact absurd returned Bool.false_ne_true
      | ok frames =>
          obtain ⟨accepted, rejected, rfl, clean, received, longest⟩ :=
            induction next
          refine ⟨chunk :: accepted, rejected, rfl, ?_, ?_, ?_⟩
          · unfold pushAll Clean
            rw [pushed, List.forall_mem_cons]
            exact ⟨rfl, clean⟩
          · unfold pushAll
            rw [pushed]
            change frames ++ framesBeforeError _ = frames ++ framesReceived _
            rw [received]
          · intro first within cleanFirst
            cases first with
            | nil => exact List.nil_prefix
            | cons other others =>
                obtain ⟨rfl, inside⟩ := List.cons_prefix_cons.mp within
                unfold pushAll Clean at cleanFirst
                rw [pushed, List.forall_mem_cons] at cleanFirst
                exact List.cons_prefix_cons.mpr
                  ⟨rfl, longest others inside cleanFirst.2⟩

/-- The frames in front of an error reach the caller exactly when a push ends
behind them and in front of the byte that is refused. -/
theorem framesBeforeError_iff {maximum : Nat} {decoder : FrameDecoder}
    (fresh : new maximum = .ok decoder) {frames : List Frame}
    {encodings : List (List UInt8)}
    (admissible : List.Forall₂ (Admissible maximum) frames encodings)
    {tail : List UInt8} {chunks : List (List UInt8)}
    (stream : chunks.flatten = encodings.flatten ++ tail) :
    frames <+: framesBeforeError (decoder.pushAll chunks).1 ↔
      ∃ before after, chunks = before ++ after ∧
        encodings.flatten.length ≤ before.flatten.length ∧
        Frame.cut maximum
          ((Frame.cutter maximum).cutAll before.flatten).2 =
            .incomplete := by
  obtain ⟨rfl, empty, waiting⟩ := waiting_of_new fresh
  have onBytes (bytes : List UInt8) : decoder.cutWith bytes =
      (Frame.cutter decoder.maximumPayload).cutAll bytes := by
    unfold cutWith
    rw [empty, List.nil_append]
  obtain ⟨accepted, rejected, split, clean, received, longest⟩ :=
    pushes_before_error decoder chunks
  rw [received, (pushAll_of_clean waiting clean).1, onBytes]
  constructor
  · intro given
    refine ⟨accepted, rejected, split, ?_, ?_⟩
    · by_contra short
      have within : accepted.flatten <+: encodings.flatten := by
        apply List.prefix_of_prefix_length_le _
          (List.prefix_append encodings.flatten tail) (by omega)
        rw [← stream, split, List.flatten_append]
        apply List.prefix_append
      obtain ⟨missing, whole⟩ := within
      refine cutAll_short admissible whole.symm ?_ given
      intro none
      rw [none, List.append_nil] at whole
      rw [whole] at short
      exact short (Nat.le_refl _)
    · rw [← onBytes]
      exact (pushAll_clean_iff waiting accepted).mp clean
  · intro boundary
    obtain ⟨before, after, cutHere, behind, accepts⟩ := boundary
    rw [← onBytes, ← pushAll_clean_iff waiting] at accepts
    obtain ⟨more, whole⟩ := longest before
      (by rw [cutHere]; apply List.prefix_append) accepts
    have reaches : encodings.flatten <+: accepted.flatten := by
      apply List.prefix_of_prefix_length_le
        (List.prefix_append encodings.flatten tail)
      · rw [← stream, split, List.flatten_append]
        apply List.prefix_append
      · rw [← whole, List.flatten_append, List.length_append]
        omega
    obtain ⟨others, same⟩ := reaches
    rw [← same, cutAll_admissible admissible]
    apply List.prefix_append

/-- An optional frame in a chunk of its own arrives. -/
theorem framesBeforeError_separate :
    ∃ decoder, new 0 = .ok decoder ∧
      [Frame.unknownOptional 0x80 []] <+:
        framesBeforeError
          (decoder.pushAll [[0x80, 0, 0, 0], [0x40, 0, 0, 0]]).1 := by
  obtain ⟨decoder, fresh⟩ : ∃ decoder, new 0 = .ok decoder := ⟨_, rfl⟩
  have admissible : List.Forall₂ (Admissible 0)
      [Frame.unknownOptional 0x80 []] [[0x80, 0, 0, 0]] :=
    .cons ⟨rfl, trivial, by decide⟩ .nil
  have stream : [[(0x80 : UInt8), 0, 0, 0], [0x40, 0, 0, 0]].flatten =
      [[0x80, 0, 0, 0]].flatten ++ [0x40, 0, 0, 0] := rfl
  refine ⟨decoder, fresh,
    (framesBeforeError_iff fresh admissible stream).mpr
      ⟨[[0x80, 0, 0, 0]], [[0x40, 0, 0, 0]], rfl, Nat.le_refl _, ?_⟩⟩
  have alone := cutAll_admissible admissible []
  rw [List.append_nil, Frame.cutAll_nil] at alone
  rw [alone]
  rfl

/-- In the chunk of the frame that is refused it is lost. -/
theorem framesBeforeError_lost :
    ∃ decoder, new 0 = .ok decoder ∧
      Frame.encode (.unknownOptional 0x80 []) = .ok [0x80, 0, 0, 0] ∧
      ¬Clean (decoder.pushAll [[0x80, 0, 0, 0, 0x40, 0, 0, 0]]).1 ∧
      ¬[Frame.unknownOptional 0x80 []] <+:
        framesBeforeError
          (decoder.pushAll [[0x80, 0, 0, 0, 0x40, 0, 0, 0]]).1 := by
  refine ⟨_, rfl, rfl, by decide, ?_⟩
  intro given
  exact absurd given.length_le (by decide)

end FrameDecoder

end Velum.Protocol
