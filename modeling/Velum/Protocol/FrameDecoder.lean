import Velum.Foundation.Cutting
import Velum.Protocol.FrameCodec

/-!
# The incremental frame decoder

The decoder appends one byte at a time and cuts complete frames off its
buffer.  As long as nothing is refused, what it returns and what it keeps are
functions of the bytes alone: cutting all of them at once gives the same
frames and the same remainder.
-/

namespace Velum.Protocol

open Foundation

/-- Decoder that retains at most one declared frame.  The maximum has passed
the check of `new`. -/
structure FrameDecoder where
  maximumPayload : Nat
  maximumAccepted : maximumPayload ≤ maxFramePayload
  buffered : List UInt8

/-- The payload length in a header. -/
def advertisedLength : List UInt8 → Nat
  | _ :: _ :: high :: low :: _ => (word16 [high, low]).toNat
  | _ => 0

namespace FrameDecoder

def new (maximumPayload : Nat) : Except FrameDecodeError FrameDecoder :=
  if accepted : maximumPayload ≤ maxFramePayload then
    .ok { maximumPayload, maximumAccepted := accepted, buffered := [] }
  else .error (.payloadTooLarge maxFramePayload maximumPayload)

def bufferedLen (decoder : FrameDecoder) : Nat :=
  decoder.buffered.length

abbrev Pushed := Except FrameDecodeError (List Frame)

/-- The inner loop of `push`, given up after a number of passes. -/
def drainWithin : Nat → FrameDecoder → List Frame →
    Option (Pushed × FrameDecoder)
  | 0, _, _ => none
  | passes + 1, decoder, frames =>
      if decoder.buffered.length < frameHeaderBytes then
        some (.ok frames, decoder)
      else
        let advertised := advertisedLength decoder.buffered
        if advertised > decoder.maximumPayload then
          some (.error (.payloadTooLarge decoder.maximumPayload advertised),
            { decoder with buffered := [] })
        else
          let total := frameHeaderBytes + advertised
          if decoder.buffered.length < total then
            some (.ok frames, decoder)
          else
            match Frame.decodeExact (decoder.buffered.take total)
                decoder.maximumPayload with
            | .error failure => some (.error failure, decoder)
            | .ok frame =>
                drainWithin passes
                  { decoder with buffered := decoder.buffered.drop total }
                  (frames ++ [frame])

/-- Every pass that goes on removes at least a header. -/
theorem drainWithin_isSome (passes : Nat) (decoder : FrameDecoder)
    (frames : List Frame) (enough : decoder.buffered.length < passes) :
    (drainWithin passes decoder frames).isSome := by
  induction passes generalizing decoder frames with
  | zero => omega
  | succ passes induction =>
      unfold drainWithin
      by_cases short : decoder.buffered.length < frameHeaderBytes
      · rw [if_pos short]
        rfl
      rw [if_neg short]
      dsimp only
      split
      · rfl
      split
      · rfl
      split
      · rfl
      · apply induction
        simp only [List.length_drop]
        unfold frameHeaderBytes at short ⊢
        omega

/-- The inner loop. -/
def drain (decoder : FrameDecoder) (frames : List Frame) :
    Pushed × FrameDecoder :=
  (drainWithin (decoder.buffered.length + 1) decoder frames).get
    (drainWithin_isSome _ decoder frames (Nat.lt_succ_self _))

/-- The outer loop of `push` with the frames collected so far. -/
def pushFrom (frames : List Frame) : FrameDecoder → List UInt8 →
    Pushed × FrameDecoder
  | decoder, [] => (.ok frames, decoder)
  | decoder, byte :: rest =>
      match drain { decoder with buffered := decoder.buffered ++ [byte] }
          frames with
      | (.error failure, after) => (.error failure, after)
      | (.ok collected, after) => pushFrom collected after rest

def push (decoder : FrameDecoder) (bytes : List UInt8) :
    Pushed × FrameDecoder :=
  pushFrom [] decoder bytes

/-- Pushes the chunks one after the other, also after an error. -/
def pushAll : FrameDecoder → List (List UInt8) →
    List Pushed × FrameDecoder
  | decoder, [] => ([], decoder)
  | decoder, chunk :: rest =>
      let (outcome, next) := decoder.push chunk
      let (outcomes, last) := pushAll next rest
      (outcome :: outcomes, last)

end FrameDecoder

/-- Every push succeeded. -/
def Clean (outcomes : List FrameDecoder.Pushed) : Prop :=
  ∀ outcome ∈ outcomes, outcome.isOk

instance (outcomes : List FrameDecoder.Pushed) :
    Decidable (Clean outcomes) :=
  inferInstanceAs (Decidable (∀ outcome ∈ outcomes, outcome.isOk))

/-- The frames that the caller received, oldest first. -/
def framesReceived (outcomes : List FrameDecoder.Pushed) : List Frame :=
  outcomes.flatMap fun
    | .ok frames => frames
    | .error _ => []

/-! ## Cutting frames -/

namespace Frame

/-- The front of a byte string as a frame: a header, the declared number of
bytes, and their decoding. -/
def cut (maximum : Nat) (bytes : List UInt8) :
    Cut Frame FrameDecodeError :=
  if bytes.length < frameHeaderBytes then .incomplete
  else if advertisedLength bytes > maximum then
    .refused (.payloadTooLarge maximum (advertisedLength bytes))
  else if bytes.length < frameHeaderBytes + advertisedLength bytes then
    .incomplete
  else
    match decodeExact
        (bytes.take (frameHeaderBytes + advertisedLength bytes)) maximum with
    | .ok frame => .piece frame (frameHeaderBytes + advertisedLength bytes)
    | .error failure => .refused failure

theorem advertisedLength_append {bytes : List UInt8}
    (header : frameHeaderBytes ≤ bytes.length) (later : List UInt8) :
    advertisedLength (bytes ++ later) = advertisedLength bytes := by
  match bytes, header with
  | _ :: _ :: _ :: _ :: _, _ => rfl

/-- Everything that the front of a byte string can be. -/
theorem cut_cases (maximum : Nat) (bytes : List UInt8) :
    (cut maximum bytes = .incomplete ∧
      (bytes.length < frameHeaderBytes ∨
        advertisedLength bytes ≤ maximum ∧
          bytes.length < frameHeaderBytes + advertisedLength bytes)) ∨
    (cut maximum bytes =
        .refused (.payloadTooLarge maximum (advertisedLength bytes)) ∧
      frameHeaderBytes ≤ bytes.length ∧ maximum < advertisedLength bytes) ∨
    (frameHeaderBytes + advertisedLength bytes ≤ bytes.length ∧
      advertisedLength bytes ≤ maximum ∧
      ((∃ failure, cut maximum bytes = .refused failure ∧
        decodeExact
          (bytes.take (frameHeaderBytes + advertisedLength bytes)) maximum =
          .error failure) ∨
      ∃ frame, cut maximum bytes =
          .piece frame (frameHeaderBytes + advertisedLength bytes) ∧
        decodeExact
          (bytes.take (frameHeaderBytes + advertisedLength bytes)) maximum =
          .ok frame)) := by
  unfold cut
  by_cases short : bytes.length < frameHeaderBytes
  · rw [if_pos short]
    exact .inl ⟨rfl, .inl short⟩
  rw [if_neg short]
  by_cases oversized : advertisedLength bytes > maximum
  · rw [if_pos oversized]
    exact .inr (.inl ⟨rfl, by omega, oversized⟩)
  rw [if_neg oversized]
  by_cases partly :
      bytes.length < frameHeaderBytes + advertisedLength bytes
  · rw [if_pos partly]
    exact .inl ⟨rfl, .inr ⟨by omega, partly⟩⟩
  rw [if_neg partly]
  refine .inr (.inr ⟨by omega, by omega, ?_⟩)
  cases decoded : decodeExact
      (bytes.take (frameHeaderBytes + advertisedLength bytes)) maximum with
  | error failure => exact .inl ⟨failure, rfl, rfl⟩
  | ok frame => exact .inr ⟨frame, rfl, rfl⟩

theorem decodeExact_of_cut {maximum : Nat} {bytes : List UInt8}
    {frame : Frame} {size : Nat}
    (found : cut maximum bytes = .piece frame size) :
    decodeExact (bytes.take size) maximum = .ok frame := by
  rcases cut_cases maximum bytes with
    ⟨other, _⟩ | ⟨other, _⟩ | ⟨_, _, ⟨_, other, _⟩ | ⟨_, same, decoded⟩⟩
  · exact absurd (found.symm.trans other) nofun
  · exact absurd (found.symm.trans other) nofun
  · exact absurd (found.symm.trans other) nofun
  · rw [found] at same
    cases same
    exact decoded

theorem cut_append {maximum : Nat} {bytes : List UInt8}
    (decided : cut maximum bytes ≠ .incomplete) (later : List UInt8) :
    cut maximum (bytes ++ later) = cut maximum bytes := by
  have header : frameHeaderBytes ≤ bytes.length := by
    rcases cut_cases maximum bytes with
      ⟨waiting, _⟩ | ⟨_, header, _⟩ | ⟨complete, _⟩
    · exact absurd waiting decided
    · exact header
    · omega
  have longer : ¬(bytes ++ later).length < frameHeaderBytes := by
    rw [List.length_append]
    omega
  have same := advertisedLength_append header later
  unfold cut at decided ⊢
  rw [if_neg (show ¬bytes.length < frameHeaderBytes by omega)] at decided ⊢
  rw [if_neg longer, same]
  by_cases oversized : advertisedLength bytes > maximum
  · rw [if_pos oversized, if_pos oversized]
  rw [if_neg oversized] at decided ⊢
  rw [if_neg oversized]
  by_cases partly :
      bytes.length < frameHeaderBytes + advertisedLength bytes
  · rw [if_pos partly] at decided
    exact absurd rfl decided
  · rw [if_neg partly, if_neg (by rw [List.length_append]; omega),
      List.take_append_of_le_length (by omega)]

/-- Frames behind their declared lengths. -/
def cutter (maximum : Nat) : Cutter UInt8 Frame FrameDecodeError where
  cut := cut maximum
  sized := by
    intro bytes frame size found
    rcases cut_cases maximum bytes with
      ⟨other, _⟩ | ⟨other, _⟩ | ⟨complete, _, ⟨_, other, _⟩ | ⟨_, other, _⟩⟩
    · rw [other] at found
      cases found
    · rw [other] at found
      cases found
    · rw [other] at found
      cases found
    · rw [other] at found
      cases found
      unfold frameHeaderBytes at complete ⊢
      omega
  cutStays := by
    intro bytes frame size later found
    rw [cut_append (by rw [found]; exact nofun), found]
  refusalStays := by
    intro bytes failure later refused
    rw [cut_append (by rw [refused]; exact nofun), refused]

theorem cutAll_nil (maximum : Nat) :
    (cutter maximum).cutAll [] = ([], []) :=
  Cutter.cutAll_of_incomplete rfl

/-- No frame is left in front of the remainder. -/
theorem cut_rest (maximum : Nat) (bytes : List UInt8) (frame : Frame)
    (size : Nat) :
    cut maximum ((cutter maximum).cutAll bytes).2 ≠ .piece frame size := by
  change (cutter maximum).cut _ ≠ _
  apply Cutter.cut_remainder

end Frame

namespace FrameDecoder

/-- What the inner loop makes of the buffer: the frames cut off its front,
and a refusal that empties the buffer only when it is the header that is
refused. -/
def settle (decoder : FrameDecoder) (frames : List Frame) :
    Pushed × FrameDecoder :=
  let (pieces, rest) :=
    (Frame.cutter decoder.maximumPayload).cutAll decoder.buffered
  match Frame.cut decoder.maximumPayload rest with
  | .refused failure =>
      (.error failure,
        { decoder with
          buffered :=
            if advertisedLength rest > decoder.maximumPayload then []
            else rest })
  | _ => (.ok (frames ++ pieces), { decoder with buffered := rest })

theorem settle_rest_incomplete {decoder : FrameDecoder}
    (frames : List Frame)
    (waiting : Frame.cut decoder.maximumPayload
      ((Frame.cutter decoder.maximumPayload).cutAll decoder.buffered).2 =
        .incomplete) :
    decoder.settle frames =
      (.ok (frames ++
          ((Frame.cutter decoder.maximumPayload).cutAll decoder.buffered).1),
        { decoder with
          buffered := ((Frame.cutter decoder.maximumPayload).cutAll
            decoder.buffered).2 }) := by
  unfold settle
  simp only [waiting]

theorem settle_rest_refused {decoder : FrameDecoder}
    {failure : FrameDecodeError} (frames : List Frame)
    (refused : Frame.cut decoder.maximumPayload
      ((Frame.cutter decoder.maximumPayload).cutAll decoder.buffered).2 =
        .refused failure) :
    decoder.settle frames =
      (.error failure,
        { decoder with
          buffered :=
            if advertisedLength ((Frame.cutter
                decoder.maximumPayload).cutAll decoder.buffered).2 >
                  decoder.maximumPayload then []
            else ((Frame.cutter decoder.maximumPayload).cutAll
              decoder.buffered).2 }) := by
  unfold settle
  simp only [refused]

theorem settle_of_incomplete {decoder : FrameDecoder} (frames : List Frame)
    (waiting : Frame.cut decoder.maximumPayload decoder.buffered =
      .incomplete) :
    decoder.settle frames = (.ok frames, decoder) := by
  have whole := Cutter.cutAll_of_incomplete
    (show (Frame.cutter decoder.maximumPayload).cut _ = _ from waiting)
  rw [settle_rest_incomplete frames (by rw [whole]; exact waiting), whole,
    List.append_nil]

theorem settle_of_refused {decoder : FrameDecoder}
    {failure : FrameDecodeError} (frames : List Frame)
    (refused : Frame.cut decoder.maximumPayload decoder.buffered =
      .refused failure) :
    decoder.settle frames =
      (.error failure,
        { decoder with
          buffered :=
            if advertisedLength decoder.buffered > decoder.maximumPayload
            then [] else decoder.buffered }) := by
  have whole := Cutter.cutAll_of_refused
    (show (Frame.cutter decoder.maximumPayload).cut _ = _ from refused)
  rw [settle_rest_refused frames (by rw [whole]; exact refused), whole]

theorem settle_of_piece {decoder : FrameDecoder} {frame : Frame}
    {size : Nat} (frames : List Frame)
    (found : Frame.cut decoder.maximumPayload decoder.buffered =
      .piece frame size) :
    decoder.settle frames =
      settle { decoder with buffered := decoder.buffered.drop size }
        (frames ++ [frame]) := by
  unfold settle
  rw [Cutter.cutAll_of_piece found]
  simp only [List.append_assoc, List.singleton_append]

theorem drainWithin_eq (passes : Nat) (decoder : FrameDecoder)
    (frames : List Frame) (enough : decoder.buffered.length < passes) :
    drainWithin passes decoder frames = some (decoder.settle frames) := by
  induction passes generalizing decoder frames with
  | zero => omega
  | succ passes induction =>
      unfold drainWithin
      rcases Frame.cut_cases decoder.maximumPayload decoder.buffered with
        ⟨waiting, short⟩ | ⟨refused, header, oversized⟩ |
        ⟨complete, fits, decoded⟩
      · rw [settle_of_incomplete frames waiting]
        rcases short with short | ⟨fits, partly⟩
        · rw [if_pos short]
        · by_cases short : decoder.buffered.length < frameHeaderBytes
          · rw [if_pos short]
          · rw [if_neg short]
            dsimp only
            rw [if_neg (by omega), if_pos partly]
      · rw [if_neg (by omega)]
        dsimp only
        rw [if_pos oversized, settle_of_refused frames refused,
          if_pos oversized]
      · rw [if_neg (by omega)]
        dsimp only
        rw [if_neg (by omega), if_neg (by omega)]
        rcases decoded with
          ⟨failure, refused, failed⟩ | ⟨frame, found, decoded⟩
        · rw [failed, settle_of_refused frames refused, if_neg (by omega)]
        · rw [decoded, settle_of_piece frames found]
          apply induction
          simp only [List.length_drop]
          unfold frameHeaderBytes at complete ⊢
          omega

theorem drain_eq (decoder : FrameDecoder) (frames : List Frame) :
    decoder.drain frames = decoder.settle frames := by
  unfold drain
  rw [Option.get_of_eq_some]
  exact drainWithin_eq _ decoder frames (Nat.lt_succ_self _)

/-! ## What a push does -/

/-- The decoder asks for more bytes. -/
def Waiting (decoder : FrameDecoder) : Prop :=
  Frame.cut decoder.maximumPayload decoder.buffered = .incomplete

/-- Cutting everything the decoder has been given. -/
def cutWith (decoder : FrameDecoder) (bytes : List UInt8) :
    List Frame × List UInt8 :=
  (Frame.cutter decoder.maximumPayload).cutAll (decoder.buffered ++ bytes)

theorem cutWith_nil {decoder : FrameDecoder} (waiting : decoder.Waiting) :
    decoder.cutWith [] = ([], decoder.buffered) := by
  unfold cutWith
  rw [List.append_nil]
  exact Cutter.cutAll_of_incomplete waiting

/-- The refused part of the buffer that stays: nothing of an oversized
header, the whole of a complete frame. -/
def keptOf (maximum : Nat) (rest : List UInt8) : List UInt8 :=
  if advertisedLength rest > maximum then []
  else rest.take (frameHeaderBytes + advertisedLength rest)

/-- What a push makes of all its bytes at once. -/
def digest (decoder : FrameDecoder) (frames : List Frame)
    (bytes : List UInt8) : Pushed × FrameDecoder :=
  let (pieces, rest) := decoder.cutWith bytes
  match Frame.cut decoder.maximumPayload rest with
  | .refused failure =>
      (.error failure,
        { decoder with buffered := keptOf decoder.maximumPayload rest })
  | _ => (.ok (frames ++ pieces), { decoder with buffered := rest })

theorem digest_of_incomplete {decoder : FrameDecoder} {bytes : List UInt8}
    (frames : List Frame)
    (waiting : Frame.cut decoder.maximumPayload (decoder.cutWith bytes).2 =
      .incomplete) :
    decoder.digest frames bytes =
      (.ok (frames ++ (decoder.cutWith bytes).1),
        { decoder with buffered := (decoder.cutWith bytes).2 }) := by
  unfold digest
  simp only [waiting]

theorem digest_of_refused {decoder : FrameDecoder} {bytes : List UInt8}
    {failure : FrameDecodeError} (frames : List Frame)
    (refused : Frame.cut decoder.maximumPayload (decoder.cutWith bytes).2 =
      .refused failure) :
    decoder.digest frames bytes =
      (.error failure,
        { decoder with
          buffered :=
            keptOf decoder.maximumPayload (decoder.cutWith bytes).2 }) := by
  unfold digest
  simp only [refused]

/-- A frame that the last byte completes is all there is in the buffer. -/
theorem complete_exactly {maximum : Nat} {bytes : List UInt8} {byte : UInt8}
    (waiting : Frame.cut maximum bytes = .incomplete)
    (complete : frameHeaderBytes + advertisedLength (bytes ++ [byte]) ≤
      (bytes ++ [byte]).length) :
    frameHeaderBytes + advertisedLength (bytes ++ [byte]) =
      (bytes ++ [byte]).length := by
  rw [List.length_append, List.length_singleton] at complete ⊢
  by_cases header : frameHeaderBytes ≤ bytes.length
  · rw [Frame.advertisedLength_append header] at complete ⊢
    rcases Frame.cut_cases maximum bytes with
      ⟨_, short⟩ | ⟨other, _⟩ | ⟨_, _, ⟨_, other, _⟩ | ⟨_, other, _⟩⟩
    · omega
    · rw [waiting] at other
      cases other
    · rw [waiting] at other
      cases other
    · rw [waiting] at other
      cases other
  · omega

/-- The refused frame is all that one more byte leaves in the buffer. -/
theorem keptOf_single {maximum : Nat} {bytes : List UInt8} {byte : UInt8}
    {failure : FrameDecodeError}
    (waiting : Frame.cut maximum bytes = .incomplete)
    (refused : Frame.cut maximum
      ((Frame.cutter maximum).cutAll (bytes ++ [byte])).2 =
        .refused failure) :
    keptOf maximum ((Frame.cutter maximum).cutAll (bytes ++ [byte])).2 =
      if advertisedLength ((Frame.cutter maximum).cutAll (bytes ++ [byte])).2 >
          maximum then []
      else ((Frame.cutter maximum).cutAll (bytes ++ [byte])).2 := by
  rcases Frame.cut_cases maximum (bytes ++ [byte]) with
    ⟨other, _⟩ | ⟨other, _, oversized⟩ |
    ⟨complete, within, ⟨_, other, _⟩ | ⟨frame, found, _⟩⟩
  · rw [Cutter.cutAll_of_incomplete other] at refused
    rw [other] at refused
    cases refused
  · rw [Cutter.cutAll_of_refused other]
    dsimp only
    rw [keptOf, if_pos oversized, if_pos oversized]
  · rw [Cutter.cutAll_of_refused other]
    dsimp only
    rw [keptOf, complete_exactly waiting complete, List.take_length]
  · -- The frame takes the whole buffer, so nothing is left to refuse.
    have whole := complete_exactly waiting complete
    have nothing : (bytes ++ [byte]).drop
        (frameHeaderBytes + advertisedLength (bytes ++ [byte])) = [] := by
      rw [whole, List.drop_length]
    rw [Cutter.cutAll_of_piece found, nothing, Frame.cutAll_nil] at refused
    cases refused

/-- More bytes behind a refused frame do not change what is kept. -/
theorem keptOf_append {maximum : Nat} {rest : List UInt8}
    {failure : FrameDecodeError}
    (refused : Frame.cut maximum rest = .refused failure)
    (later : List UInt8) :
    keptOf maximum (rest ++ later) = keptOf maximum rest := by
  rcases Frame.cut_cases maximum rest with
    ⟨other, _⟩ | ⟨_, header, oversized⟩ | ⟨complete, within, _⟩
  · rw [other] at refused
    cases refused
  · unfold keptOf
    rw [Frame.advertisedLength_append header, if_pos oversized,
      if_pos oversized]
  · unfold keptOf
    rw [Frame.advertisedLength_append (by omega),
      List.take_append_of_le_length complete]

theorem pushFrom_eq (frames : List Frame) {decoder : FrameDecoder}
    (waiting : decoder.Waiting) (bytes : List UInt8) :
    pushFrom frames decoder bytes = decoder.digest frames bytes := by
  induction bytes generalizing frames decoder with
  | nil =>
      have unchanged := cutWith_nil waiting
      rw [digest_of_incomplete frames (by rw [unchanged]; exact waiting),
        unchanged, List.append_nil]
      rfl
  | cons byte rest induction =>
      have split : decoder.buffered ++ byte :: rest =
          decoder.buffered ++ [byte] ++ rest := by
        rw [List.append_assoc]
        rfl
      unfold pushFrom
      rw [drain_eq]
      unfold settle
      dsimp only
      cases found : Frame.cut decoder.maximumPayload
          ((Frame.cutter decoder.maximumPayload).cutAll
            (decoder.buffered ++ [byte])).2 with
      | piece frame size =>
          exact absurd found (Frame.cut_rest _ _ _ _)
      | incomplete =>
          dsimp only
          rw [induction _ (show Waiting { decoder with buffered := _ } from
            found)]
          unfold digest cutWith
          rw [split, Cutter.cutAll_append (decoder.buffered ++ [byte]) rest]
          simp only [List.append_assoc]
      | refused failure =>
          have remainder : (decoder.cutWith (byte :: rest)).2 =
              ((Frame.cutter decoder.maximumPayload).cutAll
                (decoder.buffered ++ [byte])).2 ++ rest := by
            unfold cutWith
            rw [split, Cutter.cutAll_append_of_refused found]
          have still := (Frame.cutter decoder.maximumPayload).refusalStays
            rest found
          rw [← remainder] at still
          rw [digest_of_refused frames still, remainder,
            keptOf_append found, keptOf_single waiting found]

theorem push_eq {decoder : FrameDecoder} (waiting : decoder.Waiting)
    (bytes : List UInt8) : decoder.push bytes = decoder.digest [] bytes :=
  pushFrom_eq [] waiting bytes

theorem cutWith_append {decoder : FrameDecoder}
    (bytes later : List UInt8) :
    decoder.cutWith (bytes ++ later) =
      ((decoder.cutWith bytes).1 ++
          (cutWith { decoder with buffered := (decoder.cutWith bytes).2 }
            later).1,
        (cutWith { decoder with buffered := (decoder.cutWith bytes).2 }
          later).2) := by
  unfold cutWith
  rw [← List.append_assoc]
  apply Cutter.cutAll_append

theorem cutWith_refused_append {decoder : FrameDecoder}
    {bytes : List UInt8} {failure : FrameDecodeError}
    (refused : Frame.cut decoder.maximumPayload (decoder.cutWith bytes).2 =
      .refused failure) (later : List UInt8) :
    decoder.cutWith (bytes ++ later) =
      ((decoder.cutWith bytes).1, (decoder.cutWith bytes).2 ++ later) := by
  unfold cutWith
  rw [← List.append_assoc]
  exact Cutter.cutAll_append_of_refused refused later

/-- What the bytes make of the decoder: it waits, or it has refused. -/
theorem cutWith_waits_or_refuses (decoder : FrameDecoder)
    (bytes : List UInt8) :
    Frame.cut decoder.maximumPayload (decoder.cutWith bytes).2 =
        .incomplete ∨
      ∃ failure, Frame.cut decoder.maximumPayload
        (decoder.cutWith bytes).2 = .refused failure := by
  cases found : Frame.cut decoder.maximumPayload
      (decoder.cutWith bytes).2 with
  | piece frame size => exact absurd found (Frame.cut_rest _ _ _ _)
  | incomplete => exact .inl rfl
  | refused failure => exact .inr ⟨failure, rfl⟩

/-- The chunks arrive without an error exactly when nothing in their bytes is
refused. -/
theorem pushAll_clean_iff {decoder : FrameDecoder}
    (waiting : decoder.Waiting) (chunks : List (List UInt8)) :
    Clean (decoder.pushAll chunks).1 ↔
      Frame.cut decoder.maximumPayload
        (decoder.cutWith chunks.flatten).2 = .incomplete := by
  induction chunks generalizing decoder with
  | nil =>
      rw [List.flatten_nil, cutWith_nil waiting]
      exact iff_of_true nofun waiting
  | cons chunk rest induction =>
      rw [List.flatten_cons]
      unfold pushAll
      rw [push_eq waiting]
      rcases cutWith_waits_or_refuses decoder chunk with
        continued | ⟨failure, refused⟩
      · rw [digest_of_incomplete [] continued,
          cutWith_append]
        have later := induction
          (show Waiting { decoder with buffered := _ } from continued)
        rw [← later]
        unfold Clean
        rw [List.forall_mem_cons]
        exact and_iff_right rfl
      · rw [digest_of_refused [] refused, cutWith_refused_append refused]
        have still := (Frame.cutter decoder.maximumPayload).refusalStays
          rest.flatten refused
        constructor
        · intro clean
          exact absurd (clean _ List.mem_cons_self) (by exact nofun)
        · intro other
          exact absurd (still.symm.trans other) nofun

/-- Chunks that arrive without an error are cut like their bytes. -/
theorem pushAll_of_clean {decoder : FrameDecoder}
    (waiting : decoder.Waiting) {chunks : List (List UInt8)}
    (clean : Clean (decoder.pushAll chunks).1) :
    framesReceived (decoder.pushAll chunks).1 =
        (decoder.cutWith chunks.flatten).1 ∧
      (decoder.pushAll chunks).2 =
        { decoder with
          buffered := (decoder.cutWith chunks.flatten).2 } := by
  induction chunks generalizing decoder with
  | nil =>
      rw [List.flatten_nil, cutWith_nil waiting]
      exact ⟨rfl, rfl⟩
  | cons chunk rest induction =>
      rw [List.flatten_cons]
      unfold pushAll at clean ⊢
      rw [push_eq waiting] at clean ⊢
      rcases cutWith_waits_or_refuses decoder chunk with
        continued | ⟨failure, refused⟩
      · rw [digest_of_incomplete [] continued] at clean ⊢
        unfold Clean at clean
        rw [List.forall_mem_cons] at clean
        obtain ⟨received, kept⟩ := induction
          (show Waiting { decoder with buffered := _ } from continued)
          clean.2
        rw [cutWith_append]
        refine ⟨?_, kept⟩
        rw [← received]
        rfl
      · rw [digest_of_refused [] refused] at clean
        exact absurd (clean _ List.mem_cons_self) (by exact nofun)

theorem waiting_of_new {maximum : Nat} {decoder : FrameDecoder}
    (fresh : new maximum = .ok decoder) :
    decoder.maximumPayload = maximum ∧ decoder.buffered = [] ∧
      decoder.Waiting := by
  unfold new at fresh
  split at fresh
  · cases fresh
    exact ⟨rfl, rfl, rfl⟩
  · cases fresh

/-- Chunk boundaries do not matter as long as nothing is refused, and the
inner loop always stops. -/
theorem pushAll_independent_of_chunking :
    (∀ (decoder : FrameDecoder) (frames : List Frame), ∃ passes,
      drainWithin passes decoder frames = some (decoder.drain frames)) ∧
    ∀ (maximum : Nat) (decoder : FrameDecoder),
      new maximum = .ok decoder →
      ∀ left right : List (List UInt8), left.flatten = right.flatten →
      Clean (decoder.pushAll left).1 →
        Clean (decoder.pushAll right).1 ∧
        framesReceived (decoder.pushAll left).1 =
          ((Frame.cutter maximum).cutAll left.flatten).1 ∧
        framesReceived (decoder.pushAll right).1 =
          ((Frame.cutter maximum).cutAll left.flatten).1 ∧
        (decoder.pushAll left).2.buffered =
          ((Frame.cutter maximum).cutAll left.flatten).2 ∧
        (decoder.pushAll right).2.buffered =
          ((Frame.cutter maximum).cutAll left.flatten).2 := by
  constructor
  · intro decoder frames
    refine ⟨decoder.buffered.length + 1, ?_⟩
    rw [drain_eq]
    exact drainWithin_eq _ decoder frames (Nat.lt_succ_self _)
  · intro maximum decoder fresh left right same clean
    obtain ⟨rfl, empty, waiting⟩ := waiting_of_new fresh
    have cleanRight : Clean (decoder.pushAll right).1 := by
      rw [pushAll_clean_iff waiting, ← same, ← pushAll_clean_iff waiting]
      exact clean
    have onBytes : decoder.cutWith left.flatten =
        (Frame.cutter decoder.maximumPayload).cutAll left.flatten := by
      unfold cutWith
      rw [empty, List.nil_append]
    obtain ⟨receivedLeft, keptLeft⟩ := pushAll_of_clean waiting clean
    obtain ⟨receivedRight, keptRight⟩ :=
      pushAll_of_clean waiting cleanRight
    rw [← same] at receivedRight keptRight
    rw [← onBytes]
    refine ⟨cleanRight, receivedLeft, receivedRight, ?_, ?_⟩
    · rw [keptLeft]
    · rw [keptRight]

/-- An optional frame and the first byte of another, coalesced in one way and
split in another. -/
theorem pushAll_split_optional :
    ∃ decoder, new 16 = .ok decoder ∧
      Clean (decoder.pushAll [[0x80], [], [0, 0, 0, 0x81]]).1 ∧
      (decoder.pushAll [[0x80], [], [0, 0, 0, 0x81]]).2.buffered =
        (decoder.pushAll [[0x80, 0, 0, 0], [0x81]]).2.buffered := by
  refine ⟨_, rfl, ?_⟩
  obtain ⟨clean, _, _, left, right⟩ :=
    pushAll_independent_of_chunking.2 16 _ rfl
      [[0x80, 0, 0, 0], [0x81]] [[0x80], [], [0, 0, 0, 0x81]] rfl
      (by decide)
  exact ⟨clean, right.trans left.symm⟩

end FrameDecoder

end Velum.Protocol
