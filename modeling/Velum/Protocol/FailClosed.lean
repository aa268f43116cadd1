import Velum.Protocol.DecoderErrors

/-!
# Where frames come from

The decoder is followed with the position of each byte in the stream.
Forgetting the positions gives the decoder back, so each frame that it returns
is known together with the bytes it was parsed from.  This tells whether a
frame that is returned after an error was taken from inside the rejected one.
-/

namespace Velum.Protocol

open Foundation

/-- A byte and its position in the stream. -/
abbrev PlacedByte := UInt8 × Nat

/-- A frame and the bytes it was parsed from. -/
abbrev PlacedFrame := Frame × List PlacedByte

abbrev bytesOf (placed : List PlacedByte) : List UInt8 :=
  placed.map Prod.fst

structure PlacedDecoder where
  maximumPayload : Nat
  maximumAccepted : maximumPayload ≤ maxFramePayload
  buffered : List PlacedByte

namespace PlacedDecoder

abbrev Pushed := Except FrameDecodeError (List PlacedFrame)

/-- The decoder without the positions. -/
def forget (placed : PlacedDecoder) : FrameDecoder :=
  { maximumPayload := placed.maximumPayload
    maximumAccepted := placed.maximumAccepted
    buffered := bytesOf placed.buffered }

/-- A push result without the positions. -/
def forgetPushed : Pushed × PlacedDecoder →
    FrameDecoder.Pushed × FrameDecoder
  | (.ok frames, next) => (.ok (frames.map Prod.fst), next.forget)
  | (.error failure, next) => (.error failure, next.forget)

/-- The start of a stream. -/
def atStart (decoder : FrameDecoder) : PlacedDecoder :=
  { maximumPayload := decoder.maximumPayload
    maximumAccepted := decoder.maximumAccepted
    buffered := [] }

/-- Frames cut off the bytes, and the bytes that are left. -/
def cutAll (maximum : Nat) (bytes : List PlacedByte) :
    List PlacedFrame × List PlacedByte :=
  ((Frame.cutter maximum).labelled Prod.fst).cutAll bytes

/-- The inner loop of `push`. -/
def drain (placed : PlacedDecoder) (frames : List PlacedFrame) :
    Pushed × PlacedDecoder :=
  let (pieces, rest) := cutAll placed.maximumPayload placed.buffered
  match Frame.cut placed.maximumPayload (bytesOf rest) with
  | .refused failure =>
      (.error failure,
        { placed with
          buffered :=
            if advertisedLength (bytesOf rest) > placed.maximumPayload
            then [] else rest })
  | _ => (.ok (frames ++ pieces), { placed with buffered := rest })

/-- The outer loop of `push`. -/
def pushFrom (frames : List PlacedFrame) : PlacedDecoder →
    List PlacedByte → Pushed × PlacedDecoder
  | placed, [] => (.ok frames, placed)
  | placed, byte :: rest =>
      match drain { placed with buffered := placed.buffered ++ [byte] }
          frames with
      | (.error failure, after) => (.error failure, after)
      | (.ok collected, after) => pushFrom collected after rest

def push (placed : PlacedDecoder) (bytes : List PlacedByte) :
    Pushed × PlacedDecoder :=
  pushFrom [] placed bytes

/-- Pushes the chunks one after the other, the first at a position. -/
def pushAll (placed : PlacedDecoder) (position : Nat) :
    List (List UInt8) → List Pushed × PlacedDecoder
  | [] => ([], placed)
  | chunk :: rest =>
      let (outcome, next) := placed.push (chunk.zipIdx position)
      let (outcomes, last) := pushAll next (position + chunk.length) rest
      (outcome :: outcomes, last)

/-- The frames that the caller received. -/
def received (outcomes : List Pushed) : List PlacedFrame :=
  outcomes.flatMap fun
    | .ok frames => frames
    | .error _ => []

/-! ## Forgetting the positions -/

theorem forget_cutAll (maximum : Nat) (bytes : List PlacedByte) :
    (cutAll maximum bytes).1.map Prod.fst =
        ((Frame.cutter maximum).cutAll (bytesOf bytes)).1 ∧
      bytesOf (cutAll maximum bytes).2 =
        ((Frame.cutter maximum).cutAll (bytesOf bytes)).2 :=
  Cutter.labelled_forget bytes

theorem cutAll_of_no_frame {maximum : Nat} {bytes : List PlacedByte}
    (none : ∀ frame size,
      Frame.cut maximum (bytesOf bytes) ≠ .piece frame size) :
    cutAll maximum bytes = ([], bytes) :=
  Cutter.cutAll_of_no_piece (Cutter.labelled_of_no_piece none)

theorem drain_of_incomplete {placed : PlacedDecoder}
    (frames : List PlacedFrame)
    (waiting : Frame.cut placed.maximumPayload
      (bytesOf (cutAll placed.maximumPayload placed.buffered).2) =
        .incomplete) :
    placed.drain frames =
      (.ok (frames ++ (cutAll placed.maximumPayload placed.buffered).1),
        { placed with
          buffered :=
            (cutAll placed.maximumPayload placed.buffered).2 }) := by
  unfold drain
  simp only [waiting]

theorem drain_of_refused {placed : PlacedDecoder}
    {failure : FrameDecodeError} (frames : List PlacedFrame)
    (refused : Frame.cut placed.maximumPayload
      (bytesOf (cutAll placed.maximumPayload placed.buffered).2) =
        .refused failure) :
    placed.drain frames =
      (.error failure,
        { placed with
          buffered :=
            if advertisedLength (bytesOf
                (cutAll placed.maximumPayload placed.buffered).2) >
                  placed.maximumPayload then []
            else (cutAll placed.maximumPayload placed.buffered).2 }) := by
  unfold drain
  simp only [refused]

/-- The inner loop waits or refuses. -/
theorem drain_cases (placed : PlacedDecoder) :
    Frame.cut placed.maximumPayload
        (bytesOf (cutAll placed.maximumPayload placed.buffered).2) =
          .incomplete ∨
      ∃ failure, Frame.cut placed.maximumPayload
        (bytesOf (cutAll placed.maximumPayload placed.buffered).2) =
          .refused failure := by
  cases found : Frame.cut placed.maximumPayload
      (bytesOf (cutAll placed.maximumPayload placed.buffered).2) with
  | incomplete => exact .inl rfl
  | refused failure => exact .inr ⟨failure, rfl⟩
  | piece frame size =>
      rw [(forget_cutAll _ _).2] at found
      exact absurd found (Frame.cut_rest _ _ _ _)

theorem forget_drain (placed : PlacedDecoder) (frames : List PlacedFrame) :
    forgetPushed (placed.drain frames) =
      placed.forget.drain (frames.map Prod.fst) := by
  obtain ⟨pieces, rest⟩ :=
    forget_cutAll placed.maximumPayload placed.buffered
  rw [FrameDecoder.drain_eq]
  rcases drain_cases placed with waiting | ⟨failure, refused⟩
  · rw [drain_of_incomplete frames waiting,
      FrameDecoder.settle_rest_incomplete _ (rest ▸ waiting)]
    dsimp only [forgetPushed, forget]
    rw [List.map_append, pieces, rest]
  · rw [drain_of_refused frames refused,
      FrameDecoder.settle_rest_refused _ (rest ▸ refused)]
    simp only [forgetPushed, forget, ← rest]
    split
    · rfl
    · rfl

theorem forget_pushFrom (placed : PlacedDecoder)
    (frames : List PlacedFrame) (bytes : List PlacedByte) :
    forgetPushed (placed.pushFrom frames bytes) =
      FrameDecoder.pushFrom (frames.map Prod.fst) placed.forget
        (bytesOf bytes) := by
  induction bytes generalizing placed frames with
  | nil => rfl
  | cons byte rest induction =>
      have drained := forget_drain
        { placed with buffered := placed.buffered ++ [byte] } frames
      have appended : forget
          { placed with buffered := placed.buffered ++ [byte] } =
            { placed.forget with
              buffered := placed.forget.buffered ++ [byte.1] } := by
        simp only [forget, bytesOf, List.map_append, List.map_cons,
          List.map_nil]
      rw [appended] at drained
      rw [bytesOf, List.map_cons]
      unfold pushFrom FrameDecoder.pushFrom
      rw [← drained]
      cases drain { placed with buffered := placed.buffered ++ [byte] }
          frames with
      | mk outcome next =>
      cases outcome with
      | error failure => rfl
      | ok collected => exact induction next collected

theorem forget_push (placed : PlacedDecoder) (bytes : List PlacedByte) :
    forgetPushed (placed.push bytes) =
      placed.forget.push (bytesOf bytes) :=
  forget_pushFrom placed [] bytes

theorem bytesOf_zipIdx (chunk : List UInt8) (position : Nat) :
    bytesOf (chunk.zipIdx position) = chunk := by
  simp

theorem forget_pushAll (placed : PlacedDecoder) (position : Nat)
    (chunks : List (List UInt8)) :
    (received (placed.pushAll position chunks).1).map Prod.fst =
        framesReceived (placed.forget.pushAll chunks).1 ∧
      (placed.pushAll position chunks).2.forget =
        (placed.forget.pushAll chunks).2 := by
  induction chunks generalizing placed position with
  | nil => exact ⟨rfl, rfl⟩
  | cons chunk rest induction =>
      have pushed := forget_push placed (chunk.zipIdx position)
      rw [bytesOf_zipIdx] at pushed
      unfold pushAll FrameDecoder.pushAll
      rw [← pushed]
      cases placed.push (chunk.zipIdx position) with
      | mk outcome next =>
      obtain ⟨frames, last⟩ := induction next (position + chunk.length)
      cases outcome with
      | error failure => exact ⟨frames, last⟩
      | ok collected =>
          refine ⟨?_, last⟩
          change List.map Prod.fst (collected ++ received _) =
            collected.map Prod.fst ++ framesReceived _
          rw [List.map_append, frames]

/-! ## Positions -/

section Positions

variable {inside : PlacedByte → Prop} {maximum : Nat}

/-- The frame was decoded from its bytes, and something holds of them. -/
def Sound (inside : PlacedByte → Prop) (maximum : Nat)
    (frame : PlacedFrame) : Prop :=
  Frame.decodeExact (bytesOf frame.2) maximum = .ok frame.1 ∧
    ∀ byte ∈ frame.2, inside byte

theorem cutAll_sound {bytes : List PlacedByte}
    (given : ∀ byte ∈ bytes, inside byte) :
    (∀ frame ∈ (cutAll maximum bytes).1, Sound inside maximum frame) ∧
      ∀ byte ∈ (cutAll maximum bytes).2, inside byte := by
  constructor
  · intro frame member
    obtain ⟨front, suffix, start, found⟩ := Cutter.labelled_pieces member
    constructor
    · have decoded := Frame.decodeExact_of_cut found
      rw [← List.map_take, ← List.prefix_iff_eq_take.mp start] at decoded
      exact decoded
    · intro byte used
      apply given
      exact suffix.subset (start.subset used)
  · intro byte member
    apply given
    exact (Cutter.remainder_suffix bytes).subset member

/-- What holds of the bytes holds of the results of a push. -/
def Within (inside : PlacedByte → Prop) (maximum : Nat) :
    Pushed × PlacedDecoder → Prop
  | (outcome, next) =>
      next.maximumPayload = maximum ∧
      (∀ byte ∈ next.buffered, inside byte) ∧
      ∀ frames, outcome = .ok frames →
        ∀ frame ∈ frames, Sound inside maximum frame

theorem drain_within {placed : PlacedDecoder} {frames : List PlacedFrame}
    (same : placed.maximumPayload = maximum)
    (buffered : ∀ byte ∈ placed.buffered, inside byte)
    (collected : ∀ frame ∈ frames, Sound inside maximum frame) :
    Within inside maximum (placed.drain frames) := by
  subst same
  obtain ⟨pieces, rest⟩ := cutAll_sound buffered
  rcases drain_cases placed with waiting | ⟨failure, refused⟩
  · rw [drain_of_incomplete frames waiting]
    refine ⟨rfl, rest, ?_⟩
    intro results returned frame member
    cases returned
    rcases List.mem_append.mp member with early | late
    · exact collected frame early
    · exact pieces frame late
  · rw [drain_of_refused frames refused]
    refine ⟨rfl, ?_, nofun⟩
    intro byte member
    dsimp only at member
    split at member
    · cases member
    · exact rest byte member

theorem pushFrom_within {placed : PlacedDecoder}
    {frames : List PlacedFrame} {bytes : List PlacedByte}
    (same : placed.maximumPayload = maximum)
    (buffered : ∀ byte ∈ placed.buffered, inside byte)
    (collected : ∀ frame ∈ frames, Sound inside maximum frame)
    (arriving : ∀ byte ∈ bytes, inside byte) :
    Within inside maximum (placed.pushFrom frames bytes) := by
  induction bytes generalizing placed frames with
  | nil =>
      refine ⟨same, buffered, ?_⟩
      intro results returned
      cases returned
      exact collected
  | cons byte rest induction =>
      rw [List.forall_mem_cons] at arriving
      have appended : ∀ other ∈ placed.buffered ++ [byte],
          inside other := by
        rw [List.forall_mem_append, List.forall_mem_singleton]
        exact ⟨buffered, arriving.1⟩
      have drained : Within inside maximum (drain
          { placed with buffered := placed.buffered ++ [byte] } frames) :=
        drain_within same appended collected
      unfold pushFrom
      cases found : drain
          { placed with buffered := placed.buffered ++ [byte] } frames with
      | mk outcome next =>
      rw [found] at drained
      cases outcome with
      | error failure => exact drained
      | ok results =>
          exact induction drained.1 drained.2.1 (drained.2.2 results rfl)
            arriving.2

theorem pushAll_within {placed : PlacedDecoder} {position : Nat}
    {chunks : List (List UInt8)}
    (same : placed.maximumPayload = maximum)
    (buffered : ∀ byte ∈ placed.buffered, inside byte)
    (arriving : ∀ byte ∈ chunks.flatten.zipIdx position, inside byte) :
    (∀ frame ∈ received (placed.pushAll position chunks).1,
        Sound inside maximum frame) ∧
      ∀ byte ∈ (placed.pushAll position chunks).2.buffered,
        inside byte := by
  induction chunks generalizing placed position with
  | nil => exact ⟨nofun, buffered⟩
  | cons chunk rest induction =>
      rw [List.flatten_cons, List.zipIdx_append,
        List.forall_mem_append] at arriving
      have pushed : Within inside maximum
          (placed.push (chunk.zipIdx position)) :=
        pushFrom_within same buffered nofun arriving.1
      unfold pushAll
      cases found : placed.push (chunk.zipIdx position) with
      | mk outcome next =>
      rw [found] at pushed
      obtain ⟨later, last⟩ := induction pushed.1 pushed.2.1 arriving.2
      cases outcome with
      | error failure => exact ⟨later, last⟩
      | ok frames =>
          refine ⟨?_, last⟩
          intro frame member
          rcases List.mem_append.mp member with early | late
          · exact pushed.2.2 frames rfl frame early
          · exact later frame late

end Positions

/-- The positions are those of the stream, and the bytes there are what the
frame was decoded from. -/
theorem received_from_stream {decoder : FrameDecoder}
    {chunks : List (List UInt8)} {frame : PlacedFrame}
    (returned : frame ∈ received ((atStart decoder).pushAll 0 chunks).1) :
    Sound (fun byte => chunks.flatten[byte.2]? = some byte.1)
      decoder.maximumPayload frame := by
  have given : ∀ byte ∈ chunks.flatten.zipIdx 0,
      chunks.flatten[byte.2]? = some byte.1 := by
    intro byte member
    exact List.mem_zipIdx_iff_getElem?.mp member
  have start : ∀ byte ∈ (atStart decoder).buffered,
      chunks.flatten[byte.2]? = some byte.1 := nofun
  exact (pushAll_within rfl start given).1 frame returned

/-! ## The rejected frame -/

/-- The bytes from the rejected frame on. -/
def rejectedBytes (decoder : FrameDecoder) (before : List (List UInt8))
    (failing : List UInt8) : List PlacedByte :=
  (cutAll decoder.maximumPayload
    (((atStart decoder).pushAll 0 before).2.buffered ++
      failing.zipIdx before.flatten.length)).2

/-- The position of the header of the frame in front. -/
def extentStart (bytes : List PlacedByte) : Nat :=
  (bytes.head?.map Prod.snd).getD 0

/-- The position behind the declared payload of the frame in front. -/
def extentEnd (bytes : List PlacedByte) : Nat :=
  extentStart bytes + frameHeaderBytes + advertisedLength (bytesOf bytes)

/-- The frames returned by the pushes after the failing one. -/
def returnedLater (decoder : FrameDecoder) (before : List (List UInt8))
    (failing : List UInt8) (after : List (List UInt8)) :
    List PlacedFrame :=
  received (((atStart decoder).pushAll 0 (before ++ [failing])).2.pushAll
    (before ++ [failing]).flatten.length after).1

theorem forget_atStart {decoder : FrameDecoder}
    (fresh : decoder.buffered = []) : (atStart decoder).forget = decoder := by
  cases decoder
  cases fresh
  rfl

theorem bytesOf_rejected {decoder : FrameDecoder}
    (fresh : decoder.buffered = []) (before : List (List UInt8))
    (failing : List UInt8) :
    bytesOf (rejectedBytes decoder before failing) =
      ((Frame.cutter decoder.maximumPayload).cutAll
        ((decoder.pushAll before).2.buffered ++ failing)).2 := by
  have buffered := congrArg FrameDecoder.buffered
    (forget_pushAll (atStart decoder) 0 before).2
  rw [forget_atStart fresh] at buffered
  change bytesOf _ = _ at buffered
  unfold rejectedBytes
  rw [(forget_cutAll _ _).2, bytesOf, List.map_append]
  change ((Frame.cutter _).cutAll (bytesOf _ ++ bytesOf _)).2 = _
  rw [buffered, bytesOf_zipIdx]

theorem rejectedBytes_first {decoder : FrameDecoder}
    {failing : List UInt8} {failure : FrameDecodeError}
    (refused : Frame.cut decoder.maximumPayload failing =
      .refused failure) :
    rejectedBytes decoder [] failing = failing.zipIdx 0 := by
  have whole : cutAll decoder.maximumPayload (failing.zipIdx 0) =
      ([], failing.zipIdx 0) := by
    apply cutAll_of_no_frame
    intro frame size found
    rw [bytesOf_zipIdx] at found
    exact absurd (refused.symm.trans found) nofun
  exact congrArg Prod.snd whole

/-- A rejected frame starts in front of where the failing push ends. -/
theorem extentStart_lt {decoder : FrameDecoder}
    {before : List (List UInt8)} {failing : List UInt8}
    (rejected : rejectedBytes decoder before failing ≠ []) :
    extentStart (rejectedBytes decoder before failing) <
      (before ++ [failing]).flatten.length := by
  have total : (before ++ [failing]).flatten.length =
      before.flatten.length + failing.length := by
    rw [List.flatten_append, List.length_append, List.flatten_singleton]
  have pushed : ∀ byte ∈ ((atStart decoder).pushAll 0 before).2.buffered,
      byte.2 < before.flatten.length := by
    have start : ∀ byte ∈ (atStart decoder).buffered,
        byte.2 < before.flatten.length := nofun
    refine (pushAll_within rfl start ?_).2
    intro byte member
    exact List.snd_lt_of_mem_zipIdx member
  have given : ∀ byte ∈ ((atStart decoder).pushAll 0 before).2.buffered ++
      failing.zipIdx before.flatten.length,
        byte.2 < (before ++ [failing]).flatten.length := by
    rw [total, List.forall_mem_append]
    constructor
    · intro byte member
      exact Nat.lt_of_lt_of_le (pushed byte member) (Nat.le_add_right _ _)
    · intro byte member
      have bound := List.snd_lt_of_mem_zipIdx member
      omega
  have earlier : ∀ byte ∈ rejectedBytes decoder before failing,
      byte.2 < (before ++ [failing]).flatten.length :=
    (cutAll_sound given).2
  cases found : rejectedBytes decoder before failing with
  | nil => exact absurd found rejected
  | cons first rest =>
      rw [found] at earlier
      exact earlier first List.mem_cons_self

/-- A byte that does not complete a header is kept. -/
theorem pushFrom_of_short {placed : PlacedDecoder}
    (frames : List PlacedFrame) (byte : PlacedByte)
    (rest : List PlacedByte)
    (short : placed.buffered.length + 1 < frameHeaderBytes) :
    placed.pushFrom frames (byte :: rest) =
      pushFrom frames
        { placed with buffered := placed.buffered ++ [byte] } rest := by
  have idle : Frame.cut placed.maximumPayload
      (bytesOf (placed.buffered ++ [byte])) = .incomplete := by
    apply if_pos
    rw [List.length_map, List.length_append]
    exact short
  have whole : cutAll placed.maximumPayload (placed.buffered ++ [byte]) =
      ([], placed.buffered ++ [byte]) := by
    apply cutAll_of_no_frame
    intro frame size found
    exact absurd (idle.symm.trans found) nofun
  have waits : Frame.cut placed.maximumPayload
      (bytesOf (cutAll placed.maximumPayload
        (placed.buffered ++ [byte])).2) = .incomplete := by
    rw [whole]
    exact idle
  have drained : drain
      { placed with buffered := placed.buffered ++ [byte] } frames = _ :=
    drain_of_incomplete frames waits
  rw [pushFrom, drained, whole, List.append_nil]

/-- An optional frame at the start of an empty buffer. -/
theorem push_optional {placed : PlacedDecoder} (position : Nat)
    (empty : placed.buffered = []) :
    received (placed.pushAll position [[0x80, 0, 0, 0]]).1 =
      [(.unknownOptional 0x80 [], [0x80, 0, 0, 0].zipIdx position)] := by
  obtain ⟨maximum, accepted, buffered⟩ := placed
  cases empty
  have decoded : Frame.decodeExact [0x80, 0, 0, 0] maximum =
      .ok (.unknownOptional 0x80 []) := by
    rw [Frame.decodeExact_eq_ok_iff]
    exact ⟨rfl, trivial, Nat.le_add_right _ _⟩
  have found : (Frame.cutter maximum).cut
      (([0x80, 0, 0, 0].zipIdx position).map Prod.fst) =
        .piece (.unknownOptional 0x80 []) 4 := by
    rw [List.zipIdx_map_fst]
    exact FrameDecoder.cut_of_decoded decoded
  have idle : ((Frame.cutter maximum).labelled Prod.fst).cut
      ([] : List PlacedByte) = .incomplete := rfl
  have nothing : ([0x80, 0, 0, 0].zipIdx position).drop 4 =
      ([] : List PlacedByte) := rfl
  have cuts : cutAll maximum ([0x80, 0, 0, 0].zipIdx position) =
      ([(.unknownOptional 0x80 [], [0x80, 0, 0, 0].zipIdx position)],
        []) := by
    unfold cutAll
    rw [Cutter.cutAll_of_piece (Cutter.labelled_of_piece found), nothing,
      Cutter.cutAll_of_incomplete idle]
    rfl
  have waits : Frame.cut maximum (bytesOf
      (cutAll maximum ([0x80, 0, 0, 0].zipIdx position)).2) =
        .incomplete := by
    rw [cuts]
    rfl
  have last : drain
      ⟨maximum, accepted, [0x80, 0, 0, 0].zipIdx position⟩ [] =
        (.ok [(.unknownOptional 0x80 [], [0x80, 0, 0, 0].zipIdx position)],
          ⟨maximum, accepted, []⟩) := by
    rw [drain_of_incomplete]
    · dsimp only
      rw [cuts]
      rfl
    · exact waits
  have pushed : push ⟨maximum, accepted, []⟩
      ([0x80, 0, 0, 0].zipIdx position) =
        (.ok [(.unknownOptional 0x80 [], [0x80, 0, 0, 0].zipIdx position)],
          ⟨maximum, accepted, []⟩) := by
    unfold push
    simp only [List.zipIdx_cons, List.zipIdx_nil] at last ⊢
    rw [pushFrom_of_short, pushFrom_of_short, pushFrom_of_short, pushFrom]
    · simp only [List.nil_append, List.cons_append, last, pushFrom]
    all_goals simp [frameHeaderBytes]
  unfold pushAll
  rw [pushed]
  rfl

/-- A stuck decoder returns nothing any more. -/
theorem received_of_stuck {placed : PlacedDecoder}
    (stuck : placed.forget.Stuck) (position : Nat)
    (chunks : List (List UInt8)) :
    received (placed.pushAll position chunks).1 = [] := by
  have forgotten := (forget_pushAll placed position chunks).1
  rw [(FrameDecoder.pushAll_of_stuck stuck chunks).2.2] at forgotten
  exact List.map_eq_nil_iff.mp forgotten

/-- From an empty buffer on only later bytes are parsed. -/
theorem received_later {placed : PlacedDecoder}
    (empty : placed.buffered = []) {position : Nat}
    {chunks : List (List UInt8)} {frame : PlacedFrame}
    (returned : frame ∈ received (placed.pushAll position chunks).1)
    {byte : PlacedByte} (used : byte ∈ frame.2) : position ≤ byte.2 := by
  have nothing : ∀ byte ∈ placed.buffered, position ≤ byte.2 := by
    rw [empty]
    exact nofun
  have arriving : ∀ byte ∈ chunks.flatten.zipIdx position,
      position ≤ byte.2 := by
    intro byte member
    exact List.le_snd_of_mem_zipIdx member
  exact ((pushAll_within rfl nothing arriving).1 frame returned).2 byte used

/-- With an empty buffer inside the extent of a rejected frame, the rest of
its payload is parsed. -/
theorem payload_parsed {decoder : FrameDecoder}
    {before : List (List UInt8)} {failing : List UInt8}
    (cleared : ((atStart decoder).pushAll 0
      (before ++ [failing])).2.buffered = [])
    (started : extentStart (rejectedBytes decoder before failing) <
      (before ++ [failing]).flatten.length)
    (unfinished : (before ++ [failing]).flatten.length <
      extentEnd (rejectedBytes decoder before failing)) :
    ¬∀ after, ∀ frame ∈ returnedLater decoder before failing after,
      ∀ byte ∈ frame.2,
        byte.2 < extentStart (rejectedBytes decoder before failing) ∨
        extentEnd (rejectedBytes decoder before failing) ≤ byte.2 := by
  intro closed
  have parsed : returnedLater decoder before failing [[0x80, 0, 0, 0]] = _ :=
    push_optional (before ++ [failing]).flatten.length cleared
  have found := closed [[0x80, 0, 0, 0]]
  rw [parsed, List.forall_mem_singleton] at found
  have first := found (0x80, (before ++ [failing]).flatten.length)
    List.mem_cons_self
  omega

/-- After an error nothing inside the rejected frame is parsed exactly when
the frame was complete, or oversized and all in the failing push. -/
theorem fails_closed_iff {maximum : Nat} {decoder : FrameDecoder}
    (fresh : FrameDecoder.new maximum = .ok decoder)
    (before : List (List UInt8)) (failing : List UInt8)
    {failure : FrameDecodeError}
    (failed : ((decoder.pushAll before).2.push failing).1 =
      .error failure) :
    (∀ after, ∀ frame ∈ returnedLater decoder before failing after,
      ∀ byte ∈ frame.2,
        byte.2 < extentStart (rejectedBytes decoder before failing) ∨
        extentEnd (rejectedBytes decoder before failing) ≤ byte.2) ↔
    advertisedLength (bytesOf (rejectedBytes decoder before failing)) ≤
        maximum ∨
      extentEnd (rejectedBytes decoder before failing) ≤
        (before ++ [failing]).flatten.length := by
  obtain ⟨rfl, empty, waiting⟩ := FrameDecoder.waiting_of_new fresh
  have after := (forget_pushAll (atStart decoder) 0
    (before ++ [failing])).2
  rw [forget_atStart empty, FrameDecoder.pushAll_snoc] at after
  obtain ⟨same, state⟩ :=
    FrameDecoder.pushAll_waits_or_sticks waiting before
  obtain ⟨header, states⟩ :=
    FrameDecoder.push_failed (state.imp_right And.left) failed
  unfold FrameDecoder.cutWith at header states
  rw [same, ← bytesOf_rejected empty] at header states
  rcases states with ⟨fits, stuck⟩ | ⟨oversized, emptied⟩
  · refine iff_of_true ?_ (.inl fits)
    rw [← after] at stuck
    intro chunks frame returned
    unfold returnedLater at returned
    rw [received_of_stuck stuck] at returned
    cases returned
  · rw [← after] at emptied
    have cleared : ((atStart decoder).pushAll 0
        (before ++ [failing])).2.buffered = [] :=
      List.map_eq_nil_iff.mp emptied
    constructor
    · intro closed
      have some : rejectedBytes decoder before failing ≠ [] := by
        intro none
        rw [none] at header
        exact absurd header (by decide)
      by_contra opened
      exact payload_parsed cleared (extentStart_lt some) (by omega) closed
    · intro reached
      have behind : extentEnd (rejectedBytes decoder before failing) ≤
          (before ++ [failing]).flatten.length := by
        omega
      intro chunks frame returned byte used
      have later := received_later cleared returned used
      right
      omega

/-- A complete frame that does not decode stays in the way. -/
theorem fails_closed_behind_malformed :
    ∃ decoder, FrameDecoder.new 0 = .ok decoder ∧
      ∀ after, ∀ frame ∈ returnedLater decoder [] [0x40, 0, 0, 0] after,
        ∀ byte ∈ frame.2,
          byte.2 < extentStart (rejectedBytes decoder [] [0x40, 0, 0, 0]) ∨
          extentEnd (rejectedBytes decoder [] [0x40, 0, 0, 0]) ≤
            byte.2 := by
  have fresh : FrameDecoder.new 0 = .ok ⟨0, by decide, []⟩ := rfl
  refine ⟨_, fresh,
    (fails_closed_iff fresh [] [0x40, 0, 0, 0] rfl).mpr (.inl ?_)⟩
  rw [rejectedBytes_first rfl]
  decide

/-- The payload of an oversized frame is parsed by the next push. -/
theorem oversized_payload_parsed :
    ∃ decoder, FrameDecoder.new 0 = .ok decoder ∧
      ((decoder.pushAll []).2.push [0x40, 0, 0, 4]).1 =
        .error (.payloadTooLarge 0 4) ∧
      ¬∀ after, ∀ frame ∈ returnedLater decoder [] [0x40, 0, 0, 4] after,
        ∀ byte ∈ frame.2,
          byte.2 < extentStart (rejectedBytes decoder [] [0x40, 0, 0, 4]) ∨
          extentEnd (rejectedBytes decoder [] [0x40, 0, 0, 4]) ≤
            byte.2 := by
  refine ⟨⟨0, by decide, []⟩, rfl, rfl, ?_⟩
  have rejected : rejectedBytes ⟨0, by decide, []⟩ [] [0x40, 0, 0, 4] =
      [0x40, 0, 0, 4].zipIdx 0 := rejectedBytes_first rfl
  apply payload_parsed
  · have forgotten := (forget_pushAll (atStart ⟨0, by decide, []⟩) 0
      [[0x40, 0, 0, 4]]).2
    exact List.map_eq_nil_iff.mp (congrArg FrameDecoder.buffered forgotten)
  · rw [rejected]
    decide
  · rw [rejected]
    decide

end PlacedDecoder

end Velum.Protocol
