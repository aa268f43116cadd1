import Velum.Foundation.BigEndian
import Velum.Foundation.Checked
import Velum.Foundation.Cutting
import Velum.Helper.Protocol

/-!
# Incremental decoding of helper requests

The decoder reads a four-byte length and then a body, and uses one buffer for
both.  Between two calls it is determined by the bytes of the unfinished frame
(`holding`), so a call is the cutting of those bytes and the bytes that
arrived, and the boundaries between calls do not matter.
-/

namespace Velum.Helper

open Foundation

structure RequestDecoder where
  buffer : List UInt8
  expectedBodyLength : Option Nat
  deriving DecidableEq

namespace RequestDecoder

def new : RequestDecoder := ⟨[], none⟩

/-- Discards a failed or disconnected peer's partial frame. -/
def clear (_ : RequestDecoder) : RequestDecoder := ⟨[], none⟩

/-- Appends at most `required` bytes of the input to the buffer.  Returns the
bytes that are left. -/
def fill (decoder : RequestDecoder) (required : Nat) (bytes : List UInt8) :
    RequestDecoder × List UInt8 :=
  let consumed := min required bytes.length
  ({ decoder with buffer := decoder.buffer ++ bytes.take consumed },
    bytes.drop consumed)

/-- How one pass through the loop of `push` ends. -/
inductive Pass where
  | underflow
  | waiting (decoder : RequestDecoder)
  | failed (error : CodecError) (decoder : RequestDecoder)
  | decoded (request : Request) (decoder : RequestDecoder)
      (bytes : List UInt8)
  deriving DecidableEq

variable (parse : List UInt8 → Option Request)

/-- The part of a pass behind the header.  The buffers are those that an
extension produced, in order. -/
def readBody (bodyLength : Nat) (decoder : RequestDecoder)
    (bytes : List UInt8) : Pass × List (List UInt8) :=
  match sizeSub bodyLength decoder.buffer.length with
  | none => (.underflow, [])
  | some required =>
      let (decoder, bytes) := decoder.fill required bytes
      if decoder.buffer.length < bodyLength then
        (.waiting decoder, [decoder.buffer])
      else
        match decodeRequest parse decoder.buffer with
        | .ok request =>
            (.decoded request ⟨[], none⟩ bytes, [decoder.buffer])
        | .error error =>
            (.failed error (clear ⟨[], none⟩), [decoder.buffer])

def pass (decoder : RequestDecoder) (bytes : List UInt8) :
    Pass × List (List UInt8) :=
  match decoder.expectedBodyLength with
  | some length => readBody parse length decoder bytes
  | none =>
      match sizeSub frameHeaderLength decoder.buffer.length with
      | none => (.underflow, [])
      | some required =>
          let (decoder, bytes) := decoder.fill required bytes
          if decoder.buffer.length < frameHeaderLength then
            (.waiting decoder, [decoder.buffer])
          else
            let length := ofBigEndian (decoder.buffer.take frameHeaderLength)
            if length = 0 then
              (.failed .emptyFrame decoder.clear, [decoder.buffer])
            else if length > maxFrameLength then
              (.failed .frameTooLarge decoder.clear, [decoder.buffer])
            else
              let (result, buffers) :=
                readBody parse length ⟨[], some length⟩ bytes
              (result, decoder.buffer :: buffers)

inductive Panic where
  | subtractOverflow
  deriving DecidableEq, Repr

/-- What a call of `push` leaves behind: its outcome, the decoder, and every
content that an extension gave to the buffer. -/
structure Pushed where
  outcome : Outcome Panic CodecError (List Request)
  decoder : RequestDecoder
  buffers : List (List UInt8)

/-- The loop of `push` for at most `fuel` passes; `none` is a loop that is
still going. -/
def pushWithin : Nat → RequestDecoder → List UInt8 → Option Pushed
  | 0, _, _ => none
  | fuel + 1, decoder, bytes =>
      match pass parse decoder bytes with
      | (.underflow, buffers) =>
          some ⟨.panic .subtractOverflow, decoder, buffers⟩
      | (.waiting decoder, buffers) => some ⟨.ok [], decoder, buffers⟩
      | (.failed error decoder, buffers) =>
          some ⟨.err error, decoder, buffers⟩
      | (.decoded request decoder bytes, buffers) =>
          if bytes = [] then some ⟨.ok [request], decoder, buffers⟩
          else
            (pushWithin fuel decoder bytes).map fun later =>
              { later with
                outcome := later.outcome.bimap (request :: ·) id
                buffers := buffers ++ later.buffers }

/-- Appends bytes and returns every complete request now available. -/
def push (decoder : RequestDecoder) (bytes : List UInt8) : Option Pushed :=
  pushWithin parse (bytes.length + 1) decoder bytes

/-! ## Cutting requests off a stream -/

def announced (bytes : List UInt8) : Nat :=
  ofBigEndian (bytes.take frameHeaderLength)

def cut (bytes : List UInt8) : Cut Request CodecError :=
  if bytes.length < frameHeaderLength then .incomplete
  else if announced bytes = 0 then .refused .emptyFrame
  else if announced bytes > maxFrameLength then .refused .frameTooLarge
  else if bytes.length < frameHeaderLength + announced bytes then .incomplete
  else
    match decodeRequest parse
        ((bytes.drop frameHeaderLength).take (announced bytes)) with
    | .ok request => .piece request (frameHeaderLength + announced bytes)
    | .error error => .refused error

variable {parse}

theorem announced_append {bytes : List UInt8}
    (header : frameHeaderLength ≤ bytes.length) (later : List UInt8) :
    announced (bytes ++ later) = announced bytes := by
  simp only [announced, List.take_append_of_le_length header]

theorem cut_append {bytes : List UInt8}
    (decided : cut parse bytes ≠ .incomplete) (later : List UInt8) :
    cut parse (bytes ++ later) = cut parse bytes := by
  by_cases header : bytes.length < frameHeaderLength
  · simp [cut, header] at decided
  have longer : ¬(bytes ++ later).length < frameHeaderLength := by
    rw [List.length_append]
    omega
  have enough : frameHeaderLength ≤ bytes.length := by omega
  have same := announced_append enough later
  unfold cut at decided ⊢
  rw [if_neg header] at decided ⊢
  rw [if_neg longer, same]
  by_cases empty : announced bytes = 0
  · rw [if_pos empty, if_pos empty]
  rw [if_neg empty] at decided ⊢
  rw [if_neg empty]
  by_cases oversized : announced bytes > maxFrameLength
  · rw [if_pos oversized, if_pos oversized]
  rw [if_neg oversized] at decided ⊢
  rw [if_neg oversized]
  by_cases partly : bytes.length < frameHeaderLength + announced bytes
  · rw [if_pos partly] at decided
    exact absurd rfl decided
  · have inside : announced bytes ≤ (bytes.drop frameHeaderLength).length := by
      rw [List.length_drop]
      omega
    rw [if_neg partly, if_neg (by rw [List.length_append]; omega),
      List.drop_append_of_le_length enough,
      List.take_append_of_le_length inside]

theorem cut_sized {bytes : List UInt8} {request : Request} {size : Nat}
    (found : cut parse bytes = .piece request size) :
    frameHeaderLength < size ∧ size ≤ bytes.length := by
  unfold cut at found
  split at found
  · cases found
  split at found
  · cases found
  split at found
  · cases found
  split at found
  · cases found
  split at found
  · cases found
    omega
  · cases found

/-- Requests behind their declared lengths. -/
def cutter (parse : List UInt8 → Option Request) :
    Cutter UInt8 Request CodecError where
  cut := cut parse
  sized := by
    intro bytes request size found
    have bounds := cut_sized found
    omega
  cutStays := by
    intro bytes request size later found
    have decided : cut parse bytes ≠ .incomplete := by
      rw [found]
      intro impossible
      cases impossible
    rw [cut_append decided, found]
  refusalStays := by
    intro bytes failure later refused
    have decided : cut parse bytes ≠ .incomplete := by
      rw [refused]
      intro impossible
      cases impossible
    rw [cut_append decided, refused]

/-- The decoder between two calls, computed from the bytes of the unfinished
frame alone. -/
def holding (pending : List UInt8) : RequestDecoder :=
  if pending.length < frameHeaderLength then ⟨pending, none⟩
  else ⟨pending.drop frameHeaderLength, some (announced pending)⟩

theorem fill_eq (decoder : RequestDecoder) (required : Nat)
    (bytes : List UInt8) :
    decoder.fill required bytes =
      ({ decoder with buffer := decoder.buffer ++ bytes.take required },
        bytes.drop required) := by
  unfold fill
  rcases Nat.le_total required bytes.length with enough | short
  · simp only [Nat.min_eq_left enough]
  · simp only [Nat.min_eq_right short, List.take_length, List.drop_length,
      List.take_of_length_le short, List.drop_of_length_le short]

/-- What a pass makes of the unfinished frame with the bytes that arrived. -/
def passOf (parse : List UInt8 → Option Request) (input : List UInt8) :
    Pass :=
  match cut parse input with
  | .incomplete => .waiting (holding input)
  | .refused error => .failed error new
  | .piece request size => .decoded request new (input.drop size)

/-- The body part of a pass, once the header of the input is known to announce
an acceptable length. -/
theorem readBody_eq {input buffer bytes : List UInt8}
    (header : frameHeaderLength ≤ input.length)
    (positive : announced input ≠ 0)
    (accepted : announced input ≤ maxFrameLength)
    (split : buffer ++ bytes = input.drop frameHeaderLength)
    (started : buffer.length ≤ announced input) :
    readBody parse (announced input) ⟨buffer, some (announced input)⟩ bytes =
      (passOf parse input,
        [(input.drop frameHeaderLength).take (announced input)]) := by
  have required : sizeSub (announced input) buffer.length =
      some (announced input - buffer.length) :=
    sizeSub_eq_some_iff.mpr (by omega)
  have body : buffer ++ bytes.take (announced input - buffer.length) =
      (input.drop frameHeaderLength).take (announced input) := by
    rw [← split, List.take_append, List.take_of_length_le started]
  have rest : bytes.drop (announced input - buffer.length) =
      input.drop (frameHeaderLength + announced input) := by
    rw [← List.drop_drop, ← split, List.drop_append,
      List.drop_of_length_le started, List.nil_append]
  have size : ((input.drop frameHeaderLength).take
      (announced input)).length =
        min (announced input) (input.length - frameHeaderLength) := by
    rw [List.length_take, List.length_drop]
  simp only [readBody, required, fill_eq, body, rest, size, passOf, cut,
    if_neg (Nat.not_lt.mpr header), if_neg positive,
    if_neg (Nat.not_lt.mpr accepted), gt_iff_lt]
  by_cases partly : input.length < frameHeaderLength + announced input
  · rw [if_pos (by omega), if_pos partly, List.take_of_length_le]
    · simp only [holding, if_neg (Nat.not_lt.mpr header)]
    · rw [List.length_drop]
      omega
  · rw [if_neg (by omega), if_neg partly]
    cases decodeRequest parse
        ((input.drop frameHeaderLength).take (announced input)) with
    | ok request => rfl
    | error error => rfl

/-- A pass that still reads the header. -/
theorem pass_in_header {pending : List UInt8}
    (short : pending.length < frameHeaderLength) (bytes : List UInt8) :
    ∃ buffers,
      pass parse ⟨pending, none⟩ bytes =
        (passOf parse (pending ++ bytes), buffers) ∧
      ∀ buffer ∈ buffers, buffer.length ≤ maxFrameLength := by
  have required : sizeSub frameHeaderLength pending.length =
      some (frameHeaderLength - pending.length) :=
    sizeSub_eq_some_iff.mpr (by omega)
  have front : pending ++ bytes.take (frameHeaderLength - pending.length) =
      (pending ++ bytes).take frameHeaderLength := by
    rw [List.take_append, List.take_of_length_le short.le]
  have rest : bytes.drop (frameHeaderLength - pending.length) =
      (pending ++ bytes).drop frameHeaderLength := by
    rw [List.drop_append, List.drop_of_length_le short.le, List.nil_append]
  generalize pending ++ bytes = input at front rest
  have length : ofBigEndian (input.take frameHeaderLength) =
      announced input := rfl
  have bounded : (input.take frameHeaderLength).length ≤ maxFrameLength := by
    rw [List.length_take]
    exact (Nat.min_le_left _ _).trans (by decide)
  simp only [pass, required, fill_eq, front, rest, List.take_take,
    Nat.min_self, List.length_take, clear, length]
  by_cases few : input.length < frameHeaderLength
  · refine ⟨[input.take frameHeaderLength], ?_, by simpa using bounded⟩
    rw [if_pos (by omega)]
    simp only [passOf, cut, holding, if_pos few,
      List.take_of_length_le few.le]
  rw [if_neg (by omega)]
  by_cases empty : announced input = 0
  · refine ⟨[input.take frameHeaderLength], ?_, by simpa using bounded⟩
    rw [if_pos empty]
    simp only [passOf, cut, if_neg few, if_pos empty, new]
  rw [if_neg empty]
  by_cases oversized : announced input > maxFrameLength
  · refine ⟨[input.take frameHeaderLength], ?_, by simpa using bounded⟩
    rw [if_pos oversized]
    simp only [passOf, cut, if_neg few, if_neg empty, if_pos oversized, new]
  have body : readBody parse (announced input) ⟨[], some (announced input)⟩
      (input.drop frameHeaderLength) = (passOf parse input,
        [(input.drop frameHeaderLength).take (announced input)]) := by
    apply readBody_eq
    · omega
    · exact empty
    · omega
    · rfl
    · exact Nat.zero_le _
  rw [if_neg oversized, body]
  refine ⟨_, rfl, ?_⟩
  intro buffer member
  rcases List.mem_cons.mp member with rfl | member
  · exact bounded
  · rw [List.mem_singleton.mp member, List.length_take]
    omega

/-- An unfinished frame whose header is complete announces an acceptable
length that it does not have yet. -/
theorem unfinished_body {pending : List UInt8}
    (header : ¬pending.length < frameHeaderLength)
    (unfinished : cut parse pending = .incomplete) :
    announced pending ≠ 0 ∧ announced pending ≤ maxFrameLength ∧
      pending.length < frameHeaderLength + announced pending := by
  have positive : announced pending ≠ 0 := by
    intro empty
    simp [cut, header, empty] at unfinished
  have accepted : announced pending ≤ maxFrameLength := by
    by_contra oversized
    simp [cut, header, positive, Nat.lt_of_not_le oversized] at unfinished
  refine ⟨positive, accepted, ?_⟩
  by_contra complete
  simp only [cut, if_neg header, if_neg positive,
    if_neg (Nat.not_lt.mpr accepted), if_neg complete, gt_iff_lt]
    at unfinished
  split at unfinished <;> cases unfinished

/-- A pass that begins with the header already read. -/
theorem pass_in_body {pending : List UInt8}
    (header : ¬pending.length < frameHeaderLength)
    (unfinished : cut parse pending = .incomplete) (bytes : List UInt8) :
    ∃ buffers,
      pass parse
          ⟨pending.drop frameHeaderLength, some (announced pending)⟩ bytes =
        (passOf parse (pending ++ bytes), buffers) ∧
      ∀ buffer ∈ buffers, buffer.length ≤ maxFrameLength := by
  have same := announced_append (Nat.not_lt.mp header) bytes
  obtain ⟨positive, accepted, partly⟩ := unfinished_body header unfinished
  simp only [pass, ← same]
  rw [readBody_eq]
  · refine ⟨_, rfl, ?_⟩
    intro buffer member
    rw [List.mem_singleton.mp member, List.length_take]
    omega
  · rw [List.length_append]
    omega
  · rw [same]
    exact positive
  · rw [same]
    exact accepted
  · rw [List.drop_append_of_le_length (Nat.not_lt.mp header)]
  · rw [List.length_drop, same]
    omega

theorem pass_holding {pending : List UInt8}
    (unfinished : cut parse pending = .incomplete) (bytes : List UInt8) :
    ∃ buffers,
      pass parse (holding pending) bytes =
        (passOf parse (pending ++ bytes), buffers) ∧
      ∀ buffer ∈ buffers, buffer.length ≤ maxFrameLength := by
  unfold holding
  by_cases short : pending.length < frameHeaderLength
  · rw [if_pos short]
    exact pass_in_header short bytes
  · rw [if_neg short]
    exact pass_in_body short unfinished bytes

/-! ## Whole calls -/

theorem cut_nil : cut parse [] = .incomplete := rfl

theorem pushWithin_mono {fuel more : Nat} {decoder : RequestDecoder}
    {bytes : List UInt8} {pushed : Pushed}
    (finished : pushWithin parse fuel decoder bytes = some pushed)
    (enough : fuel ≤ more) :
    pushWithin parse more decoder bytes = some pushed := by
  induction fuel generalizing more decoder bytes pushed with
  | zero => cases finished
  | succ fuel induction =>
      obtain ⟨more, rfl⟩ : ∃ rest, more = rest + 1 := ⟨more - 1, by omega⟩
      unfold pushWithin at finished ⊢
      split at finished
      · exact finished
      · exact finished
      · exact finished
      · split at finished
        · rename_i last
          rw [if_pos last]
          exact finished
        · rename_i left
          rw [if_neg left]
          obtain ⟨later, ended, rfl⟩ := Option.map_eq_some_iff.mp finished
          rw [induction ended (by omega)]
          rfl

/-- A piece that the unfinished frame did not contain ends in the bytes that
arrived. -/
theorem piece_beyond {pending bytes : List UInt8} {request : Request}
    {size : Nat} (unfinished : cut parse pending = .incomplete)
    (found : cut parse (pending ++ bytes) = .piece request size) :
    pending.length < size := by
  by_contra inside
  have decided : cut parse pending ≠ .incomplete := by
    have bounds := cut_sized found
    have header : ¬pending.length < frameHeaderLength := by omega
    unfold cut at found ⊢
    rw [announced_append (by omega)] at found
    rw [if_neg header]
    split at found
    · cases found
    split at found
    · cases found
    rename_i positive
    split at found
    · cases found
    rename_i accepted
    split at found
    · cases found
    split at found
    · cases found
      rw [if_neg positive, if_neg accepted, if_neg (by omega)]
      split <;> exact fun impossible => by cases impossible
    · cases found
  exact decided unfinished

/-- The outcome and the decoder of a call, from the unfinished frame with the
bytes that arrived. -/
def ended (parse : List UInt8 → Option Request) (input : List UInt8) :
    Outcome Panic CodecError (List Request) × RequestDecoder :=
  match cut parse ((cutter parse).cutAll input).2 with
  | .refused error => (.err error, new)
  | _ => (.ok ((cutter parse).cutAll input).1,
      holding ((cutter parse).cutAll input).2)

theorem new_eq_holding : new = holding [] := rfl

theorem ended_nil : ended parse [] = (.ok [], new) := by
  have all : (cutter parse).cutAll [] = ([], []) :=
    Cutter.cutAll_of_incomplete (@cut_nil parse)
  simp only [ended, all, cut_nil, new_eq_holding]

theorem ended_of_incomplete {input : List UInt8}
    (unfinished : cut parse input = .incomplete) :
    ended parse input = (.ok [], holding input) := by
  have all : (cutter parse).cutAll input = ([], input) :=
    Cutter.cutAll_of_incomplete unfinished
  simp only [ended, all, unfinished]

/-- Either a failure stands in front of whatever arrives later, or the calls
before it left an unfinished frame from which the rest is read. -/
theorem ended_append (input later : List UInt8) :
    (∃ error, ended parse input = (.err error, new) ∧
      ended parse (input ++ later) = (.err error, new)) ∨
    ∃ rest requests, ended parse input = (.ok requests, holding rest) ∧
      cut parse rest = .incomplete ∧
      ended parse (input ++ later) =
        ((ended parse (rest ++ later)).1.bimap (requests ++ ·) id,
          (ended parse (rest ++ later)).2) := by
  have joined := (cutter parse).cutAll_append input later
  generalize all : (cutter parse).cutAll input = cuts at joined
  obtain ⟨requests, rest⟩ := cuts
  cases found : cut parse rest with
  | piece request size =>
      have remainder := @Cutter.cut_remainder _ _ _ (cutter parse) input
        request size
      rw [all] at remainder
      exact absurd found remainder
  | refused error =>
      left
      have stays : (cutter parse).cutAll (rest ++ later) =
          ([], rest ++ later) :=
        Cutter.cutAll_of_refused ((cutter parse).refusalStays later found)
      have still : cut parse (rest ++ later) = .refused error :=
        (cutter parse).refusalStays later found
      refine ⟨error, ?_, ?_⟩
      · simp only [ended, all, found]
      · simp only [ended, joined, stays, still]
  | incomplete =>
      right
      refine ⟨rest, requests, ?_, found, ?_⟩
      · simp only [ended, all, found]
      · simp only [ended, joined]
        split <;> rfl

theorem ended_of_piece {input : List UInt8} {request : Request} {size : Nat}
    (found : cut parse input = .piece request size) :
    ended parse input =
      ((ended parse (input.drop size)).1.bimap (request :: ·) id,
        (ended parse (input.drop size)).2) := by
  have all : (cutter parse).cutAll input =
      (request :: ((cutter parse).cutAll (input.drop size)).1,
        ((cutter parse).cutAll (input.drop size)).2) :=
    Cutter.cutAll_of_piece found
  simp only [ended, all]
  split <;> rfl

theorem pushWithin_holding {pending bytes : List UInt8} {fuel : Nat}
    (unfinished : cut parse pending = .incomplete)
    (enough : bytes.length < fuel) :
    ∃ buffers,
      pushWithin parse fuel (holding pending) bytes =
        some ⟨(ended parse (pending ++ bytes)).1,
          (ended parse (pending ++ bytes)).2, buffers⟩ ∧
      ∀ buffer ∈ buffers, buffer.length ≤ maxFrameLength := by
  induction fuel generalizing pending bytes with
  | zero => omega
  | succ fuel induction =>
      obtain ⟨buffers, passed, bounded⟩ := pass_holding unfinished bytes
      cases found : cut parse (pending ++ bytes) with
      | incomplete =>
          have all : (cutter parse).cutAll (pending ++ bytes) =
              ([], pending ++ bytes) := Cutter.cutAll_of_incomplete found
          refine ⟨buffers, ?_, bounded⟩
          simp only [pushWithin, passed, passOf, found, ended, all]
      | refused error =>
          have all : (cutter parse).cutAll (pending ++ bytes) =
              ([], pending ++ bytes) := Cutter.cutAll_of_refused found
          refine ⟨buffers, ?_, bounded⟩
          simp only [pushWithin, passed, passOf, found, ended, all]
      | piece request size =>
          have beyond := piece_beyond unfinished found
          have bounds := cut_sized found
          have fewer : ((pending ++ bytes).drop size).length < fuel := by
            rw [List.length_drop]
            rw [List.length_append] at bounds ⊢
            omega
          have more := ended_of_piece found
          simp only [pushWithin, passed, passOf, found]
          generalize (pending ++ bytes).drop size = rest at fewer more ⊢
          by_cases last : rest = []
          · refine ⟨buffers, ?_, bounded⟩
            rw [if_pos last, more, last, ended_nil]
            rfl
          · obtain ⟨later, finished, laterBounded⟩ := induction cut_nil fewer
            rw [if_neg last, more, new_eq_holding, finished]
            refine ⟨buffers ++ later, rfl, ?_⟩
            intro buffer member
            rcases List.mem_append.mp member with early | late
            · exact bounded buffer early
            · exact laterBounded buffer late

theorem push_holding {pending : List UInt8}
    (unfinished : cut parse pending = .incomplete) (bytes : List UInt8) :
    ∃ pushed, (∀ fuel, bytes.length < fuel →
        pushWithin parse fuel (holding pending) bytes = some pushed) ∧
      pushed.outcome = (ended parse (pending ++ bytes)).1 ∧
      pushed.decoder = (ended parse (pending ++ bytes)).2 ∧
      ∀ buffer ∈ pushed.buffers, buffer.length ≤ maxFrameLength := by
  obtain ⟨buffers, finished, bounded⟩ :=
    pushWithin_holding unfinished (Nat.lt_succ_self bytes.length)
  refine ⟨⟨_, _, buffers⟩, ?_, rfl, rfl, bounded⟩
  intro fuel enough
  exact pushWithin_mono finished enough

theorem holding_bounded {pending : List UInt8}
    (unfinished : cut parse pending = .incomplete) :
    (holding pending).buffer.length ≤ maxFrameLength := by
  unfold holding
  by_cases short : pending.length < frameHeaderLength
  · rw [if_pos short]
    exact short.le.trans (by decide)
  · obtain ⟨_, accepted, partly⟩ := unfinished_body short unfinished
    rw [if_neg short]
    simp only [List.length_drop]
    omega

/-- A call leaves a decoder that holds an unfinished frame. -/
theorem ended_holding (input : List UInt8) :
    ∃ pending, cut parse pending = .incomplete ∧
      (ended parse input).2 = holding pending := by
  unfold ended
  split
  · exact ⟨[], cut_nil, rfl⟩
  · rename_i accepted
    refine ⟨_, ?_, rfl⟩
    cases found : cut parse ((cutter parse).cutAll input).2 with
    | incomplete => rfl
    | refused error => exact absurd found (accepted error)
    | piece request size =>
        exact absurd found (@Cutter.cut_remainder _ _ _ (cutter parse) _ _ _)

/-! ## Every splitting of a stream -/

/-- A decoder of some sequence of calls, failed ones included. -/
inductive Used (parse : List UInt8 → Option Request) :
    RequestDecoder → Prop where
  | new : Used parse new
  | push {decoder : RequestDecoder} {bytes : List UInt8} {pushed : Pushed} :
      Used parse decoder → push parse decoder bytes = some pushed →
      Used parse pushed.decoder
  | clear {decoder : RequestDecoder} :
      Used parse decoder → Used parse decoder.clear

theorem used_holding {decoder : RequestDecoder} (used : Used parse decoder) :
    ∃ pending, cut parse pending = .incomplete ∧
      decoder = holding pending := by
  induction used with
  | new => exact ⟨[], cut_nil, rfl⟩
  | push _ called induction =>
      obtain ⟨pending, unfinished, rfl⟩ := induction
      obtain ⟨pushed, finished, _, left, _⟩ := push_holding unfinished _
      have same := called.symm.trans (finished _ (Nat.lt_succ_self _))
      obtain rfl := Option.some.inj same
      rw [left]
      exact ended_holding _
  | clear _ _ => exact ⟨[], cut_nil, rfl⟩

/-- Pushes one chunk after another; `none` is a call that did not return the
requests it found. -/
def pushAll (parse : List UInt8 → Option Request) :
    RequestDecoder → List (List UInt8) →
    Option (List Request × RequestDecoder)
  | decoder, [] => some ([], decoder)
  | decoder, bytes :: later =>
      match push parse decoder bytes with
      | some ⟨.ok requests, decoder, _⟩ =>
          (pushAll parse decoder later).map fun (more, final) =>
            (requests ++ more, final)
      | _ => none

theorem pushAll_holding {pending : List UInt8}
    (unfinished : cut parse pending = .incomplete)
    (chunks : List (List UInt8)) :
    pushAll parse (holding pending) chunks =
      match ended parse (pending ++ chunks.flatten) with
      | (.ok requests, decoder) => some (requests, decoder)
      | _ => none := by
  induction chunks generalizing pending with
  | nil =>
      simp only [pushAll, List.flatten_nil, List.append_nil,
        ended_of_incomplete unfinished]
  | cons bytes later induction =>
      obtain ⟨pushed, finished, outcome, decoder, _⟩ :=
        push_holding unfinished bytes
      have called : push parse (holding pending) bytes = some pushed :=
        finished _ (Nat.lt_succ_self _)
      obtain ⟨_, _, buffers⟩ := pushed
      simp only at outcome decoder
      subst outcome decoder
      rw [List.flatten_cons, ← List.append_assoc]
      rcases @ended_append parse (pending ++ bytes) later.flatten with
        ⟨error, failed, stays⟩ | ⟨rest, requests, left, waits, joined⟩
      · simp only [pushAll, called, failed, stays]
      · simp only [pushAll, called, left, induction waits, joined]
        rcases ended parse (rest ++ later.flatten) with ⟨_ | _ | _, final⟩
        · rfl
        · rfl
        · rfl

theorem ended_returned (input : List UInt8) :
    (ended parse input).1.Returned := by
  unfold ended
  split
  · exact Outcome.returned_err _
  · exact Outcome.returned_ok _

/-- Every call on a used decoder returns within one pass for each byte and one
more, its subtractions do not underflow and its buffer stays within the bound.
A stream that one splitting decodes is decoded by every splitting, to the same
requests and the same decoder. -/
theorem push_sound_for_every_splitting
    (parse : List UInt8 → Option Request) :
    (∀ decoder, Used parse decoder → ∀ bytes, ∃ pushed,
      (∀ fuel, bytes.length < fuel →
        pushWithin parse fuel decoder bytes = some pushed) ∧
      pushed.outcome.Returned ∧
      (∀ buffer ∈ pushed.buffers, buffer.length ≤ maxFrameLength) ∧
      pushed.decoder.buffer.length ≤ maxFrameLength) ∧
    ∀ left right : List (List UInt8), left.flatten = right.flatten →
      ∀ requests decoder, pushAll parse new left = some (requests, decoder) →
        pushAll parse new right = some (requests, decoder) := by
  constructor
  · intro decoder used bytes
    obtain ⟨pending, unfinished, rfl⟩ := used_holding used
    obtain ⟨pushed, finished, outcome, left, bounded⟩ :=
      push_holding unfinished bytes
    obtain ⟨rest, waits, kept⟩ := @ended_holding parse (pending ++ bytes)
    refine ⟨pushed, finished, ?_, bounded, ?_⟩
    · rw [outcome]
      exact ended_returned _
    · rw [left, kept]
      exact holding_bounded waits
  · intro left right same requests decoder decoded
    rw [new_eq_holding, pushAll_holding cut_nil] at decoded ⊢
    rw [← same]
    exact decoded

/-- A reader that knows one body, the single byte of a brace. -/
def oneBody (body : List UInt8) : Option Request :=
  if body = [123] then some ⟨1, 7, 0, ∅, .hello⟩ else none

theorem push_sound_for_two_splittings :
    (∃ pushed, push oneBody new [0, 0, 0, 0] = some pushed ∧
      pushed.outcome.Returned) ∧
    pushAll oneBody new [[0, 0, 0, 1, 123]] =
      some ([⟨1, 7, 0, ∅, .hello⟩], new) := by
  constructor
  · obtain ⟨pushed, finished, returned, _⟩ :=
      (push_sound_for_every_splitting oneBody).1 new .new [0, 0, 0, 0]
    exact ⟨pushed, finished _ (by decide), returned⟩
  · apply (push_sound_for_every_splitting oneBody).2
      [[0, 0], [], [0, 1], [], [123]]
    · rfl
    · decide

end RequestDecoder

end Velum.Helper
