import Mathlib.Algebra.Group.Nat.Defs
import Mathlib.Data.List.Basic

/-!
# Length-prefixed frames

A byte stream cut into frames: each is a length, four bytes with the most significant first, and
that many bytes. A frame of length zero ends the stream.

The decoder takes one byte at a time (`step`). It is in a header, in a payload, or past the end.
`decode_frames` says what it makes of frames without the last one, `decode_stream` what it makes of
a whole stream: the bytes of the frames, in order, and the end. Past the end it never comes back
(`Finished.append`), so a stream that is cut anywhere before its last byte is not a finished one.
-/

namespace Framing

/-- `struct.pack(">I", n)`, for a number below `2 ^ 32`. -/
def packU32 (n : ℕ) : List UInt8 :=
  [UInt8.ofNat (n / 2 ^ 24), UInt8.ofNat (n / 2 ^ 16), UInt8.ofNat (n / 2 ^ 8), UInt8.ofNat n]

/-- The number that bytes stand for, the most significant first. -/
def unpack (bytes : List UInt8) : ℕ :=
  bytes.foldl (fun n byte ↦ n * 256 + byte.toNat) 0

theorem unpack_packU32 {n : ℕ} (h : n < 2 ^ 32) : unpack (packU32 n) = n := by
  simp only [unpack, packU32, List.foldl_cons, List.foldl_nil, UInt8.toNat_ofNat']
  omega

/-- A frame with a payload. -/
def frame (payload : List UInt8) : List UInt8 :=
  packU32 payload.length ++ payload

/-- The frame that ends a stream. -/
def terminator : List UInt8 :=
  packU32 0

/-! ### The decoder -/

/-- Where a decoder is. -/
inductive Position
  /-- It has read these bytes of a length. -/
  | header (read : List UInt8)
  /-- It expects this many bytes of a payload. -/
  | payload (left : ℕ)
  /-- It is past the last frame, by these bytes. -/
  | finished (extra : List UInt8)
  deriving DecidableEq, Repr

/-- A decoder: its position, and the payload bytes it has read. -/
structure Decoder where
  position : Position
  content : List UInt8
  deriving DecidableEq, Repr

/-- The decoder at the start of a stream. -/
def Decoder.start : Decoder :=
  ⟨.header [], []⟩

/-- Where a decoder is after a length. -/
def afterHeader (length : ℕ) : Position :=
  if length = 0 then .finished [] else .payload length

/-- Read one byte. -/
def step (d : Decoder) (byte : UInt8) : Decoder :=
  match d.position with
  | .header read =>
    if read.length < 3 then { d with position := .header (read ++ [byte]) }
    else { d with position := afterHeader (unpack (read ++ [byte])) }
  | .payload left =>
    ⟨if left ≤ 1 then .header [] else .payload (left - 1), d.content ++ [byte]⟩
  | .finished extra => { d with position := .finished (extra ++ [byte]) }

/-- Read some bytes. -/
def Decoder.read (d : Decoder) (bytes : List UInt8) : Decoder :=
  bytes.foldl step d

/-- What a decoder makes of a stream. -/
def decode (bytes : List UInt8) : Decoder :=
  Decoder.start.read bytes

/-- The decoder has seen the last frame. -/
def Decoder.Finished (d : Decoder) : Prop :=
  ∃ extra, d.position = .finished extra

theorem Decoder.read_append (d : Decoder) (a b : List UInt8) :
    d.read (a ++ b) = (d.read a).read b :=
  List.foldl_append

/-- Past the last frame a decoder stays there. -/
theorem Decoder.Finished.read {d : Decoder} (h : d.Finished) (bytes : List UInt8) :
    (d.read bytes).Finished := by
  induction bytes generalizing d with
  | nil => exact h
  | cons byte bytes ih =>
    obtain ⟨extra, hextra⟩ := h
    refine ih (d := step d byte) ⟨extra ++ [byte], ?_⟩
    simp only [step, hextra]

/-- **A stream whose beginning is finished is finished.** -/
theorem Finished.append {a : List UInt8} (h : (decode a).Finished) (b : List UInt8) :
    (decode (a ++ b)).Finished := by
  rw [decode, Decoder.read_append]
  exact h.read b

/-! ### Decoding frames -/

/-- A length is read from its four bytes. -/
theorem read_header {n : ℕ} (h : n < 2 ^ 32) (content : List UInt8) :
    Decoder.read ⟨.header [], content⟩ (packU32 n) = ⟨afterHeader n, content⟩ := by
  have hfour : ∀ a b c d : UInt8, Decoder.read ⟨.header [], content⟩ [a, b, c, d] =
      ⟨afterHeader (unpack [a, b, c, d]), content⟩ := fun a b c d ↦ rfl
  rw [packU32, hfour, ← packU32, unpack_packU32 h]

/-- A payload is read to its end. -/
theorem read_payload {payload : List UInt8} (h : payload ≠ []) (content : List UInt8) :
    Decoder.read ⟨.payload payload.length, content⟩ payload =
      ⟨.header [], content ++ payload⟩ := by
  induction payload generalizing content with
  | nil => exact absurd rfl h
  | cons byte payload ih =>
    show Decoder.read (step ⟨.payload (payload.length + 1), content⟩ byte) payload = _
    cases payload with
    | nil => rfl
    | cons next payload =>
      have hstep : step ⟨.payload ((next :: payload).length + 1), content⟩ byte =
          ⟨.payload (next :: payload).length, content ++ [byte]⟩ := by
        simp [step]
      rw [hstep, ih (List.cons_ne_nil _ _), List.append_assoc, List.singleton_append]

/-- A frame is read to its end. -/
theorem read_frame {payload : List UInt8} (hne : payload ≠ []) (h : payload.length < 2 ^ 32)
    (content : List UInt8) :
    Decoder.read ⟨.header [], content⟩ (frame payload) = ⟨.header [], content ++ payload⟩ := by
  have hpos : payload.length ≠ 0 := fun hzero ↦ hne (List.length_eq_zero_iff.1 hzero)
  rw [frame, Decoder.read_append, read_header h, afterHeader, if_neg hpos, read_payload hne]

/-- **Frames decode to their payloads.** -/
theorem decode_frames {payloads : List (List UInt8)}
    (h : ∀ payload ∈ payloads, payload ≠ [] ∧ payload.length < 2 ^ 32) :
    decode (payloads.flatMap frame) = ⟨.header [], payloads.flatten⟩ := by
  suffices hread : ∀ content, Decoder.read ⟨.header [], content⟩ (payloads.flatMap frame) =
      ⟨.header [], content ++ payloads.flatten⟩ from hread []
  induction payloads with
  | nil =>
    intro content
    rw [List.flatten_nil, List.append_nil]
    rfl
  | cons payload payloads ih =>
    intro content
    obtain ⟨hne, hlength⟩ := h payload List.mem_cons_self
    rw [List.flatMap_cons, Decoder.read_append, read_frame hne hlength,
      ih (fun p hp ↦ h p (List.mem_cons_of_mem _ hp)), List.flatten_cons, List.append_assoc]

/-- **A whole stream decodes to its payloads and its end**, with nothing left over. -/
theorem decode_stream {payloads : List (List UInt8)}
    (h : ∀ payload ∈ payloads, payload ≠ [] ∧ payload.length < 2 ^ 32) :
    decode (payloads.flatMap frame ++ terminator) = ⟨.finished [], payloads.flatten⟩ := by
  rw [decode, Decoder.read_append, ← decode, decode_frames h, terminator,
    read_header (by decide), afterHeader, if_pos rfl]

/-- Frames that were cut anywhere, or not at all, have no end in them. -/
theorem not_finished_of_prefix {payloads : List (List UInt8)} {bytes : List UInt8}
    (h : ∀ payload ∈ payloads, payload ≠ [] ∧ payload.length < 2 ^ 32)
    (hinit : bytes <+: payloads.flatMap frame) : ¬(decode bytes).Finished := by
  intro hfinished
  obtain ⟨rest, hrest⟩ := hinit
  obtain ⟨extra, hextra⟩ := Finished.append hfinished rest
  rw [hrest, decode_frames h] at hextra
  cases hextra

end Framing
