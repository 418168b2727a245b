import Mathlib.Data.Nat.Notation
import SupportFlow.Foundations.Effect

/-!
# Byte streams and files

A stream is known by what its reads return, one after the other: a chunk, which is empty at the end
of the stream, or an exception. After the last entry of the list the stream is at its end.

`forChunks` is the loop `while chunk := source.read(n)`. What it sees of a stream is `delivered`,
the chunks before the end or the first exception, and `interruption`, the exception that cuts the
stream short; the bytes it sees are `content`. `Effect.Spec.forChunks` is its rule, with an
invariant over the chunks read so far.

A seekable file is a content and a position (`ByteFile`).
-/

/-- A seekable binary file that is open for reading. -/
structure ByteFile where
  content : List UInt8
  position : ℕ
deriving DecidableEq

namespace ByteFile

/-- `file.seek(position)`. -/
def seek (file : ByteFile) (position : ℕ) : ByteFile :=
  { file with position := position }

/-- What `file.read()` returns. -/
def rest (file : ByteFile) : List UInt8 :=
  file.content.drop file.position

/-- `file.read(n)`, with the file that it leaves. -/
def read (file : ByteFile) (n : ℕ) : List UInt8 × ByteFile :=
  (file.rest.take n, file.seek (file.position + (file.rest.take n).length))

/-- `file.write(bytes)`, at a position that is not past the end. -/
def write (file : ByteFile) (bytes : List UInt8) : ByteFile where
  content := file.content.take file.position ++ bytes ++
    file.content.drop (file.position + bytes.length)
  position := file.position + bytes.length

/-- From its start a file reads as its content. -/
@[simp]
theorem rest_seek_zero (file : ByteFile) : (file.seek 0).rest = file.content := rfl

/-- At its end a file grows by what is written. -/
theorem write_at_end (content bytes : List UInt8) :
    (⟨content, content.length⟩ : ByteFile).write bytes =
      ⟨content ++ bytes, (content ++ bytes).length⟩ := by
  simp [write]

end ByteFile

namespace ByteStream

open Effect

variable {ε σ : Type}

/-- The chunks of a stream, up to its end or its first exception. -/
def delivered : List (Except ε (List UInt8)) → List (List UInt8)
  | .ok (byte :: bytes) :: reads => (byte :: bytes) :: delivered reads
  | .ok [] :: _ => []
  | .error _ :: _ => []
  | [] => []

/-- The exception that ends a stream, if one does. -/
def interruption : List (Except ε (List UInt8)) → Option ε
  | .ok (_ :: _) :: reads => interruption reads
  | .ok [] :: _ => none
  | .error e :: _ => some e
  | [] => none

/-- The bytes of a stream. -/
def content (reads : List (Except ε (List UInt8))) : List UInt8 :=
  (delivered reads).flatten

/-- `while chunk := source.read(n): body(chunk)`. -/
def forChunks (body : List UInt8 → Effect ε σ PUnit) :
    List (Except ε (List UInt8)) → Effect ε σ PUnit
  | [] => pure ⟨⟩
  | read :: reads => do
    let chunk ← MonadExcept.ofExcept read
    if chunk = [] then return ⟨⟩
    body chunk
    forChunks body reads

theorem content_cons {chunk : List UInt8} (h : chunk ≠ []) (reads : List (Except ε (List UInt8))) :
    content (.ok chunk :: reads) = chunk ++ content reads := by
  obtain ⟨byte, bytes, rfl⟩ := List.exists_cons_of_ne_nil h
  rfl

theorem interruption_cons {chunk : List UInt8} (h : chunk ≠ [])
    (reads : List (Except ε (List UInt8))) :
    interruption (.ok chunk :: reads) = interruption reads := by
  obtain ⟨byte, bytes, rfl⟩ := List.exists_cons_of_ne_nil h
  rfl

/-- A stream that comes in chunks has the bytes of the chunks. -/
theorem content_map_ok {chunks : List (List UInt8)} (h : ∀ chunk ∈ chunks, chunk ≠ []) :
    content (chunks.map (Except.ok : _ → Except ε _)) = chunks.flatten := by
  induction chunks with
  | nil => rfl
  | cons chunk chunks ih =>
    have hrest := ih fun piece hpiece ↦ h piece (List.mem_cons_of_mem _ hpiece)
    rw [List.map_cons, content_cons (h chunk List.mem_cons_self), hrest, List.flatten_cons]

theorem interruption_map_ok {chunks : List (List UInt8)} (h : ∀ chunk ∈ chunks, chunk ≠ []) :
    interruption (chunks.map (Except.ok : _ → Except ε _)) = none := by
  induction chunks with
  | nil => rfl
  | cons chunk chunks ih =>
    rw [List.map_cons, interruption_cons (h chunk List.mem_cons_self)]
    exact ih fun piece hpiece ↦ h piece (List.mem_cons_of_mem _ hpiece)

theorem delivered_mapError {ε' : Type} (f : ε → ε') (reads : List (Except ε (List UInt8))) :
    delivered (reads.map fun read ↦ read.mapError f) = delivered reads := by
  induction reads with
  | nil => rfl
  | cons read reads ih =>
    rcases read with e | (- | ⟨byte, bytes⟩)
    · rfl
    · rfl
    · exact congrArg _ ih

theorem interruption_mapError {ε' : Type} (f : ε → ε') (reads : List (Except ε (List UInt8))) :
    interruption (reads.map fun read ↦ read.mapError f) =
      (interruption reads).map f := by
  induction reads with
  | nil => rfl
  | cons read reads ih =>
    rcases read with e | (- | ⟨byte, bytes⟩)
    · rfl
    · rfl
    · exact ih

/-- Every chunk that is delivered is one the stream was read for, and is not empty. -/
theorem of_mem_delivered {reads : List (Except ε (List UInt8))} {chunk : List UInt8}
    (h : chunk ∈ delivered reads) : .ok chunk ∈ reads ∧ chunk ≠ [] := by
  induction reads with
  | nil => cases h
  | cons read reads ih =>
    rcases read with e | (- | ⟨byte, bytes⟩)
    · cases h
    · cases h
    · rcases List.mem_cons.1 h with rfl | h
      · exact ⟨List.mem_cons_self, List.cons_ne_nil _ _⟩
      · exact ⟨List.mem_cons_of_mem _ (ih h).1, (ih h).2⟩

/-- **The loop does its body on each delivered chunk**, and then raises what cut the stream
short. -/
theorem forChunks_eq (body : List UInt8 → Effect ε σ PUnit)
    (reads : List (Except ε (List UInt8))) :
    forChunks body reads =
      (do
        forM (delivered reads) body
        match interruption reads with
        | none => pure ⟨⟩
        | some e => throw e) := by
  induction reads with
  | nil => rfl
  | cons read reads ih =>
    rcases read with e | (- | ⟨byte, bytes⟩)
    · rfl
    · rfl
    · show (body (byte :: bytes) >>= fun _ ↦ forChunks body reads) = _
      rw [ih]
      simp only [delivered, interruption, List.forM_cons, bind_assoc]

end ByteStream

namespace Effect.Spec

open ByteStream

variable {ε σ : Type} {E : ε → σ → Prop}

/-- **The rule of the reading loop**: `I done` holds once the chunks of `done` are dealt with. -/
theorem forChunks {body : List UInt8 → Effect ε σ PUnit} {reads : List (Except ε (List UInt8))}
    {I : List (List UInt8) → σ → Prop}
    (hbody : ∀ done chunk, (done ++ [chunk]) <+: delivered reads →
      Spec (I done) (body chunk) (fun _ ↦ I (done ++ [chunk])) E)
    (hend : ∀ e, interruption reads = some e → ∀ s, I (delivered reads) s → E e s) :
    Spec (I []) (ByteStream.forChunks body reads)
      (fun _ s ↦ interruption reads = none ∧ I (delivered reads) s) E := by
  rw [forChunks_eq]
  refine (Spec.forM_ hbody).bind fun _ ↦ ?_
  cases h : interruption reads with
  | none => exact Spec.pure fun s hs ↦ ⟨rfl, hs⟩
  | some e => exact Spec.throw fun s hs ↦ hend e h s hs

end Effect.Spec
