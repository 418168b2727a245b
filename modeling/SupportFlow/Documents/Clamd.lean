import SupportFlow.Documents.Tasks
import SupportFlow.Foundations.ByteStream
import SupportFlow.Foundations.Datetime
import SupportFlow.Foundations.Framing

/-!
# The ClamD scanner

`ClamdDocumentSafetyScanner` asks a ClamD daemon about a document, over one connection for each of
`PING`, `VERSION` and `INSTREAM`. What the world does to a connection is data (`Channel`): whether
it is refused, what the monotonic clock reads, which sends fail and after how many bytes, what the
reads return. A call on a connection is a computation with effects on it; the bytes that were sent
stay sent when it raises.

The exceptions a step raises are the three kinds that `scan` catches. One is beyond them: the health
check adds a tolerance to the wall clock outside its `try`, and the sum may leave the range of
`datetime`.

## Main results

* `receiveRecord_spec`: a reply is the text of the bytes before the first NUL, or before the end of
  the stream.
* `scanStream_spec`: what a streaming call has sent when it returns, and when it raises.
-/

namespace SupportFlow

open Python ByteStream Effect

/-! ### The timestamp of a VERSION reply -/

def clamdWeekdays : List String :=
  ["Mon", "Tue", "Wed", "Thu", "Fri", "Sat", "Sun"]

/-- `_MONTHS`, in order. -/
def clamdMonths : List String :=
  ["Jan", "Feb", "Mar", "Apr", "May", "Jun", "Jul", "Aug", "Sep", "Oct", "Nov", "Dec"]

namespace ClamdVersion

/-- A literal text. -/
def literal (text : String) (cs : List Char) : Option (List Char) :=
  if text.toList.isPrefixOf cs then some (cs.drop text.toList.length) else none

/-- `[^/]+/`. -/
def segment (cs : List Char) : Option (List Char) :=
  match cs.takeWhile (· ≠ '/'), cs.dropWhile (· ≠ '/') with
  | _ :: _, _ :: rest => some rest
  | _, _ => none

/-- ` +`. -/
def spaces : List Char → Option (List Char)
  | ' ' :: cs => some (cs.dropWhile (· = ' '))
  | _ => none

/-- One of some names of three letters, as its index. -/
def name (names : List String) (cs : List Char) : Option (ℕ × List Char) :=
  (names.idxOf? (String.ofList (cs.take 3))).map fun i ↦ (i, cs.drop 3)

/-- `\d{least,most}`. No digit follows one in the pattern, so the longest match is the only one. -/
def decimals (least most : ℕ) (cs : List Char) : Option (ℕ × List Char) :=
  let digits := (cs.takeWhile fun c ↦ (decimal? c).isSome).take most
  if digits.length < least then none
  else (decimalNumber digits).map fun n ↦ (n, cs.drop digits.length)

end ClamdVersion

open ClamdVersion in
/-- `parse_clamd_database_timestamp`. -/
def parseClamdDatabaseTimestamp (versionReply : String) : Option Wall := do
  let cs ← literal "ClamAV " (strip versionReply).toList
  let cs ← segment cs
  let cs ← segment cs
  let (_, cs) ← name clamdWeekdays cs
  let cs ← spaces cs
  let (month, cs) ← name clamdMonths cs
  let cs ← spaces cs
  let (day, cs) ← decimals 1 2 cs
  let cs ← spaces cs
  let (hour, cs) ← decimals 2 2 cs
  let cs ← literal ":" cs
  let (minute, cs) ← decimals 2 2 cs
  let cs ← literal ":" cs
  let (second, cs) ← decimals 2 2 cs
  let cs ← spaces cs
  let (year, cs) ← decimals 4 4 cs
  if cs = [] then utcDatetime year (month + 1) day hour minute second else none

/-! ### Connections -/

/-- The exceptions that a step on a connection, or a read of the document, raises. -/
inductive ScanError
  | osError
  | timeoutError
  | valueError
  deriving DecidableEq, Repr

/-- What happens on one connection. -/
structure Channel where
  /-- The connection is refused. -/
  refused : Bool
  /-- The readings of `monotonic()`, in nanoseconds. -/
  clock : ℕ → ℤ
  /-- The sends that raise, with the number of bytes they pass on before. -/
  sendFault : ℕ → Option ℕ
  /-- What the reads return; none of them is longer than it was asked for. -/
  replies : List (Except ScanError (List UInt8))
  /-- Closing the connection raises. -/
  closeFault : Bool

/-- How far a call on a connection is. -/
structure Connection where
  /-- The number of times the clock was read. -/
  ticks : ℕ
  /-- The number of `sendall` calls. -/
  sends : ℕ
  /-- The bytes that were sent. -/
  sent : List UInt8
  /-- The local variable `streamed_bytes`. -/
  streamedBytes : ℕ
  deriving DecidableEq, Repr

/-- A connection that was not used yet. -/
def Connection.fresh : Connection :=
  ⟨0, 0, [], 0⟩

/-- A document to scan: what its reads return, at most as much as was asked for. -/
structure ScanSource where
  reads : List (Except ScanError (List UInt8))
  bounded : ∀ chunk, .ok chunk ∈ reads → chunk.length ≤ 64 * 1024

/-- The constructor's arguments: seconds, and bytes. -/
structure ClamdDocumentSafetyScanner where
  connectTimeoutSeconds : ℕ
  scanTimeoutSeconds : ℕ
  maxStreamBytes : ℕ
  signatureMaxAgeSeconds : ℕ
  clockSkewToleranceSeconds : ℕ

/-- `CLAMD_MAX_REPLY_BYTES`. -/
def clamdMaxReplyBytes : ℕ :=
  4 * 1024

/-- A call on a connection. -/
abbrev Call (α : Type) := Effect ScanError Connection α

namespace ClamdDocumentSafetyScanner

/-- `monotonic()`. -/
def monotonic (channel : Channel) : Call ℤ := do
  let connection ← get
  update fun connection ↦ { connection with ticks := connection.ticks + 1 }
  return channel.clock connection.ticks

/-- `_remaining_seconds`, whose value only bounds how long the next step may take; with it, a
timeout can be set. -/
def setRemainingTimeout (channel : Channel) (deadline : ℤ) : Call Unit := do
  let now ← monotonic channel
  raiseWhen (deadline - now ≤ 0) .timeoutError

/-- `_connect`. -/
def connect (channel : Channel) (deadline : ℤ) : Call Unit := do
  setRemainingTimeout channel deadline
  raiseWhen (channel.refused = true) .osError

/-- The part of the data that a send passes on. -/
def passedOn (fault : Option ℕ) (data : List UInt8) : List UInt8 :=
  match fault with
  | none => data
  | some n => data.take n

/-- `connection.sendall`. -/
def sendall (channel : Channel) (data : List UInt8) : Call Unit := do
  let connection ← get
  let fault := channel.sendFault connection.sends
  update fun c ↦ { c with sends := c.sends + 1, sent := c.sent ++ passedOn fault data }
  raiseWhen (fault ≠ none) .osError

/-- The loop of `_receive_record`. The end of the stream ends a record as its NUL does. -/
def receiveLoop (channel : Channel) (deadline : ℤ) :
    List (Except ScanError (List UInt8)) → List UInt8 → Call (List UInt8)
  | [], reply => do
    setRemainingTimeout channel deadline
    return reply
  | read :: replies, reply => do
    setRemainingTimeout channel deadline
    let chunk ← MonadExcept.ofExcept read
    if chunk = [] then return reply
    else if 0 ∈ chunk then return reply ++ chunk.takeWhile (· ≠ 0)
    else do
      raiseWhen (clamdMaxReplyBytes < (reply ++ chunk).length) .valueError
      receiveLoop channel deadline replies (reply ++ chunk)

/-- `_receive_record`. -/
def receiveRecord (channel : Channel) (deadline : ℤ) : Call String := do
  let reply ← receiveLoop channel deadline channel.replies []
  raiseWhen (reply = [] ∨ clamdMaxReplyBytes < reply.length) .valueError
  match decode reply with
  | none => throw .valueError
  | some text => return strip text

/-- `with connection: body`. -/
def closing {α : Type} (channel : Channel) (body : Call α) : Call α := do
  let a ← tryCatch body fun e ↦ throw (if channel.closeFault then .osError else e)
  raiseWhen (channel.closeFault = true) .osError
  return a

/-- `monotonic() + seconds`. -/
def deadlineIn (channel : Channel) (seconds : ℕ) : Call ℤ := do
  let now ← monotonic channel
  return now + seconds * 1000000000

variable (scanner : ClamdDocumentSafetyScanner)

/-- `_command`. -/
def command (channel : Channel) (name : String) : Call String := do
  let deadline ← deadlineIn channel scanner.connectTimeoutSeconds
  connect channel deadline
  closing channel do
    setRemainingTimeout channel deadline
    sendall channel (encode "z" ++ encode name ++ [0])
    receiveRecord channel deadline

/-- The body of the loop of `_scan_stream`. -/
def streamChunk (channel : Channel) (deadline : ℤ) (chunk : List UInt8) : Call Unit := do
  update fun c ↦ { c with streamedBytes := c.streamedBytes + chunk.length }
  let connection ← get
  raiseWhen (scanner.maxStreamBytes < connection.streamedBytes) .valueError
  setRemainingTimeout channel deadline
  sendall channel (Framing.frame chunk)

/-- `_scan_stream`. -/
def scanStream (channel : Channel) (source : ScanSource) : Call String := do
  let deadline ← deadlineIn channel scanner.scanTimeoutSeconds
  connect channel deadline
  closing channel do
    setRemainingTimeout channel deadline
    sendall channel (encode "zINSTREAM" ++ [0])
    forChunks (scanner.streamChunk channel deadline) source.reads
    setRemainingTimeout channel deadline
    sendall channel Framing.terminator
    receiveRecord channel deadline

end ClamdDocumentSafetyScanner

/-- What happens around one scan: three connections, and the wall clock. -/
structure ScanSurroundings where
  ping : Channel
  version : Channel
  stream : Channel
  now : ParsedDatetime

/-- The sum of a time and a `timedelta` is out of range. -/
inductive OverflowError
  | overflowError
  deriving DecidableEq, Repr

/-- The verdict on a reply of `_scan_stream`. -/
def scanVerdict (reply : String) : DocumentScanResult :=
  if reply = "stream: OK" then .clean
  else if "stream: ".toList <+: reply.toList ∧ " FOUND".toList <:+ reply.toList then
    let signature := (reply.toList.drop "stream: ".length).take
      (reply.length - "stream: ".length - " FOUND".length)
    if signature ≠ [] ∧ Char.ofNat 0 ∉ signature then .infected else .unavailable
  else .unavailable

namespace ClamdDocumentSafetyScanner

variable (scanner : ClamdDocumentSafetyScanner)

/-- The freshness of the signatures, once the wall clock is in UTC; `none` is an
`OverflowError`. -/
def fresh (now signatureTimestamp : Wall) : Option Bool :=
  (Wall.add? now (scanner.clockSkewToleranceSeconds * 1000000)).map fun latest ↦
    if latest.val < signatureTimestamp.val then false
    else
      let age := max 0 ((now.val : ℤ) - signatureTimestamp.val)
      age ≤ scanner.signatureMaxAgeSeconds * 1000000

/-- `is_healthy`. -/
def isHealthy (s : ScanSurroundings) : Except OverflowError Bool :=
  match ((scanner.command s.ping "PING").exec .fresh).1 with
  | .error _ => .ok false
  | .ok pong =>
    if pong ≠ "PONG" then .ok false
    else
      match ((scanner.command s.version "VERSION").exec .fresh).1 with
      | .error _ => .ok false
      | .ok reply =>
        match parseClamdDatabaseTimestamp reply with
        | none => .ok false
        | some signatureTimestamp =>
          match s.now.utc?.bind fun now ↦ scanner.fresh now signatureTimestamp with
          | none => .error .overflowError
          | some verdict => .ok verdict

/-- `scan`, with what it leaves of the scan connection. -/
def scan (s : ScanSurroundings) (source : ScanSource) :
    Except OverflowError DocumentScanResult × Connection :=
  match scanner.isHealthy s with
  | .error e => (.error e, .fresh)
  | .ok false => (.ok .unavailable, .fresh)
  | .ok true =>
    match (scanner.scanStream s.stream source).exec .fresh with
    | (.error _, connection) => (.ok .unavailable, connection)
    | (.ok reply, connection) => (.ok (scanVerdict reply), connection)

end ClamdDocumentSafetyScanner

/-! ### What the calls do

The bytes on the connection and the counter are followed exactly; a call raises only where
something on its channel went wrong. -/

/-- The record a daemon sends: what it sent before the first NUL, or before the end. -/
def Channel.record (channel : Channel) : List UInt8 :=
  (content channel.replies).takeWhile (· ≠ 0)

/-- The text of a record. -/
def recordText (record : List UInt8) : Option String :=
  if record = [] ∨ clamdMaxReplyBytes < record.length then none else (decode record).map strip

/-- Nothing goes wrong on a channel, and no two readings of the clock are further apart than the
time allowed. -/
structure Channel.Calm (channel : Channel) (seconds : ℕ) : Prop where
  accepted : channel.refused = false
  punctual : ∀ i j, channel.clock j < channel.clock i + seconds * 1000000000
  passedOn : ∀ n, channel.sendFault n = none
  delivered : interruption channel.replies = none
  bounded : (content channel.replies).length ≤ clamdMaxReplyBytes
  closed : channel.closeFault = false

namespace ClamdDocumentSafetyScanner

/-- What was sent, and what was counted. -/
def At (sent : List UInt8) (counted : ℕ) (c : Connection) : Prop :=
  c.sent = sent ∧ c.streamedBytes = counted

variable {channel : Channel} {seconds : ℕ} {deadline : ℤ} {sent : List UInt8} {counted : ℕ}

/-- The deadline is as far from some reading of the clock as the time allows. -/
def Due (channel : Channel) (seconds : ℕ) (deadline : ℤ) : Prop :=
  ∃ i, deadline = channel.clock i + seconds * 1000000000

theorem deadlineIn_spec : Spec (At sent counted) (deadlineIn channel seconds)
    (fun deadline c ↦ At sent counted c ∧ Due channel seconds deadline)
    fun _ _ ↦ False := by
  intro c hc
  exact ⟨hc, c.ticks, rfl⟩

/-- The exception of a step that comes too late. -/
def Late (channel : Channel) (deadline : ℤ) (e : ScanError) : Prop :=
  e = .timeoutError ∧ ∃ j, deadline ≤ channel.clock j

theorem Due.not_calm {e : ScanError} (hdue : Due channel seconds deadline)
    (hlate : Late channel deadline e) : ¬channel.Calm seconds := by
  obtain ⟨i, rfl⟩ := hdue
  obtain ⟨-, j, hj⟩ := hlate
  intro hcalm
  have hpunctual := hcalm.punctual i j
  omega

theorem setRemainingTimeout_spec :
    Spec (At sent counted) (setRemainingTimeout channel deadline) (fun _ ↦ At sent counted)
      fun e c ↦ At sent counted c ∧ Late channel deadline e := by
  have hclock : Spec (At sent counted) (monotonic channel)
      (fun now c ↦ At sent counted c ∧ ∃ j, now = channel.clock j) fun _ _ ↦ False :=
    fun c hc ↦ ⟨hc, c.ticks, rfl⟩
  refine (hclock.mono (fun _ h ↦ h) (fun _ _ h ↦ h) fun _ _ h ↦ h.elim).bind fun now ↦ ?_
  refine Spec.assume fun ⟨j, hnow⟩ ↦ Spec.raiseWhen (fun hlate c hc ↦ ⟨hc, rfl, j, ?_⟩)
    fun _ c hc ↦ hc
  omega

theorem setRemainingTimeout_calm (hdue : Due channel seconds deadline) :
    Spec (At sent counted) (setRemainingTimeout channel deadline) (fun _ ↦ At sent counted)
      fun _ c ↦ At sent counted c ∧ ¬channel.Calm seconds :=
  setRemainingTimeout_spec.mono (fun _ h ↦ h) (fun _ _ h ↦ h)
    fun _ _ h ↦ ⟨h.1, hdue.not_calm h.2⟩

theorem connect_spec (hdue : Due channel seconds deadline) :
    Spec (At sent counted) (connect channel deadline) (fun _ ↦ At sent counted)
      fun _ c ↦ At sent counted c ∧ ¬channel.Calm seconds := by
  refine (setRemainingTimeout_calm hdue).bind fun _ ↦ ?_
  refine Spec.raiseWhen (fun hrefused c hc ↦ ⟨hc, fun hcalm ↦ ?_⟩) fun _ c hc ↦ hc
  rw [hcalm.accepted] at hrefused
  cases hrefused

/-- A send that raises has passed on a part of the data. -/
theorem sendall_spec (seconds : ℕ) (data : List UInt8) :
    Spec (At sent counted) (sendall channel data) (fun _ ↦ At (sent ++ data) counted)
      fun _ c ↦ (∃ part, part <+: data ∧ At (sent ++ part) counted c) ∧
        ¬channel.Calm seconds := by
  unfold sendall
  refine Spec.bind (Q := fun _ ↦ At sent counted) (Spec.get fun _ h ↦ h) fun connection ↦ ?_
  dsimp only
  cases hfault : channel.sendFault connection.sends with
  | none =>
    refine Spec.bind (Q := fun _ ↦ At (sent ++ data) counted) (Spec.update fun c hc ↦ ?_) fun _ ↦
      Spec.raiseWhen (fun h ↦ absurd rfl h) fun _ _ hc ↦ hc
    exact ⟨congrArg (· ++ data) hc.1, hc.2⟩
  | some n =>
    refine Spec.bind (Q := fun _ ↦ At (sent ++ data.take n) counted) (Spec.update fun c hc ↦ ?_)
      fun _ ↦ Spec.raiseWhen (fun _ c hc ↦ ⟨⟨_, List.take_prefix n data, hc⟩, fun hcalm ↦ ?_⟩)
        fun h ↦ absurd h (by simp)
    · exact ⟨congrArg (· ++ data.take n) hc.1, hc.2⟩
    · rw [hcalm.passedOn] at hfault
      cases hfault

/-- The loop returns the record, unless it is too late, the stream breaks off, or the record is
too long. -/
theorem receiveLoop_spec (replies : List (Except ScanError (List UInt8))) (reply : List UInt8) :
    Spec (At sent counted) (receiveLoop channel deadline replies reply)
      (fun record c ↦ At sent counted c ∧
        record = reply ++ (content replies).takeWhile (· ≠ 0))
      fun e c ↦ At sent counted c ∧ (Late channel deadline e ∨ interruption replies = some e ∨
        e = .valueError ∧
          clamdMaxReplyBytes < (reply ++ (content replies).takeWhile (· ≠ 0)).length) := by
  have htimeout : ∀ {ψ : ScanError → Prop},
      Spec (At sent counted) (setRemainingTimeout channel deadline) (fun _ ↦ At sent counted)
        fun e c ↦ At sent counted c ∧ (Late channel deadline e ∨ ψ e) :=
    setRemainingTimeout_spec.mono (fun _ h ↦ h) (fun _ _ h ↦ h) fun _ _ h ↦ ⟨h.1, Or.inl h.2⟩
  induction replies generalizing reply with
  | nil => exact htimeout.bind fun _ ↦ Spec.pure fun c hc ↦ ⟨hc, (List.append_nil _).symm⟩
  | cons read replies ih =>
    refine htimeout.bind fun _ ↦ ?_
    rcases read with e | chunk
    · exact Spec.throw fun c hc ↦ ⟨hc, Or.inr (Or.inl rfl)⟩
    by_cases hend : chunk = []
    · subst hend
      exact Spec.pure fun c hc ↦ ⟨hc, (List.append_nil _).symm⟩
    show Spec _ (if chunk = [] then _ else _) _ _
    rw [if_neg hend, content_cons hend, interruption_cons hend]
    by_cases hnul : 0 ∈ chunk
    · -- The record ends inside the chunk.
      rw [if_pos hnul]
      refine Spec.pure fun c hc ↦ ⟨hc, ?_⟩
      rw [List.takeWhile_append, if_neg]
      intro hall
      have hself := (List.takeWhile_prefix _).eq_of_length hall
      have hzero := List.takeWhile_eq_self_iff.1 hself 0 hnul
      simp at hzero
    · rw [if_neg hnul]
      have hwhole : (chunk ++ content replies).takeWhile (· ≠ 0) =
          chunk ++ (content replies).takeWhile (· ≠ 0) :=
        List.takeWhile_append_of_pos fun byte hbyte ↦
          decide_eq_true fun hzero ↦ hnul (hzero ▸ hbyte)
      rw [hwhole, ← List.append_assoc]
      refine Spec.bind (Q := fun _ ↦ At sent counted) ?_ fun _ ↦ ih (reply ++ chunk)
      -- All of a chunk without a NUL is part of the record.
      refine Spec.raiseWhen (fun hlong c hc ↦ ⟨hc, Or.inr (Or.inr ⟨rfl, ?_⟩)⟩) fun _ c hc ↦ hc
      rw [List.length_append]
      exact Nat.lt_add_right _ hlong

/-- **A reply is the text of the record** that the daemon sent. -/
theorem receiveRecord_spec :
    Spec (At sent counted) (receiveRecord channel deadline)
      (fun text c ↦ At sent counted c ∧ recordText channel.record = some text)
      fun e c ↦ At sent counted c ∧ (Late channel deadline e ∨
        interruption channel.replies = some e ∨
          e = .valueError ∧ recordText channel.record = none) := by
  have hloop : Spec (At sent counted) (receiveLoop channel deadline channel.replies [])
      (fun record c ↦ At sent counted c ∧ record = channel.record)
      fun e c ↦ At sent counted c ∧ (Late channel deadline e ∨
        interruption channel.replies = some e ∨
          e = .valueError ∧ recordText channel.record = none) := by
    refine (receiveLoop_spec channel.replies []).mono (fun _ h ↦ h) (fun _ _ h ↦ h) ?_
    rintro e c ⟨hc, hlate | hcut | ⟨he, hlong⟩⟩
    · exact ⟨hc, Or.inl hlate⟩
    · exact ⟨hc, Or.inr (Or.inl hcut)⟩
    · exact ⟨hc, Or.inr (Or.inr ⟨he, if_pos (Or.inr hlong)⟩)⟩
  refine hloop.bind fun record ↦ Spec.assume ?_
  rintro rfl
  by_cases hsize : channel.record = [] ∨ clamdMaxReplyBytes < channel.record.length
  · exact Spec.bind (Q := fun _ _ ↦ False) (Spec.raiseWhen
      (fun _ c hc ↦ ⟨hc, Or.inr (Or.inr ⟨rfl, if_pos hsize⟩)⟩) fun h ↦ absurd hsize h)
        fun _ _ h ↦ h.elim
  · refine Spec.bind (Q := fun _ ↦ At sent counted)
      (Spec.raiseWhen (fun h ↦ absurd h hsize) fun _ _ hc ↦ hc) fun _ ↦ ?_
    rw [recordText, if_neg hsize]
    cases decode channel.record with
    | none => exact Spec.throw fun c hc ↦ ⟨hc, Or.inr (Or.inr ⟨rfl, rfl⟩)⟩
    | some text => exact Spec.pure fun c hc ↦ ⟨hc, rfl⟩

theorem receiveRecord_calm (hdue : Due channel seconds deadline) :
    Spec (At sent counted) (receiveRecord channel deadline)
      (fun text c ↦ At sent counted c ∧ recordText channel.record = some text)
      fun _ c ↦ At sent counted c ∧ (¬channel.Calm seconds ∨ recordText channel.record = none) := by
  refine receiveRecord_spec.mono (fun _ h ↦ h) (fun _ _ h ↦ h) ?_
  rintro e c ⟨hc, hlate | hcut | ⟨-, hnone⟩⟩
  · exact ⟨hc, Or.inl (hdue.not_calm hlate)⟩
  · exact ⟨hc, Or.inl fun hcalm ↦ nomatch hcalm.delivered.symm.trans hcut⟩
  · exact ⟨hc, Or.inr hnone⟩

/-- A body that raises, or whose connection does not close, raises. -/
theorem closing_spec {α : Type} {P : Connection → Prop} {body : Call α}
    {Q : α → Connection → Prop} {E : Connection → Prop}
    (h : Spec P body Q fun _ ↦ E)
    (hclose : channel.closeFault = true → ∀ a c, Q a c → E c) :
    Spec P (closing channel body) Q fun _ ↦ E := by
  refine Spec.bind (Spec.tryCatch h fun e ↦ Spec.throw fun _ hc ↦ hc) fun a ↦ ?_
  refine Spec.bind (Q := fun _ ↦ Q a) (Spec.raiseWhen (fun hfault c hc ↦ hclose hfault a c hc)
    fun _ _ hc ↦ hc) fun _ ↦ Spec.pure fun _ hc ↦ hc

variable (scanner : ClamdDocumentSafetyScanner)

/-- **A command returns the daemon's reply**, and raises only when something goes wrong. -/
theorem command_spec (channel : Channel) (name : String) :
    Spec (fun _ ↦ True) (scanner.command channel name)
      (fun text _ ↦ recordText channel.record = some text)
      fun _ _ ↦ ¬channel.Calm scanner.connectTimeoutSeconds ∨ recordText channel.record = none := by
  intro c _
  have hspec : Spec (At c.sent c.streamedBytes) (scanner.command channel name)
      (fun text _ ↦ recordText channel.record = some text)
      fun _ _ ↦ ¬channel.Calm scanner.connectTimeoutSeconds ∨
        recordText channel.record = none := by
    refine (deadlineIn_spec.mono (fun _ h ↦ h) (fun _ _ h ↦ h) fun _ _ h ↦ h.elim).bind
      fun deadline ↦ Spec.assume fun hdue ↦ ?_
    refine ((connect_spec hdue).mono (fun _ h ↦ h) (fun _ _ h ↦ h) fun _ _ h ↦ Or.inl h.2).bind
      fun _ ↦ closing_spec ?_ fun hfault _ _ _ ↦ Or.inl fun hcalm ↦ ?_
    · refine ((setRemainingTimeout_calm hdue).mono (fun _ h ↦ h) (fun _ _ h ↦ h)
        fun _ _ h ↦ Or.inl h.2).bind fun _ ↦ ?_
      refine ((sendall_spec _ _).mono (fun _ h ↦ h) (fun _ _ h ↦ h) fun _ _ h ↦ Or.inl h.2).bind
        fun _ ↦ ?_
      exact (receiveRecord_calm hdue).mono (fun _ h ↦ h) (fun _ _ h ↦ h.2) fun _ _ h ↦ h.2
    · rw [hcalm.closed] at hfault
      cases hfault
  exact hspec c ⟨rfl, rfl⟩

/-- What the frames of some chunks leave on the scan connection. -/
def streamed (chunks : List (List UInt8)) : List UInt8 :=
  encode "zINSTREAM" ++ [0] ++ chunks.flatMap Framing.frame

/-- The loop has sent these chunks, and they are not too long. -/
def Sent (scanner : ClamdDocumentSafetyScanner) (chunks : List (List UInt8)) (c : Connection) :
    Prop :=
  At (streamed chunks) chunks.flatten.length c ∧ chunks.flatten.length ≤ scanner.maxStreamBytes

theorem streamed_of_prefixed {done chunks : List (List UInt8)} (h : done <+: chunks) :
    streamed done <+: streamed chunks := by
  obtain ⟨rest, rfl⟩ := h
  exact ⟨rest.flatMap Framing.frame,
    by simp only [streamed, List.flatMap_append, List.append_assoc]⟩

/-- One chunk: it is sent as a frame, unless the document has become too long. -/
theorem streamChunk_spec (hdue : Due channel seconds deadline) (done : List (List UInt8))
    (chunk : List UInt8) :
    Spec (scanner.Sent done) (scanner.streamChunk channel deadline chunk)
      (fun _ ↦ scanner.Sent (done ++ [chunk]))
      fun _ c ↦ c.sent <+: streamed (done ++ [chunk]) ∧
        (¬channel.Calm seconds ∨ scanner.maxStreamBytes < (done ++ [chunk]).flatten.length) := by
  have hframe : streamed (done ++ [chunk]) = streamed done ++ Framing.frame chunk := by
    simp only [streamed, List.flatMap_append, List.flatMap_singleton, List.append_assoc]
  have hcount : (done ++ [chunk]).flatten.length = done.flatten.length + chunk.length := by
    simp only [List.flatten_append, List.flatten_singleton, List.length_append]
  rw [hframe, hcount]
  refine Spec.bind (Q := fun _ ↦ At (streamed done) (done.flatten.length + chunk.length))
    (Spec.update fun c hc ↦ ⟨hc.1.1, congrArg (· + chunk.length) hc.1.2⟩) fun _ ↦ ?_
  refine Spec.bind (Q := fun connection c ↦
      At (streamed done) (done.flatten.length + chunk.length) c
    ∧ connection.streamedBytes = done.flatten.length + chunk.length)
    (Spec.get fun c hc ↦ ⟨hc, hc.2⟩) fun connection ↦ Spec.assume fun hconnection ↦ ?_
  rw [hconnection]
  have hinit : ∀ {c n}, At (streamed done) n c → c.sent <+: streamed done ++ Framing.frame chunk :=
    fun hc ↦ hc.1 ▸ List.prefix_append _ _
  by_cases hlong : scanner.maxStreamBytes < done.flatten.length + chunk.length
  · exact Spec.bind (Q := fun _ _ ↦ False) (Spec.raiseWhen
      (fun _ c hc ↦ ⟨hinit hc, Or.inr hlong⟩) fun h ↦ absurd hlong h) fun _ _ h ↦ h.elim
  refine Spec.bind (Q := fun _ ↦ At (streamed done) (done.flatten.length + chunk.length))
    (Spec.raiseWhen (fun h ↦ absurd h hlong) fun _ _ hc ↦ hc) fun _ ↦ ?_
  refine ((setRemainingTimeout_calm hdue).mono (fun _ h ↦ h) (fun _ _ h ↦ h)
    fun _ _ h ↦ ⟨hinit h.1, Or.inl h.2⟩).bind fun _ ↦ ?_
  refine (sendall_spec seconds (Framing.frame chunk)).mono (fun _ h ↦ h)
    (fun _ c hc ↦ ⟨⟨hc.1.trans hframe.symm, hc.2.trans hcount.symm⟩, ?_⟩) ?_
  · rw [hcount]
    exact not_lt.1 hlong
  · rintro e c ⟨⟨part, hpart, hc⟩, hcalm⟩
    exact ⟨hc.1 ▸ (List.prefix_append_right_inj _).2 hpart, Or.inl hcalm⟩

/-- How a streaming call that raises leaves its connection, and why it raised. -/
def Stopped (channel : Channel) (source : ScanSource) (c : Connection) : Prop :=
  (c.sent <+: streamed (delivered source.reads) ∨
      (content source.reads).length ≤ scanner.maxStreamBytes) ∧
    (¬channel.Calm scanner.scanTimeoutSeconds ∨ interruption source.reads ≠ none ∨
      scanner.maxStreamBytes < (content source.reads).length ∨ recordText channel.record = none)

/-- The loop sends every chunk, and ends with the document's end. -/
theorem streamLoop_spec {channel : Channel} {source : ScanSource}
    (hdue : Due channel scanner.scanTimeoutSeconds deadline) :
    Spec (scanner.Sent []) (forChunks (scanner.streamChunk channel deadline) source.reads)
      (fun _ c ↦ At (streamed (delivered source.reads)) (content source.reads).length c ∧
        interruption source.reads = none ∧
          (content source.reads).length ≤ scanner.maxStreamBytes)
      fun _ ↦ scanner.Stopped channel source := by
  refine (Spec.forChunks (I := scanner.Sent) (E := fun _ ↦ scanner.Stopped channel source)
    (fun done chunk hdone ↦ ?_) fun e he c hc ↦ ?_).mono (fun _ h ↦ h)
      (fun _ c hc ↦ ⟨hc.2.1, hc.1, hc.2.2⟩) fun _ _ h ↦ h
  · refine (scanner.streamChunk_spec hdue done chunk).mono (fun _ h ↦ h) (fun _ _ h ↦ h) ?_
    rintro e c ⟨hsent, hwrong⟩
    refine ⟨Or.inl (hsent.trans (streamed_of_prefixed hdone)), hwrong.imp_right fun hlong ↦ ?_⟩
    obtain ⟨rest, hrest⟩ := hdone
    refine Or.inr (Or.inl (lt_of_lt_of_le hlong ?_))
    simp only [content, ← hrest, List.flatten_append, List.length_append]
    omega
  · exact ⟨Or.inl (hc.1.1 ▸ List.prefix_refl _), Or.inr (Or.inl (by rw [he]; simp))⟩

/-- **What a streaming call has sent**: when it returns, all frames and the last one; when it
raises, a beginning of that, which stops short of the last frame if the document is too long. -/
theorem scanStream_spec (channel : Channel) (source : ScanSource) :
    Spec (At [] 0) (scanner.scanStream channel source)
      (fun text c ↦ c.sent = streamed (delivered source.reads) ++ Framing.terminator ∧
        interruption source.reads = none ∧
          (content source.reads).length ≤ scanner.maxStreamBytes ∧
            recordText channel.record = some text)
      fun _ ↦ scanner.Stopped channel source := by
  have hearly : ∀ {c : Connection} {n : ℕ}, At [] n c ∧ ¬channel.Calm scanner.scanTimeoutSeconds →
      scanner.Stopped channel source c := fun h ↦ ⟨Or.inl (h.1.1 ▸ List.nil_prefix), Or.inl h.2⟩
  refine (deadlineIn_spec.mono (fun _ h ↦ h) (fun _ _ h ↦ h) fun _ _ h ↦ h.elim).bind
    fun deadline ↦ Spec.assume fun hdue ↦ ?_
  refine ((connect_spec hdue).mono (fun _ h ↦ h) (fun _ _ h ↦ h) fun _ _ h ↦ hearly h).bind
    fun _ ↦ closing_spec ?_ ?_
  · refine ((setRemainingTimeout_calm hdue).mono (fun _ h ↦ h) (fun _ _ h ↦ h)
      fun _ _ h ↦ hearly h).bind fun _ ↦ ?_
    refine Spec.bind (Q := fun _ ↦ scanner.Sent [])
      ((sendall_spec scanner.scanTimeoutSeconds _).mono (fun _ h ↦ h)
        (fun _ c hc ↦ ⟨⟨hc.1, hc.2⟩, Nat.zero_le _⟩) ?_) fun _ ↦ ?_
    · rintro e c ⟨⟨part, hpart, hc⟩, hcalm⟩
      refine ⟨Or.inl ?_, Or.inl hcalm⟩
      rw [hc.1, List.nil_append]
      exact hpart.trans (List.prefix_append _ _)
    -- Once all frames are out, what is left is the last frame and the reply.
    refine (scanner.streamLoop_spec hdue).bind fun _ ↦ Spec.assume fun ⟨hend, hfits⟩ ↦ ?_
    refine ((setRemainingTimeout_calm hdue).mono (fun _ h ↦ h) (fun _ _ h ↦ h)
      fun _ _ h ↦ ⟨Or.inr hfits, Or.inl h.2⟩).bind fun _ ↦ ?_
    refine ((sendall_spec _ Framing.terminator).mono (fun _ h ↦ h) (fun _ _ h ↦ h)
      fun _ _ h ↦ ⟨Or.inr hfits, Or.inl h.2⟩).bind fun _ ↦ ?_
    exact (receiveRecord_calm hdue).mono (fun _ h ↦ h) (fun _ _ h ↦ ⟨h.1.1, hend, hfits, h.2⟩)
      fun _ _ h ↦ ⟨Or.inr hfits, h.2.imp_right fun hnone ↦ Or.inr (Or.inr hnone)⟩
  · rintro hfault text c ⟨-, -, hfits, -⟩
    refine ⟨Or.inr hfits, Or.inl fun hcalm ↦ ?_⟩
    rw [hcalm.closed] at hfault
    cases hfault

end ClamdDocumentSafetyScanner

end SupportFlow
