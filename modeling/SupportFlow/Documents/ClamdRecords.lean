import SupportFlow.Documents.Clamd

/-!
# The records of ClamD

`_receive_record` reads a reply piece by piece, into a buffer. Its outcome is that of the whole
stream, however the stream was cut into pieces (`receiveRecord_fragmented`): the limit is tested
while pieces come in and once more at the end, and neither test sees more of the record than there
is. A stream without an end does not keep the loop going (`receiveInto_ends`).

`receiveLoop` passes the buffer along as an argument. `receiveInto` is the same loop on a buffer in
the state, as the source has it, with the length that the buffer has had at most and the number of
`recv` calls; `receiveLoop_exec` says that they are one loop.
-/

namespace SupportFlow.ClamdDocumentSafetyScanner

open ByteStream Effect

/-- The argument of `recv`. -/
def recvBytes : ℕ := 1024

/-- What the loop has: the connection, and its local variable `reply`. -/
structure Reception where
  connection : Connection
  reply : List UInt8
  /-- The length of `reply` when it was longest. -/
  peak : ℕ
  /-- The number of `recv` calls. -/
  received : ℕ
  deriving DecidableEq, Repr

/-- The loop before its first iteration. -/
def Reception.start (connection : Connection) : Reception :=
  ⟨connection, [], 0, 0⟩

/-- A computation on the connection. -/
def onConnection {α : Type} (x : Call α) : Effect ScanError Reception α :=
  x.zoom Reception.connection fun connection reception ↦ { reception with connection }

/-- `connection.recv(1024)`, of what it returns or raises. -/
def recv (read : Except ScanError (List UInt8)) : Effect ScanError Reception (List UInt8) := do
  update fun reception ↦ { reception with received := reception.received + 1 }
  MonadExcept.ofExcept read

/-- `reply.extend(bytes)`. -/
def extend (bytes : List UInt8) : Effect ScanError Reception Unit :=
  update fun reception ↦ { reception with
    reply := reception.reply ++ bytes
    peak := max reception.peak (reception.reply ++ bytes).length }

/-- The loop of `_receive_record`, on its buffer. -/
def receiveInto (channel : Channel) (deadline : ℤ) :
    List (Except ScanError (List UInt8)) → Effect ScanError Reception Unit
  | [] => do
    onConnection (setRemainingTimeout channel deadline)
    -- Past the last entry the stream is at its end.
    let _ ← recv (.ok [])
    return ()
  | read :: reads => do
    onConnection (setRemainingTimeout channel deadline)
    let chunk ← recv read
    if chunk = [] then return ()
    else if 0 ∈ chunk then extend (chunk.takeWhile (· ≠ 0))
    else do
      extend chunk
      let reception ← get
      raiseWhen (clamdMaxReplyBytes < reception.reply.length) .valueError
      receiveInto channel deadline reads

variable {channel : Channel} {deadline : ℤ}

/-- **The two loops are one**: what the loop on a buffer leaves there is what the other returns. -/
theorem receiveLoop_exec (reads : List (Except ScanError (List UInt8))) (s : Reception) :
    (receiveLoop channel deadline reads s.reply).exec s.connection =
      let (result, s') := (receiveInto channel deadline reads).exec s
      (result.map fun _ ↦ s'.reply, s'.connection) := by
  induction reads generalizing s with
  | nil =>
    simp only [receiveLoop, receiveInto, onConnection, recv, exec_bind, exec_zoom]
    rcases (setRemainingTimeout channel deadline).exec s.connection with ⟨e | -, connection⟩
    · rfl
    · rfl
  | cons read reads ih =>
    simp only [receiveLoop, receiveInto, onConnection, recv, exec_bind, exec_zoom, exec_update,
      exec_ofExcept]
    rcases (setRemainingTimeout channel deadline).exec s.connection with ⟨e | -, connection⟩
    · rfl
    · rcases read with e | chunk
      · rfl
      · dsimp only
        split
        · rfl
        · split
          · rfl
          · by_cases hlong : clamdMaxReplyBytes < (s.reply ++ chunk).length
            · simp only [extend, exec_bind, exec_update, exec_get, exec_raiseWhen, if_pos hlong]
              rfl
            · simp only [extend, exec_bind, exec_update, exec_get, exec_raiseWhen, if_neg hlong]
              exact ih ⟨connection, s.reply ++ chunk, _, _⟩

/-! ### The buffer -/

/-- A reception whose buffer is within the limit. Of the pieces received, all but the `pending`
have put something into it. -/
structure Reception.Open (pending : ℕ) (s : Reception) : Prop where
  short : s.reply.length ≤ clamdMaxReplyBytes
  peak_le : s.peak ≤ clamdMaxReplyBytes
  received_le : s.received ≤ s.reply.length + pending

/-- A reception at any time: one piece at most is beyond the limit. -/
structure Reception.Bounded (s : Reception) : Prop where
  peak_le : s.peak ≤ clamdMaxReplyBytes + recvBytes
  received_le : s.received ≤ clamdMaxReplyBytes + 1

theorem Reception.start_open (connection : Connection) : (Reception.start connection).Open 0 :=
  ⟨Nat.zero_le _, Nat.zero_le _, Nat.zero_le _⟩

theorem Reception.Open.bounded {pending : ℕ} {s : Reception} (h : s.Open pending)
    (hpending : pending ≤ 1) : s.Bounded := by
  obtain ⟨hshort, hpeak, hreceived⟩ := h
  exact ⟨by omega, by omega⟩

theorem onConnection_spec {α : Type} (x : Call α) :
    Spec (Reception.Open 0) (onConnection x) (fun _ ↦ Reception.Open 0)
      fun _ ↦ Reception.Bounded :=
  (Spec.zoom fun _ _ h ↦ ⟨h.short, h.peak_le, h.received_le⟩).mono (fun _ h ↦ h)
    (fun _ _ h ↦ h) fun _ _ h ↦ h.bounded (Nat.zero_le _)

theorem recv_spec (read : Except ScanError (List UInt8)) :
    Spec (Reception.Open 0) (recv read) (fun chunk s ↦ s.Open 1 ∧ read = .ok chunk)
      fun _ ↦ Reception.Bounded := by
  refine Spec.bind (Q := fun _ ↦ Reception.Open 1) (Spec.update fun s h ↦
    ⟨h.short, h.peak_le, Nat.succ_le_succ h.received_le⟩) fun _ ↦ ?_
  rcases read with e | chunk
  · exact Spec.throw fun s h ↦ h.bounded le_rfl
  · exact Spec.pure fun s h ↦ ⟨h, rfl⟩

/-- One more piece: the limit is passed by it at most. -/
theorem extend_spec {bytes : List UInt8} (hbytes : bytes.length ≤ recvBytes) :
    Spec (Reception.Open 1) (extend bytes)
      (fun _ s ↦ s.Bounded ∧ (bytes ≠ [] → s.reply.length ≤ clamdMaxReplyBytes → s.Open 0))
      fun _ _ ↦ False := by
  refine Spec.update fun s ⟨hshort, hpeak, hreceived⟩ ↦ ?_
  have hlength : (s.reply ++ bytes).length = s.reply.length + bytes.length := List.length_append
  refine ⟨⟨max_le ?_ ?_, ?_⟩, fun hne hwithin ↦ ⟨hwithin, max_le hpeak hwithin, ?_⟩⟩
  · omega
  · omega
  · show s.received ≤ _
    omega
  · have hpos := List.length_pos_of_ne_nil hne
    show s.received ≤ (s.reply ++ bytes).length + 0
    omega

/-- **The buffer never holds more than the limit and a piece**, and the loop ends: no more pieces
are asked for than bytes fit into the buffer, and one. -/
theorem receiveInto_spec {reads : List (Except ScanError (List UInt8))}
    (hpieces : ∀ chunk, .ok chunk ∈ reads → chunk.length ≤ recvBytes) :
    Spec (Reception.Open 0) (receiveInto channel deadline reads) (fun _ ↦ Reception.Bounded)
      fun _ ↦ Reception.Bounded := by
  induction reads with
  | nil =>
    refine (onConnection_spec _).bind fun _ ↦ (recv_spec _).bind fun _ ↦ ?_
    exact Spec.pure fun s h ↦ h.1.bounded le_rfl
  | cons read reads ih =>
    have ih := ih fun chunk hchunk ↦ hpieces chunk (List.mem_cons_of_mem _ hchunk)
    refine (onConnection_spec _).bind fun _ ↦ (recv_spec _).bind fun chunk ↦
      Spec.assume fun hread ↦ ?_
    have hchunk : chunk.length ≤ recvBytes := hpieces chunk (hread ▸ List.mem_cons_self)
    split
    · exact Spec.pure fun s h ↦ h.bounded le_rfl
    · next hne =>
      split
      · -- What stands before the NUL is no longer than the piece.
        have hbefore := (List.takeWhile_prefix (· ≠ 0) (l := chunk)).length_le
        exact (extend_spec (hbefore.trans hchunk)).mono (fun _ h ↦ h) (fun _ _ h ↦ h.1)
          fun _ _ h ↦ h.elim
      · refine ((extend_spec hchunk).mono (fun _ h ↦ h) (fun _ _ h ↦ h)
          fun _ _ h ↦ h.elim).bind fun _ ↦ ?_
        refine Spec.bind (Q := fun reception s ↦ (s.Bounded ∧
            (chunk ≠ [] → s.reply.length ≤ clamdMaxReplyBytes → s.Open 0)) ∧
          reception.reply.length = s.reply.length) (Spec.get fun s h ↦ ⟨h, rfl⟩) fun reception ↦ ?_
        refine Spec.bind (Q := fun _ ↦ Reception.Open 0) (Spec.raiseWhen (fun _ s h ↦ h.1.1)
          fun hwithin s h ↦ h.1.2 hne (h.2 ▸ not_lt.1 hwithin)) fun _ ↦ ih

/-- **The loop ends by itself**: what a daemon that never closes would send after so many pieces
makes no difference, since the loop has returned or raised before it. -/
theorem receiveInto_ends {reads : List (Except ScanError (List UInt8))} {s : Reception}
    (hshort : s.reply.length ≤ clamdMaxReplyBytes)
    (hmany : clamdMaxReplyBytes < s.reply.length + reads.length)
    (rest : List (Except ScanError (List UInt8))) :
    (receiveInto channel deadline (reads ++ rest)).exec s =
      (receiveInto channel deadline reads).exec s := by
  induction reads generalizing s with
  | nil => exact absurd hmany (not_lt.2 hshort)
  | cons read reads ih =>
    simp only [List.cons_append, receiveInto, onConnection, recv, exec_bind, exec_zoom, exec_update,
      exec_ofExcept]
    rcases (setRemainingTimeout channel deadline).exec s.connection with ⟨e | -, connection⟩
    · rfl
    · rcases read with e | chunk
      · rfl
      · dsimp only
        by_cases hend : chunk = []
        · rw [if_pos hend, if_pos hend]
        by_cases hnul : 0 ∈ chunk
        · rw [if_neg hend, if_neg hend, if_pos hnul, if_pos hnul]
        rw [if_neg hend, if_neg hend, if_neg hnul, if_neg hnul]
        have hpos := List.length_pos_of_ne_nil hend
        have hlength : (s.reply ++ chunk).length = s.reply.length + chunk.length :=
          List.length_append
        by_cases hlong : clamdMaxReplyBytes < (s.reply ++ chunk).length
        · simp only [extend, exec_bind, exec_update, exec_get, exec_raiseWhen, if_pos hlong]
        · simp only [extend, exec_bind, exec_update, exec_get, exec_raiseWhen, if_neg hlong]
          refine ih (not_lt.1 hlong) ?_
          rw [List.length_cons] at hmany
          show clamdMaxReplyBytes < (s.reply ++ chunk).length + reads.length
          omega

/-! ### The record -/

/-- What a stream says: the text before its first NUL, or all of it without one. It is no record
when it is empty, longer than a record may be, or not UTF-8. -/
def recordOf (stream : List UInt8) : Except ScanError String :=
  match recordText (stream.takeWhile (· ≠ 0)) with
  | none => .error .valueError
  | some text => .ok text

variable {chunks : List (List UInt8)}

/-- In time, a record is what the stream says. -/
theorem receiveRecord_exec (hreplies : channel.replies = chunks.map .ok)
    (hchunks : ∀ chunk ∈ chunks, chunk ≠ []) (htime : ∀ i, channel.clock i < deadline)
    (connection : Connection) :
    ((receiveRecord channel deadline).exec connection).1 = recordOf chunks.flatten := by
  have hspec : Spec (At connection.sent connection.streamedBytes) (receiveRecord channel deadline)
    _ _ := receiveRecord_spec
  have hrecord : channel.record = chunks.flatten.takeWhile (· ≠ 0) := by
    rw [Channel.record, hreplies, content_map_ok hchunks]
  rcases hexec : (receiveRecord channel deadline).exec connection with ⟨e | text, c⟩
  · obtain ⟨-, ⟨-, j, hj⟩ | hcut | ⟨rfl, hnone⟩⟩ := hspec.of_error ⟨rfl, rfl⟩ hexec
    · exact absurd (htime j) (not_lt.2 hj)
    · rw [hreplies, interruption_map_ok hchunks] at hcut
      cases hcut
    · rw [recordOf, ← hrecord, hnone]
  · obtain ⟨-, htext⟩ := hspec.of_ok ⟨rfl, rfl⟩ hexec
    rw [recordOf, ← hrecord, htext]

/-- **How a stream is cut into pieces does not matter.** The outcome is what the whole stream says;
meanwhile the buffer never holds more than the limit and a piece, and the loop ends, after so many
pieces at most. -/
theorem receiveRecord_fragmented (hreplies : channel.replies = chunks.map .ok)
    (hchunks : ∀ chunk ∈ chunks, chunk ≠ [] ∧ chunk.length ≤ recvBytes)
    (htime : ∀ i, channel.clock i < deadline) (connection : Connection) :
    ((receiveRecord channel deadline).exec connection).1 = recordOf chunks.flatten ∧
      (((receiveInto channel deadline channel.replies).exec (.start connection)).2).Bounded := by
  refine ⟨receiveRecord_exec hreplies (fun chunk h ↦ (hchunks chunk h).1) htime connection, ?_⟩
  have hpieces : ∀ chunk, .ok chunk ∈ channel.replies → chunk.length ≤ recvBytes := by
    intro chunk hmem
    rw [hreplies] at hmem
    obtain ⟨piece, hpiece, heq⟩ := List.mem_map.1 hmem
    obtain rfl := Except.ok.inj heq
    exact (hchunks piece hpiece).2
  have hspec : Spec _ (receiveInto channel deadline channel.replies) _ _ :=
    receiveInto_spec hpieces
  rcases hexec : (receiveInto channel deadline channel.replies).exec (.start connection)
    with ⟨e | done, s⟩
  · exact hspec.of_error (Reception.start_open connection) hexec
  · exact hspec.of_ok (Reception.start_open connection) hexec

namespace Sample

/-- A daemon that says `PONG` in two pieces, and goes on. -/
def fragmented : Channel where
  refused := false
  clock _ := 0
  sendFault _ := none
  replies := [.ok [80, 79], .ok [78, 71, 0, 33], .ok [34]]
  closeFault := false

end Sample

/-- The theorem for an answer to `PING`. -/
theorem receiveRecord_fragmented_sample :
    ((receiveRecord Sample.fragmented 1).exec .fresh).1 = .ok "PONG" := by
  have hreplies : Sample.fragmented.replies =
    ([[80, 79], [78, 71, 0, 33], [34]] : List (List UInt8)).map .ok := rfl
  obtain ⟨houtcome, -⟩ :=
    receiveRecord_fragmented hreplies (by decide) (fun _ ↦ Int.zero_lt_one) .fresh
  exact houtcome.trans (by decide)

end SupportFlow.ClamdDocumentSafetyScanner
