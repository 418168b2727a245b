import SupportFlow.Documents.Clamd

/-!
# What a scanner's verdict means

A verdict of the ClamD scanner is worth what its connections did. `clean_whole_document` collects
what stands behind a CLEAN: a daemon with fresh signatures, and the whole document on the wire in
well-formed frames. Whatever fails on the way makes the document UNAVAILABLE, except a wall clock
so near the end of its range that the health check cannot add its tolerance
(`scan_overflows`).

The end of a stream ends a record as well as its NUL does. A reply that is cut off is therefore
taken for a whole one, and when the part that arrived reads as a verdict it is believed
(`truncated_reply_unavailable_iff`).
-/

namespace SupportFlow

open Python ByteStream Effect

namespace ClamdDocumentSafetyScanner

variable (scanner : ClamdDocumentSafetyScanner) {s : ScanSurroundings} {source : ScanSource}

/-! ### The health check -/

/-- A responsive daemon with fresh signatures: `PING` was answered by `PONG`, and `VERSION` by a
timestamp that is not too far in the future and not too old. -/
def Healthy (s : ScanSurroundings) : Prop :=
  recordText s.ping.record = some "PONG" ∧
    ∃ reply signatureTimestamp now, recordText s.version.record = some reply ∧
      parseClamdDatabaseTimestamp reply = some signatureTimestamp ∧ s.now.utc? = some now ∧
        (signatureTimestamp.val : ℤ) ≤ now.val + scanner.clockSkewToleranceSeconds * 1000000 ∧
          (now.val : ℤ) - signatureTimestamp.val ≤ scanner.signatureMaxAgeSeconds * 1000000

/-- The wall clock, in UTC and with the tolerance added, is in range. -/
def ClockFits (s : ScanSurroundings) : Prop :=
  (s.now.utc?.bind fun now ↦
    Wall.add? now (scanner.clockSkewToleranceSeconds * 1000000)).isSome = true

instance (s : ScanSurroundings) : Decidable (scanner.ClockFits s) :=
  inferInstanceAs (Decidable (_ = true))

theorem fresh_eq_true {now signatureTimestamp : Wall}
    (h : scanner.fresh now signatureTimestamp = some true) :
    (signatureTimestamp.val : ℤ) ≤ now.val + scanner.clockSkewToleranceSeconds * 1000000 ∧
      (now.val : ℤ) - signatureTimestamp.val ≤ scanner.signatureMaxAgeSeconds * 1000000 := by
  obtain ⟨latest, hlatest, hverdict⟩ := Option.map_eq_some_iff.1 h
  have hval := Wall.val_of_add? hlatest
  split at hverdict
  · cases hverdict
  · next hskew =>
    rw [decide_eq_true_eq] at hverdict
    exact ⟨by omega, by omega⟩

/-- A command that returns has the daemon's reply. -/
theorem record_of_command {channel : Channel} {name text : String}
    (h : ((scanner.command channel name).exec .fresh).1 = .ok text) :
    recordText channel.record = some text :=
  (scanner.command_spec channel name).of_ok trivial (Prod.ext h rfl)

theorem healthy_of_isHealthy (h : scanner.isHealthy s = .ok true) : scanner.Healthy s := by
  unfold isHealthy at h
  rcases hping : ((scanner.command s.ping "PING").exec .fresh).1 with e | pong
  · simp only [hping] at h
    cases h
  simp only [hping] at h
  split at h
  · cases h
  next hpong =>
  rcases hversion : ((scanner.command s.version "VERSION").exec .fresh).1 with e | reply
  · simp only [hversion] at h
    cases h
  simp only [hversion] at h
  rcases hparse : parseClamdDatabaseTimestamp reply with - | signatureTimestamp
  · simp only [hparse] at h
    cases h
  simp only [hparse] at h
  rcases hfresh : s.now.utc?.bind fun now ↦ scanner.fresh now signatureTimestamp with - | verdict
  · simp only [hfresh] at h
    cases h
  simp only [hfresh, Except.ok.injEq] at h
  obtain ⟨now, hnow, hverdict⟩ := Option.bind_eq_some_iff.1 hfresh
  obtain ⟨hskew, hage⟩ := scanner.fresh_eq_true (h ▸ hverdict)
  refine ⟨?_, reply, signatureTimestamp, now, scanner.record_of_command hversion, hparse, hnow,
    hskew, hage⟩
  rw [scanner.record_of_command hping, not_not.1 hpong]

/-- The health check does not use the scan connection. -/
theorem isHealthy_congr {s' : ScanSurroundings} (hping : s.ping = s'.ping)
    (hversion : s.version = s'.version) (hnow : s.now = s'.now) :
    scanner.isHealthy s = scanner.isHealthy s' := by
  unfold isHealthy
  rw [hping, hversion, hnow]

/-- Only the wall clock makes the health check raise. -/
theorem isHealthy_ne_error (h : scanner.ClockFits s) (e : OverflowError) :
    scanner.isHealthy s ≠ .error e := by
  obtain ⟨latest, hlatest⟩ := Option.isSome_iff_exists.1 h
  obtain ⟨now, hnow, hadd⟩ := Option.bind_eq_some_iff.1 hlatest
  intro herror
  unfold isHealthy at herror
  rcases hping : ((scanner.command s.ping "PING").exec .fresh).1 with e | pong
  · simp only [hping] at herror
    cases herror
  simp only [hping] at herror
  split at herror
  · cases herror
  rcases hversion : ((scanner.command s.version "VERSION").exec .fresh).1 with e | reply
  · simp only [hversion] at herror
    cases herror
  simp only [hversion] at herror
  rcases hparse : parseClamdDatabaseTimestamp reply with - | signatureTimestamp
  · simp only [hparse] at herror
    cases herror
  have hfresh : s.now.utc?.bind (fun now ↦ scanner.fresh now signatureTimestamp) ≠ none := by
    rw [hnow, Option.bind_some, fresh, hadd]
    exact fun hnone ↦ nomatch hnone
  obtain ⟨verdict, hverdict⟩ := Option.ne_none_iff_exists'.1 hfresh
  simp only [hparse, hverdict] at herror
  cases herror

/-- A daemon that did not get its commands through is not healthy. -/
theorem isHealthy_of_raised {e : ScanError}
    (h : ((scanner.command s.ping "PING").exec .fresh).1 = .error e ∨
      ((scanner.command s.version "VERSION").exec .fresh).1 = .error e) :
    scanner.isHealthy s = .ok false := by
  unfold isHealthy
  rcases hping : ((scanner.command s.ping "PING").exec .fresh).1 with e' | pong
  · rfl
  · rcases h with h | h
    · rw [hping] at h
      cases h
    · simp only [h]
      split <;> rfl

/-! ### What a scan transmits -/

/-- **The whole document was transmitted**: the bytes of the scan connection are the command, frames
that are not empty, and one empty frame; they decode to exactly the document's bytes, of which there
are not too many, and reading the document came to its end. -/
def Transmitted (source : ScanSource) (sent : List UInt8) : Prop :=
  ∃ chunks : List (List UInt8),
    sent = encode "zINSTREAM" ++ [0] ++ (chunks.flatMap Framing.frame ++ Framing.terminator) ∧
      (∀ chunk ∈ chunks, chunk ≠ [] ∧ chunk.length < 2 ^ 32) ∧
        Framing.decode (chunks.flatMap Framing.frame ++ Framing.terminator) =
            ⟨.finished [], content source.reads⟩ ∧
          interruption source.reads = none ∧
            (content source.reads).length ≤ scanner.maxStreamBytes

/-- The frame that ends the document was sent. -/
def TerminatorSent (sent : List UInt8) : Prop :=
  (Framing.decode (sent.drop (encode "zINSTREAM" ++ [0]).length)).Finished

/-- Some step of a scan times out or fails: one of its calls raises. -/
def StepFails (s : ScanSurroundings) (source : ScanSource) : Prop :=
  ∃ e, ((scanner.command s.ping "PING").exec .fresh).1 = .error e ∨
    ((scanner.command s.version "VERSION").exec .fresh).1 = .error e ∨
      ((scanner.scanStream s.stream source).exec .fresh).1 = .error e

/-- The chunks of a document are small enough for frames. -/
theorem frameable (source : ScanSource) :
    ∀ chunk ∈ delivered source.reads, chunk ≠ [] ∧ chunk.length < 2 ^ 32 := by
  intro chunk hchunk
  obtain ⟨hread, hne⟩ := of_mem_delivered hchunk
  exact ⟨hne, lt_of_le_of_lt (source.bounded chunk hread) (by decide)⟩

/-- A streaming call that returns has transmitted the whole document. -/
theorem transmitted_of_scanStream {reply : String} {c : Connection}
    (h : (scanner.scanStream s.stream source).exec .fresh = (.ok reply, c)) :
    scanner.Transmitted source c.sent := by
  obtain ⟨hsent, hend, hfits, -⟩ :=
    (scanner.scanStream_spec s.stream source).of_ok ⟨rfl, rfl⟩ h
  refine ⟨delivered source.reads, ?_, frameable source, Framing.decode_stream (frameable source),
    hend, hfits⟩
  rw [hsent, streamed, List.append_assoc]

/-- For a document that is too long, a streaming call raises before the last frame. -/
theorem scanStream_too_long (hlong : scanner.maxStreamBytes < (content source.reads).length) :
    (∃ e, ((scanner.scanStream s.stream source).exec .fresh).1 = .error e) ∧
      ¬TerminatorSent ((scanner.scanStream s.stream source).exec .fresh).2.sent := by
  rcases h : (scanner.scanStream s.stream source).exec .fresh with ⟨e | reply, c⟩
  · refine ⟨⟨e, rfl⟩, ?_⟩
    rcases (scanner.scanStream_spec s.stream source).of_error ⟨rfl, rfl⟩ h with ⟨hsent | hfits, -⟩
    · refine Framing.not_finished_of_prefix (frameable source) ?_
      obtain ⟨rest, hrest⟩ := hsent
      have hdrop := congrArg (List.drop (encode "zINSTREAM" ++ [0]).length) hrest
      rw [streamed, List.drop_left, List.drop_append] at hdrop
      exact ⟨_, hdrop⟩
    · exact absurd hlong (not_lt.2 hfits)
  · obtain ⟨-, -, hfits, -⟩ := (scanner.scanStream_spec s.stream source).of_ok ⟨rfl, rfl⟩ h
    exact absurd hlong (not_lt.2 hfits)

/-- An unused connection has no last frame. -/
theorem not_terminatorSent_fresh : ¬TerminatorSent Connection.fresh.sent := by
  rintro ⟨extra, hextra⟩
  cases hextra

theorem scanVerdict_eq_clean {reply : String} (h : scanVerdict reply = .clean) :
    reply = "stream: OK" := by
  unfold scanVerdict at h
  split at h
  · assumption
  · split at h
    · dsimp only at h
      split at h <;> cases h
    · cases h

/-- A CLEAN scan is a healthy daemon and a transmitted document. -/
theorem healthy_of_clean (h : (scanner.scan s source).1 = .ok .clean) :
    scanner.Healthy s ∧ scanner.Transmitted source (scanner.scan s source).2.sent := by
  unfold scan at h ⊢
  rcases hhealth : scanner.isHealthy s with e | (- | -)
  · simp only [hhealth] at h
    cases h
  · simp only [hhealth] at h
    cases h
  · simp only [hhealth] at h
    refine ⟨scanner.healthy_of_isHealthy hhealth, ?_⟩
    rcases hexec : (scanner.scanStream s.stream source).exec .fresh with ⟨e | reply, c⟩
    · simp only [hexec] at h
      cases h
    · exact scanner.transmitted_of_scanStream hexec

/-- A scan of a healthy daemon that replies has the verdict on the reply. -/
theorem scan_eq_verdict {reply : String} {c : Connection} (hhealth : scanner.isHealthy s = .ok true)
    (hexec : (scanner.scanStream s.stream source).exec .fresh = (.ok reply, c)) :
    scanner.scan s source = (.ok (scanVerdict reply), c) := by
  unfold scan
  simp only [hhealth, hexec]

/-- A document that is too long is not finished on the wire. -/
theorem not_terminatorSent_of_too_long
    (hlong : scanner.maxStreamBytes < (content source.reads).length) :
    ¬TerminatorSent (scanner.scan s source).2.sent := by
  obtain ⟨⟨e, herror⟩, hsent⟩ := scanner.scanStream_too_long (s := s) hlong
  unfold scan
  rcases scanner.isHealthy s with e | (- | -)
  · exact not_terminatorSent_fresh
  · exact not_terminatorSent_fresh
  · rcases hexec : (scanner.scanStream s.stream source).exec .fresh with ⟨e | reply, c⟩
    · rwa [hexec] at hsent
    · rw [hexec] at herror
      cases herror

/-- A scan one of whose steps fails finds the document UNAVAILABLE. -/
theorem unavailable_of_stepFails (hclock : scanner.ClockFits s)
    (hfails : scanner.StepFails s source) : (scanner.scan s source).1 = .ok .unavailable := by
  obtain ⟨e, hfails⟩ := hfails
  unfold scan
  rcases hhealth : scanner.isHealthy s with e' | (- | -)
  · exact absurd hhealth (scanner.isHealthy_ne_error hclock e')
  · rfl
  · -- The daemon is healthy, so it is the streaming call that raised.
    have hstream : ((scanner.scanStream s.stream source).exec .fresh).1 = .error e := by
      rcases hfails with h | h | h
      · rw [scanner.isHealthy_of_raised (Or.inl h)] at hhealth
        cases hhealth
      · rw [scanner.isHealthy_of_raised (Or.inr h)] at hhealth
        cases hhealth
      · exact h
    rcases hexec : (scanner.scanStream s.stream source).exec .fresh with ⟨e' | reply, c⟩
    · rfl
    · rw [hexec] at hstream
      cases hstream

end ClamdDocumentSafetyScanner

/-- **A CLEAN verdict means the whole document was scanned by a healthy daemon**, and whatever is
too long or fails is UNAVAILABLE while the wall clock is in range; the last frame is never sent for
a document that is too long. -/
theorem clean_whole_document (scanner : ClamdDocumentSafetyScanner) (s : ScanSurroundings)
    (source : ScanSource) :
    ((scanner.scan s source).1 = .ok .clean →
      scanner.Healthy s ∧ scanner.Transmitted source (scanner.scan s source).2.sent) ∧
    (scanner.maxStreamBytes < (content source.reads).length →
      ¬ClamdDocumentSafetyScanner.TerminatorSent (scanner.scan s source).2.sent) ∧
    (scanner.ClockFits s →
      scanner.maxStreamBytes < (content source.reads).length ∨ scanner.StepFails s source →
        (scanner.scan s source).1 = .ok .unavailable) := by
  refine ⟨scanner.healthy_of_clean, scanner.not_terminatorSent_of_too_long,
    fun hclock hwrong ↦ scanner.unavailable_of_stepFails hclock ?_⟩
  rcases hwrong with hlong | hfails
  · obtain ⟨⟨e, he⟩, -⟩ := scanner.scanStream_too_long (s := s) hlong
    exact ⟨e, Or.inr (Or.inr he)⟩
  · exact hfails

/-! ### Two scans -/

namespace ScanSample

/-- A channel on which nothing goes wrong, with one read for each byte of the reply. -/
def channel (reply : List UInt8) : Channel where
  refused := false
  clock _ := 0
  sendFault _ := none
  replies := reply.map fun byte ↦ .ok [byte]
  closeFault := false

/-- The default settings. -/
def scanner : ClamdDocumentSafetyScanner where
  connectTimeoutSeconds := 2
  scanTimeoutSeconds := 60
  maxStreamBytes := 10 * 1024 * 1024
  signatureMaxAgeSeconds := 24 * 60 * 60
  clockSkewToleranceSeconds := 5 * 60

/-- The thirteenth of August 2026, noon. -/
def noon : Wall :=
  ⟨wallOf 2026 8 13 12 0 0, wallOf_lt (by decide)⟩

/-- A healthy daemon that answers a document with these bytes. -/
def daemon (now : Wall) (reply : List UInt8) : ScanSurroundings where
  ping := channel (encode "PONG" ++ [0])
  version := channel (encode "ClamAV 1.4.3/27817/Thu Aug 13 12:00:00 2026" ++ [0])
  stream := channel reply
  now := ⟨now, none⟩

/-- A document of two chunks. -/
def document : ScanSource where
  reads := [.ok (encode "safe "), .ok (encode "document")]
  bounded := by
    intro chunk h
    simp only [List.mem_cons, Except.ok.injEq, List.not_mem_nil, or_false] at h
    rcases h with rfl | rfl <;> decide

end ScanSample

open ScanSample in
/-- The theorem for a clean document, and for the same document under a limit of three bytes. -/
theorem clean_whole_document_sample :
    (scanner.Healthy (daemon noon (encode "stream: OK" ++ [0])) ∧
        scanner.Transmitted document
          (scanner.scan (daemon noon (encode "stream: OK" ++ [0])) document).2.sent) ∧
      ({ scanner with maxStreamBytes := 3 }.scan
        (daemon noon (encode "stream: OK" ++ [0])) document).1 = .ok .unavailable :=
  ⟨(clean_whole_document scanner _ _).1 (by decide +kernel),
    (clean_whole_document { scanner with maxStreamBytes := 3 } _ _).2.2 (by decide +kernel)
      (Or.inl (by decide +kernel))⟩

namespace ScanSample

/-- The last time there is. -/
def endOfTime : Wall :=
  ⟨wallOf 9999 12 31 23 59 59, wallOf_lt (by decide)⟩

end ScanSample

open ScanSample in
/-- **A health check may raise**: five minutes before the end of time the tolerance cannot be added,
and a scan of a document that is too long is not UNAVAILABLE but an `OverflowError`. -/
theorem scan_overflows : ¬∀ (scanner : ClamdDocumentSafetyScanner) (s : ScanSurroundings)
    (source : ScanSource), scanner.maxStreamBytes < (content source.reads).length →
      (scanner.scan s source).1 = .ok .unavailable := by
  intro h
  have hscan := h { scanner with maxStreamBytes := 3 }
    (daemon endOfTime (encode "stream: OK" ++ [0])) document (by decide +kernel)
  exact absurd hscan (by decide +kernel)

/-! ### Replies that are cut off -/

/-- Bytes that read as a verdict: `stream: OK`, or `stream: … FOUND` with something in between. -/
def ReadsAsVerdict (cut : List UInt8) : Prop :=
  cut.length ≤ clamdMaxReplyBytes ∧ ∃ text, decode cut = some text ∧
    (strip text = "stream: OK" ∨ ∃ signature, signature ≠ [] ∧
      (strip text).toList = "stream: ".toList ++ signature ++ " FOUND".toList)

/-- What is left between a beginning and an end that do not overlap. -/
theorem eq_append_middle {l p q : List Char} (hp : p <+: l) (hq : q <:+ l)
    (hlength : p.length + q.length ≤ l.length) :
    l = p ++ (l.drop p.length).take (l.length - p.length - q.length) ++ q := by
  obtain ⟨rest, rfl⟩ := hp
  obtain ⟨front, hfront⟩ := hq
  have hrest : q <:+ rest :=
    List.suffix_of_suffix_length_le ⟨front, hfront⟩ (List.suffix_append _ _) (by
      rw [List.length_append] at hlength
      omega)
  obtain ⟨middle, rfl⟩ := hrest
  rw [List.drop_left, List.append_assoc]
  congr 2
  rw [List.take_left']
  simp only [List.length_append]
  omega

/-- The texts a scan takes for a finding. -/
theorem scanVerdict_eq_infected_iff {reply : String} :
    scanVerdict reply = .infected ↔ ∃ signature, signature ≠ [] ∧ Char.ofNat 0 ∉ signature ∧
      reply.toList = "stream: ".toList ++ signature ++ " FOUND".toList := by
  have hlength : reply.length = reply.toList.length := String.length_toList.symm
  have hstream : "stream: ".toList.length = 8 := rfl
  have hfound : " FOUND".toList.length = 6 := rfl
  unfold scanVerdict
  constructor
  · intro h
    split at h
    · cases h
    split at h
    · next hframe =>
      dsimp only at h
      split at h
      · next hsignature =>
        refine ⟨_, hsignature.1, hsignature.2, ?_⟩
        refine eq_append_middle hframe.1 hframe.2 ?_
        by_contra hshort
        refine hsignature.1 (List.take_eq_nil_iff.2 (Or.inl ?_))
        show reply.length - 8 - 6 = 0
        omega
      · cases h
    · cases h
  · rintro ⟨signature, hne, hnul, hreply⟩
    have hslice : (reply.toList.drop 8).take (reply.length - 8 - 6) = signature := by
      rw [hlength, hreply, List.append_assoc, List.drop_left' hstream, List.take_left']
      simp only [List.length_append, hstream, hfound]
      omega
    rw [if_neg, if_pos]
    · show (if (reply.toList.drop 8).take (reply.length - 8 - 6) ≠ [] ∧
        Char.ofNat 0 ∉ (reply.toList.drop 8).take (reply.length - 8 - 6) then _ else _) = _
      rw [hslice, if_pos ⟨hne, hnul⟩]
    · rw [hreply, List.append_assoc]
      exact ⟨List.prefix_append _ _, (List.suffix_append _ _).trans (List.suffix_append _ _)⟩
    · rintro rfl
      have hlen := congrArg List.length hreply
      have hpos := List.length_pos_of_ne_nil hne
      simp only [List.length_append, hstream, hfound] at hlen
      have hten : "stream: OK".toList.length = 10 := rfl
      omega


/-- Bytes without a NUL are taken for a verdict exactly when they read as one. -/
theorem readsAsVerdict_iff {cut : List UInt8} (hnul : 0 ∉ cut) :
    ReadsAsVerdict cut ↔ ∃ text, recordText cut = some text ∧ scanVerdict text ≠ .unavailable := by
  constructor
  · rintro ⟨hlength, text, htext, hverdict⟩
    have hne : cut ≠ [] := by
      -- An empty reply has an empty text, which is no verdict.
      rintro rfl
      obtain rfl : "" = text := Option.some.inj htext
      rcases hverdict with h | ⟨signature, -, h⟩
      · exact absurd h (by decide)
      · exact absurd (congrArg List.length h) (by simp [strip])
    refine ⟨strip text, ?_, ?_⟩
    · rw [recordText, if_neg (not_or.2 ⟨hne, not_lt.2 hlength⟩), htext, Option.map_some]
    · rcases hverdict with h | ⟨signature, hsignature, h⟩
      · rw [h]
        decide
      · have hclean : Char.ofNat 0 ∉ signature := fun hmem ↦ by
          have hstripped : Char.ofNat 0 ∈ (strip text).toList := by
            rw [h]
            exact List.mem_append_left _ (List.mem_append_right _ hmem)
          have hzero := zero_mem_encode_iff.2 (mem_of_mem_strip hstripped)
          rw [encode_of_decode htext] at hzero
          exact hnul hzero
        rw [scanVerdict_eq_infected_iff.2 ⟨signature, hsignature, hclean, h⟩]
        decide
  · rintro ⟨text, htext, hverdict⟩
    unfold recordText at htext
    split at htext
    · cases htext
    · next hsize =>
      obtain ⟨raw, hraw, rfl⟩ := Option.map_eq_some_iff.1 htext
      refine ⟨not_lt.1 (not_or.1 hsize).2, raw, hraw, ?_⟩
      cases h : scanVerdict (strip raw) with
      | clean => exact Or.inl (ClamdDocumentSafetyScanner.scanVerdict_eq_clean h)
      | infected =>
        obtain ⟨signature, hsignature, -, heq⟩ := scanVerdict_eq_infected_iff.1 h
        exact Or.inr ⟨signature, hsignature, heq⟩
      | unavailable => exact absurd h hverdict

/-- A proper beginning of a record and its NUL has no NUL. -/
theorem zero_not_mem_of_cut {record cut : List UInt8} (hrecord : 0 ∉ record)
    (hcut : cut <+: record ++ [0]) (hproper : cut ≠ record ++ [0]) : 0 ∉ cut := by
  rcases List.prefix_concat_iff.1 hcut with h | h
  · exact absurd h hproper
  · exact fun hmem ↦ hrecord (h.subset hmem)

namespace ClamdDocumentSafetyScanner

/-- A record without a NUL is all the daemon sent. -/
theorem record_eq_content {channel : Channel} (h : 0 ∉ content channel.replies) :
    channel.record = content channel.replies :=
  List.takeWhile_eq_self_iff.2 fun _ hbyte ↦ decide_eq_true fun hzero ↦ h (hzero ▸ hbyte)

/-- A reply that does not read as a verdict makes the document UNAVAILABLE. -/
theorem unavailable_of_cut (scanner : ClamdDocumentSafetyScanner) {s : ScanSurroundings}
    {source : ScanSource} (hnul : 0 ∉ content s.stream.replies)
    (hcut : ¬ReadsAsVerdict (content s.stream.replies)) (hclock : scanner.ClockFits s) :
    (scanner.scan s source).1 = .ok .unavailable := by
  unfold scan
  rcases hhealth : scanner.isHealthy s with e | (- | -)
  · exact absurd hhealth (scanner.isHealthy_ne_error hclock e)
  · rfl
  · rcases hexec : (scanner.scanStream s.stream source).exec .fresh with ⟨e | reply, c⟩
    · rfl
    · obtain ⟨-, -, -, hreply⟩ := (scanner.scanStream_spec s.stream source).of_ok ⟨rfl, rfl⟩ hexec
      rw [record_eq_content hnul] at hreply
      show Except.ok (scanVerdict reply) = _
      by_contra hverdict
      exact hcut ((readsAsVerdict_iff hnul).2 ⟨reply, hreply, fun h ↦ hverdict (h ▸ rfl)⟩)

end ClamdDocumentSafetyScanner

namespace ScanSample

theorem content_channel (reply : List UInt8) :
    content (channel reply).replies = reply ∧ interruption (channel reply).replies = none := by
  induction reply with
  | nil => exact ⟨rfl, rfl⟩
  | cons byte reply ih => exact ⟨congrArg (byte :: ·) ih.1, ih.2⟩

/-- The channel is calm for every reply that is not too long. -/
theorem calm_channel {reply : List UInt8} (h : reply.length ≤ clamdMaxReplyBytes) {seconds : ℕ}
    (hpos : 0 < seconds) : (channel reply).Calm seconds where
  accepted := rfl
  punctual i j := by
    show (0 : ℤ) < 0 + seconds * 1000000000
    omega
  passedOn _ := rfl
  delivered := (content_channel reply).2
  bounded := by
    rw [(content_channel reply).1]
    exact h
  closed := rfl

/-- A document without content. -/
def nothing : ScanSource where
  reads := []
  bounded _ h := nomatch h

/-- On the sample's connections the verdict is the one on the reply. -/
theorem scan_daemon {cut : List UInt8} {text : String} (hlength : cut.length ≤ clamdMaxReplyBytes)
    (htext : recordText (channel cut).record = some text) :
    (scanner.scan (daemon noon cut) nothing).1 = .ok (scanVerdict text) := by
  have hhealth : scanner.isHealthy (daemon noon cut) = .ok true := by
    have hsame : scanner.isHealthy (daemon noon cut) = scanner.isHealthy (daemon noon []) :=
      scanner.isHealthy_congr rfl rfl rfl
    rw [hsame]
    decide +kernel
  rcases hexec : (scanner.scanStream (daemon noon cut).stream nothing).exec .fresh with
    ⟨e | reply, c⟩
  · rcases ((scanner.scanStream_spec (channel cut) nothing).of_error ⟨rfl, rfl⟩ hexec).2 with
      hwrong | hwrong | hwrong | hwrong
    · exact absurd (calm_channel hlength (by decide)) hwrong
    · exact absurd rfl hwrong
    · exact absurd hwrong (by decide)
    · rw [htext] at hwrong
      cases hwrong
  · obtain ⟨-, -, -, hreply⟩ :=
      (scanner.scanStream_spec (channel cut) nothing).of_ok ⟨rfl, rfl⟩ hexec
    rw [htext] at hreply
    rw [scanner.scan_eq_verdict hhealth hexec, Option.some.inj hreply]

end ScanSample

/-- **A reply that is cut off makes the document UNAVAILABLE exactly when the part that arrived does
not read as a verdict**, whatever the record was, however its bytes were split, and whatever else
happens in the scan. -/
theorem truncated_reply_unavailable_iff {record cut : List UInt8} (hrecord : 0 ∉ record)
    (hcut : cut <+: record ++ [0]) (hproper : cut ≠ record ++ [0]) :
    (∀ (scanner : ClamdDocumentSafetyScanner) (s : ScanSurroundings) (source : ScanSource),
      content s.stream.replies = cut → scanner.ClockFits s →
        (scanner.scan s source).1 = .ok .unavailable) ↔ ¬ReadsAsVerdict cut := by
  have hnul := zero_not_mem_of_cut hrecord hcut hproper
  constructor
  · intro hclosed hverdict
    obtain ⟨text, htext, hne⟩ := (readsAsVerdict_iff hnul).1 hverdict
    have hcontent := (ScanSample.content_channel cut).1
    have hrecordText : recordText (ScanSample.channel cut).record = some text := by
      rw [ClamdDocumentSafetyScanner.record_eq_content (by rwa [hcontent]), hcontent, htext]
    have hclock : ScanSample.scanner.ClockFits (ScanSample.daemon ScanSample.noon cut) := by
      show ScanSample.scanner.ClockFits (ScanSample.daemon ScanSample.noon [])
      decide +kernel
    have hscan := hclosed ScanSample.scanner (ScanSample.daemon ScanSample.noon cut)
      ScanSample.nothing hcontent hclock
    rw [ScanSample.scan_daemon hverdict.1 hrecordText] at hscan
    exact hne (Except.ok.inj hscan)
  · rintro hverdict scanner s source rfl hclock
    exact scanner.unavailable_of_cut hnul hverdict hclock

/-- The theorem for a record that is cut off before it reads as a verdict. -/
theorem truncated_reply_unavailable_sample :
    (ScanSample.scanner.scan (ScanSample.daemon ScanSample.noon (encode "stream: O"))
      ScanSample.document).1 = .ok .unavailable := by
  have hcut : encode "stream: O" <+: encode "stream: OK" ++ [0] := by decide
  refine (truncated_reply_unavailable_iff (by decide) hcut (by decide)).2 ?_ _ _ _
    (ScanSample.content_channel _).1 (by decide +kernel)
  rintro ⟨-, text, htext, hverdict⟩
  obtain rfl : "stream: O" = text := Option.some.inj ((decode_encode _).symm.trans htext)
  rcases hverdict with h | ⟨signature, -, h⟩
  · exact absurd h (by decide)
  · have hlast := congrArg List.getLast? h
    rw [List.getLast?_append_of_ne_nil _ (by decide)] at hlast
    exact absurd hlast (by decide)

/-- **A cut-off reply is believed**: of a record that begins with `stream: OK` only that much
arrives before the connection is closed, and the document is CLEAN. -/
theorem truncated_reply_clean : ¬∀ (record cut : List UInt8), 0 ∉ record →
    cut <+: record ++ [0] → cut ≠ record ++ [0] →
      ∀ (scanner : ClamdDocumentSafetyScanner) (s : ScanSurroundings) (source : ScanSource),
        content s.stream.replies = cut → (scanner.scan s source).1 = .ok .unavailable := by
  intro h
  have hscan := h (encode "stream: OK? size limit exceeded ERROR") (encode "stream: OK") (by decide)
    (by decide) (by decide) ScanSample.scanner
    (ScanSample.daemon ScanSample.noon (encode "stream: OK")) ScanSample.document
    (ScanSample.content_channel _).1
  exact absurd hscan (by decide +kernel)

end SupportFlow
