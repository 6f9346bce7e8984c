import MotionLink.Proofs.Wire.Reading
import MotionLink.Proofs.Wire.Writing

/-!
# Interruptions

A read, a write or a flush that is only interrupted is repeated, and what was done before it is
kept. So the interruptions may be taken out of what a stream will do: every operation comes to the
same without them, and leaves behind what it leaves behind with them, their own remainder apart.

## Main definitions

* `Source.calm`, `Sink.calm` — what a stream will do, without the interruptions
* `FrameReader.calm`, `FrameWriter.calm` — a reader and a writer over such a stream

## Main results

* `FrameReader.next_calm` — the next message is the same without interruptions
* `FrameWriter.send_calm` — so is what comes of a message to be sent, and what is written
-/

namespace MotionLink

/-! ### Scripts without interruptions -/

/-- The read is only interrupted. -/
def Arrival.isInterruption : Arrival → Bool
  | bytes _ => false
  | fault f => f.isInterruption

/-- The write is only interrupted. -/
def Acceptance.isInterruption : Acceptance → Bool
  | upTo _ => false
  | fault f => f.isInterruption

/-- What the reads of a stream yield, without the interruptions. -/
def Source.calm (source : Source) : Source := source.filter fun arrival => !arrival.isInterruption

/-- What the writes do, without the interruptions. -/
def calmWrites (writes : List Acceptance) : List Acceptance :=
  writes.filter fun w => !w.isInterruption

/-- What the flushes do, without the interruptions. -/
def calmFlushes (flushes : List (Option Fault)) : List (Option Fault) :=
  flushes.filter fun f => !f.any Fault.isInterruption

namespace Source

variable {source : Source} {f : Fault}

@[simp] theorem calm_nil : calm [] = [] := rfl

@[simp] theorem calm_bytes (bytes : Bytes) :
    calm (.bytes bytes :: source) = .bytes bytes :: calm source := rfl

theorem calm_interruption (h : f.isInterruption = true) :
    calm (.fault f :: source) = calm source :=
  List.filter_cons_of_neg (by simp [Arrival.isInterruption, h])

theorem calm_fault (h : ¬f.isInterruption = true) :
    calm (.fault f :: source) = .fault f :: calm source :=
  List.filter_cons_of_pos (by simp [Arrival.isInterruption, h])

/-- Cutting a stream into pieces cuts no interruption. -/
theorem calm_inPieces (size : Nat) (source : Source) :
    calm (source.inPieces size) = (calm source).inPieces size := by
  induction source with
  | nil => rfl
  | cons arrival source ih =>
    have hcons (arrival : Arrival) (source : Source) :
        inPieces size (arrival :: source) = arrival.inPieces size ++ inPieces size source :=
      List.flatMap_cons
    have happend (pieces rest : Source) : calm (pieces ++ rest) = calm pieces ++ calm rest :=
      List.filter_append pieces rest
    rw [hcons, happend, ih]
    cases arrival with
    | bytes bytes =>
      have hpieces : calm (Arrival.inPieces size (.bytes bytes)) =
          Arrival.inPieces size (.bytes bytes) := by
        refine List.filter_eq_self.mpr fun piece hpiece => ?_
        obtain ⟨b, -, rfl⟩ := List.mem_map.mp hpiece
        rfl
      rw [hpieces, calm_bytes, hcons]
    | fault f =>
      by_cases hf : f.isInterruption = true
      · rw [calm_interruption hf, Arrival.inPieces, calm_interruption hf]
        rfl
      · rw [calm_fault hf, hcons, Arrival.inPieces, calm_fault hf]
        rfl

end Source

/-! ### Reading -/

/-- An interrupted read takes no byte off the stream and loses none of those held. -/
theorem readFrame_calm (limit : Nat) (buffer : Bytes) (source : Source) :
    readFrame limit buffer source.calm =
      ((readFrame limit buffer source).1, (readFrame limit buffer source).2.1,
        (readFrame limit buffer source).2.2.calm) := by
  -- Only the interrupted read is gone; its case is that of the read behind it.
  fun_induction readFrame limit buffer source with
  | case1 source buffer e he => rw [readFrame.eq_def, he]
  | case2 source buffer frame rest hfound => rw [readFrame.eq_def, hfound]
  | case3 buffer hnone => rw [Source.calm_nil, readFrame, hnone]
  | case4 buffer hnone source => rw [Source.calm_bytes, readFrame, hnone]
  | case5 buffer hnone bytes source hne ih =>
    rw [Source.calm_bytes, readFrame, hnone]
    · exact ih
    · exact hne
  | case6 buffer hnone f source hf ih => rw [Source.calm_interruption hf, ih]
  | case7 buffer hnone f source hf =>
    rw [Source.calm_fault hf, readFrame, hnone]
    simp only [if_neg hf]

namespace FrameReader

/-- A reader whose stream is not interrupted any more. -/
def calm (reader : FrameReader) : FrameReader := { reader with source := reader.source.calm }

theorem calm_ofSource (limit : Nat) (source : Source) :
    (ofSource limit source).calm = ofSource limit source.calm :=
  congrArg (FrameReader.mk limit []) (Source.calm_inPieces readSize source)

/-- The next message is the same without interruptions. -/
theorem next_calm (reader : FrameReader) :
    reader.calm.next = (reader.next.1, reader.next.2.calm) := by
  simp only [next, calm, readFrame_calm]

end FrameReader

/-! ### Writing -/

theorem calmWrites_calmWrites (writes : List Acceptance) :
    calmWrites (calmWrites writes) = calmWrites writes :=
  List.filter_eq_self.mpr fun _ hw => (List.mem_filter.mp hw).2

theorem calmFlushes_calmFlushes (flushes : List (Option Fault)) :
    calmFlushes (calmFlushes flushes) = calmFlushes flushes :=
  List.filter_eq_self.mpr fun _ hf => (List.mem_filter.mp hf).2

/-- An interrupted write leaves the rest of the message to be offered again. -/
theorem offer_calm (writes : List Acceptance) (bytes : Bytes) :
    offer (calmWrites writes) bytes =
      ((offer writes bytes).1, (offer writes bytes).2.1, calmWrites (offer writes bytes).2.2) := by
  fun_induction offer writes bytes with
  | case1 writes => rw [offer]
  | case2 pending hne =>
    change offer [] pending = _
    rw [offer]
    · rfl
    · exact hne
  | case3 f writes pending hne hf ih =>
    have hdrop : calmWrites (.fault f :: writes) = calmWrites writes :=
      List.filter_cons_of_neg (by simp [Acceptance.isInterruption, hf])
    rw [hdrop, ih]
  | case4 f writes pending hne hf =>
    have hkeep : calmWrites (.fault f :: writes) = .fault f :: calmWrites writes :=
      List.filter_cons_of_pos (by simp [Acceptance.isInterruption, hf])
    rw [hkeep, offer, if_neg hf]
    exact hne
  | case5 writes pending hne =>
    change offer (.upTo 0 :: calmWrites writes) pending = _
    rw [offer]
    exact hne
  | case6 count writes pending hne hcount stop accepted rest hoffer ih =>
    change offer (.upTo count :: calmWrites writes) pending = _
    rw [offer, ih, hoffer]
    · exact hcount
    · exact hne

/-- An interrupted flush is asked for again, which only their number shows. -/
theorem flushUntilDone_calm (flushes : List (Option Fault)) :
    (flushUntilDone (calmFlushes flushes)).1 = (flushUntilDone flushes).1 ∧
      (flushUntilDone (calmFlushes flushes)).2.2 = calmFlushes (flushUntilDone flushes).2.2 := by
  fun_induction flushUntilDone flushes with
  | case1 => exact ⟨rfl, rfl⟩
  | case2 flushes => exact ⟨rfl, rfl⟩
  | case3 f flushes hf fault calls rest hflush ih =>
    have hdrop : calmFlushes (some f :: flushes) = calmFlushes flushes :=
      List.filter_cons_of_neg (by simp [hf])
    rw [hdrop]
    rw [hflush] at ih
    exact ih
  | case4 f flushes hf =>
    have hkeep : calmFlushes (some f :: flushes) = some f :: calmFlushes flushes :=
      List.filter_cons_of_pos (by simp [hf])
    rw [hkeep, flushUntilDone, if_neg hf]
    exact ⟨rfl, rfl⟩

namespace Sink

/-- What a stream will do with what is written, without the interruptions, and what it has taken.
How often it was flushed is forgotten, since that tells of the interruptions. -/
def calm (sink : Sink) : Sink where
  writes := calmWrites sink.writes
  flushes := calmFlushes sink.flushes
  written := sink.written
  flushCalls := 0

theorem calm_calm (sink : Sink) : sink.calm.calm = sink.calm := by
  simp only [calm, calmWrites_calmWrites, calmFlushes_calmFlushes]

theorem transmit_calm (sink : Sink) (bytes : Bytes) :
    sink.calm.transmit bytes = ((sink.transmit bytes).1, (sink.transmit bytes).2.calm) := by
  simp only [transmit, calm, offer_calm]

theorem flushPatiently_calm (sink : Sink) :
    sink.calm.flushPatiently.1 = sink.flushPatiently.1 ∧
      sink.calm.flushPatiently.2.calm = sink.flushPatiently.2.calm := by
  obtain ⟨hfault, hrest⟩ := flushUntilDone_calm sink.flushes
  refine ⟨hfault, ?_⟩
  simp only [flushPatiently, calm, hrest, calmWrites_calmWrites, calmFlushes_calmFlushes]

end Sink

namespace FrameWriter

/-- A writer whose stream is not interrupted any more. -/
def calm (writer : FrameWriter) : FrameWriter := { writer with sink := writer.sink.calm }

/-- What comes of a message to be sent is the same without interruptions, and so is what is
written. -/
theorem send_calm (writer : FrameWriter) (payload : Bytes) :
    (writer.calm.send payload).1 = (writer.send payload).1 ∧
      (writer.calm.send payload).2.calm = (writer.send payload).2.calm := by
  have hencode : writer.calm.encode payload = writer.encode payload := rfl
  have hcalm (sink : Sink) :
      FrameWriter.calm ⟨writer.limit, sink.calm⟩ = ⟨writer.limit, sink.calm⟩ :=
    congrArg (FrameWriter.mk writer.limit) sink.calm_calm
  rw [send, send, hencode]
  cases writer.encode payload with
  | error e => exact ⟨rfl, hcalm writer.sink⟩
  | ok wire =>
    have htransmit : writer.calm.sink.transmit wire = _ := writer.sink.transmit_calm wire
    dsimp only
    rw [htransmit]
    rcases writer.sink.transmit wire with ⟨_ | _ | f, sink⟩
    · obtain ⟨hfault, hrest⟩ := sink.flushPatiently_calm
      exact ⟨congrArg (Option.map FrameError.fault) hfault,
        congrArg (FrameWriter.mk writer.limit) hrest⟩
    · exact ⟨rfl, hcalm sink⟩
    · exact ⟨rfl, hcalm sink⟩

end FrameWriter

end MotionLink
