import MotionLink.Proofs.Wire.Writing

/-!
# The calls that a message takes

What a peer has seen of a message depends on each single call on its stream. So a message is told
as a row of calls: all that is left of the frame is offered, again and again, and when nothing is
left the stream is flushed. The first call that fails for good, that takes nothing, or that flushes
decides what the message comes to, and nothing is done behind it.

## Main definitions

* `SinkCall` — one call on a stream that is written to, and what came of it
* `Sink.Leads` — calls that lead from one sink to another
* `SinkCall.IsDue`, `Sending` — which call comes next, and the row of calls that a frame takes
* `FrameWriter.after` — a writer behind messages, also behind some that failed
* `FrameWriter.Sends` — what is to be expected of the calls for a payload

## Main results

* `Sending.moment`, `Sending.exists_last` — what each call finds, and which one decides
* `FrameWriter.exists_sending` — a message takes such a row of calls
* `FrameWriter.takesCalls` — so does each message in a row of messages
-/

namespace MotionLink

/-! ### Calls on a stream -/

/-- One call on a stream that is written to, and what came of it. -/
inductive SinkCall where
  /-- bytes were offered: those that were accepted, or the fault met -/
  | write (offered : Bytes) (outcome : Except Fault Bytes)
  | flush (fault : Option Fault)

namespace SinkCall

/-- The bytes that were accepted. -/
def taken : SinkCall → Bytes
  | write _ (.ok bytes) => bytes
  | write _ (.error _) | flush _ => []

/-- Nothing is done behind it for the same message: it failed for good, took nothing, or went well
as a flush. -/
def isLast : SinkCall → Bool
  | write _ (.ok bytes) => bytes.isEmpty
  | write _ (.error f) => !f.isInterruption
  | flush fault => !fault.any Fault.isInterruption

/-- What a message comes to whose last call this is. -/
def verdict : SinkCall → Option FrameError
  | write _ (.ok _) => some .closed
  | write _ (.error f) => some (.fault f)
  | flush fault => fault.map .fault

/-- The call that is to be made while these bytes are left of a frame: they are offered, all of
them, and if there are none the stream is flushed. -/
def IsDue (left : Bytes) : SinkCall → Prop
  | write offered _ => left ≠ [] ∧ offered = left
  | flush _ => left = []

end SinkCall

namespace Sink

/-- Offer bytes once: those that were accepted, or the fault met. -/
def write (sink : Sink) (offered : Bytes) : Except Fault Bytes × Sink :=
  match sink.writes with
  | [] => (.ok offered, { sink with written := sink.written ++ offered })
  | .fault f :: writes => (.error f, { sink with writes })
  | .upTo count :: writes =>
    (.ok (offered.take count), { sink with writes, written := sink.written ++ offered.take count })

/-- The call comes to what the stream does, and leaves the other sink behind. -/
def Makes (sink : Sink) (call : SinkCall) (behind : Sink) : Prop :=
  match call with
  | .write offered outcome => sink.write offered = (outcome, behind)
  | .flush fault => sink.flush = (fault, behind)

/-- Calls that lead from one sink to another. -/
inductive Leads : Sink → List SinkCall → Sink → Prop where
  | nil (sink : Sink) : Leads sink [] sink
  | cons {sink between last : Sink} {call : SinkCall} {calls : List SinkCall}
      (hcall : sink.Makes call between) (hrest : Leads between calls last) :
      Leads sink (call :: calls) last

variable {sink between behind : Sink} {call : SinkCall} {calls more : List SinkCall}

theorem Makes.written_eq (h : sink.Makes call behind) :
    behind.written = sink.written ++ call.taken := by
  obtain ⟨writes, flushes, written, flushCalls⟩ := sink
  cases call with
  | flush fault =>
    obtain ⟨-, rfl⟩ := Prod.mk.inj h
    exact (List.append_nil _).symm
  | write offered outcome =>
    rcases writes with _ | ⟨count | f, writes⟩
    · obtain ⟨rfl, rfl⟩ := Prod.mk.inj h
      rfl
    · obtain ⟨rfl, rfl⟩ := Prod.mk.inj h
      rfl
    · obtain ⟨rfl, rfl⟩ := Prod.mk.inj h
      exact (List.append_nil _).symm

/-- What a stream has accepted is what its calls have taken. -/
theorem Leads.written_eq (h : sink.Leads calls behind) :
    behind.written = sink.written ++ calls.flatMap SinkCall.taken := by
  induction h with
  | nil sink => exact (List.append_nil _).symm
  | cons hcall hrest ih => rw [ih, hcall.written_eq, List.flatMap_cons, List.append_assoc]

theorem Leads.trans (h : sink.Leads calls between) (hmore : between.Leads more behind) :
    sink.Leads (calls ++ more) behind := by
  induction h with
  | nil sink => exact hmore
  | cons hcall hrest ih => exact .cons hcall (ih hmore)

end Sink

/-! ### Rows of calls -/

/-- The calls that are made while these bytes are left of a frame, and what the message comes to. -/
inductive Sending : Bytes → List SinkCall → Option FrameError → Prop where
  | last {left : Bytes} {call : SinkCall} (hdue : call.IsDue left) (hlast : call.isLast = true) :
      Sending left [call] call.verdict
  | more {left rest : Bytes} {call : SinkCall} {calls : List SinkCall}
      {result : Option FrameError} (hdue : call.IsDue left) (hlast : call.isLast = false)
      (htaken : left = call.taken ++ rest) (hrest : Sending rest calls result) :
      Sending left (call :: calls) result

namespace Sending

variable {frame : Bytes} {calls before after : List SinkCall} {call : SinkCall}
  {result : Option FrameError}

/-- At each call what is left of the frame is all that was not taken before. -/
theorem moment (h : Sending frame calls result) (hsplit : calls = before ++ call :: after) :
    ∃ left, frame = before.flatMap SinkCall.taken ++ left ∧ call.IsDue left := by
  induction h generalizing before with
  | @last left first hdue hlast =>
    cases before with
    | nil =>
      obtain ⟨rfl, -⟩ := List.cons.inj hsplit
      exact ⟨left, rfl, hdue⟩
    | cons earlier before => simp at hsplit
  | @more left rest first calls result hdue hlast htaken hrest ih =>
    cases before with
    | nil =>
      obtain ⟨rfl, -⟩ := List.cons.inj hsplit
      exact ⟨left, rfl, hdue⟩
    | cons earlier before =>
      obtain ⟨rfl, hbehind⟩ := List.cons.inj hsplit
      obtain ⟨later, hlater, hcall⟩ := ih hbehind
      refine ⟨later, ?_, hcall⟩
      rw [htaken, hlater, List.flatMap_cons, List.append_assoc]

/-- The last call decides, and it alone ends the message. -/
theorem exists_last (h : Sending frame calls result) :
    ∃ before call, calls = before ++ [call] ∧ (∀ earlier ∈ before, earlier.isLast = false) ∧
      call.isLast = true ∧ result = call.verdict := by
  induction h with
  | @last left call hdue hlast => exact ⟨[], call, rfl, nofun, hlast, rfl⟩
  | @more left rest first calls result hdue hlast htaken hrest ih =>
    obtain ⟨before, call, rfl, hbefore, hcall, hresult⟩ := ih
    exact ⟨first :: before, call, rfl, List.forall_mem_cons.mpr ⟨hlast, hbefore⟩, hcall, hresult⟩

end Sending

/-! ### What a stream does with a frame -/

/-- What a message comes to whose frame was not taken whole. -/
def WriteStop.error : WriteStop → FrameError
  | stalled => .closed
  | fault f => .fault f

/-- What follows when a frame has been offered: nothing if that stopped early, and else flushes. -/
inductive Closing : Option WriteStop → List SinkCall → Option FrameError → Prop where
  | stopped (stop : WriteStop) : Closing (some stop) [] (some stop.error)
  | flushed {calls : List SinkCall} {result : Option FrameError} (h : Sending [] calls result) :
      Closing none calls result

namespace Sink

/-- A flush that was interrupted is asked for again. -/
theorem exists_flushes (sink : Sink) :
    ∃ calls, sink.Leads calls sink.flushPatiently.2 ∧
      Sending [] calls (sink.flushPatiently.1.map .fault) := by
  obtain ⟨writes, flushes, written, flushCalls⟩ := sink
  simp only [flushPatiently]
  have hflushed : Sending [] [.flush none] none := .last rfl rfl
  fun_induction flushUntilDone flushes generalizing flushCalls with
  | case1 => exact ⟨[.flush none], .cons rfl (.nil _), hflushed⟩
  | case2 flushes => exact ⟨[.flush none], .cons rfl (.nil _), hflushed⟩
  | case3 f flushes hf fault count rest hflush ih =>
    obtain ⟨calls, hleads, hsending⟩ := ih (flushCalls + 1)
    rw [hflush] at hleads hsending
    have hcount : flushCalls + (count + 1) = flushCalls + 1 + count := by omega
    have hlast : (SinkCall.flush (some f)).isLast = false := by simp [SinkCall.isLast, hf]
    refine ⟨.flush (some f) :: calls, .cons rfl ?_, .more rfl hlast rfl hsending⟩
    dsimp only at hleads ⊢
    rw [hcount]
    exact hleads
  | case4 f flushes hf =>
    have hlast : (SinkCall.flush (some f)).isLast = true := by simpa [SinkCall.isLast] using hf
    exact ⟨[.flush (some f)], .cons rfl (.nil _), .last rfl hlast⟩

/-- A frame is offered until all of it is taken, or a write fails or takes nothing. -/
theorem exists_writes (sink : Sink) (bytes : Bytes) :
    ∃ calls, sink.Leads calls (sink.transmit bytes).2 ∧
      ∀ more result, Closing (sink.transmit bytes).1 more result →
        Sending bytes (calls ++ more) result := by
  obtain ⟨writes, flushes, written, flushCalls⟩ := sink
  simp only [transmit]
  -- Each write leaves a sink that has taken more, and goes on with what is left of the frame.
  fun_induction offer writes bytes generalizing written with
  | case1 writes =>
    refine ⟨[], ?_, fun more result hclosing => ?_⟩
    · dsimp only
      rw [List.append_nil]
      exact .nil _
    · cases hclosing with
      | flushed hsending => exact hsending
  | case2 left hne =>
    refine ⟨[.write left (.ok left)], .cons rfl (.nil _), fun more result hclosing => ?_⟩
    have hlast : (SinkCall.write left (.ok left)).isLast = false := by
      simpa [SinkCall.isLast] using hne
    cases hclosing with
    | flushed hsending => exact .more ⟨hne, rfl⟩ hlast (List.append_nil left).symm hsending
  | case3 f writes left hne hf ih =>
    obtain ⟨calls, hleads, hsending⟩ := ih written
    have hlast : (SinkCall.write left (.error f)).isLast = false := by simp [SinkCall.isLast, hf]
    exact ⟨.write left (.error f) :: calls, .cons rfl hleads,
      fun more result hclosing => .more ⟨hne, rfl⟩ hlast rfl (hsending more result hclosing)⟩
  | case4 f writes left hne hf =>
    refine ⟨[.write left (.error f)], .cons rfl ?_, fun more result hclosing => ?_⟩
    · dsimp only
      rw [List.append_nil]
      exact .nil _
    · have hlast : (SinkCall.write left (.error f)).isLast = true := by
        simpa [SinkCall.isLast] using hf
      cases hclosing with
      | stopped => exact .last ⟨hne, rfl⟩ hlast
  | case5 writes left hne =>
    refine ⟨[.write left (.ok [])], .cons rfl (.nil _), fun more result hclosing => ?_⟩
    have hstalled : Sending left [.write left (.ok [])] (some .closed) := .last ⟨hne, rfl⟩ rfl
    cases hclosing with
    | stopped => exact hstalled
  | case6 count writes left hne hcount stop accepted rest hoffer ih =>
    obtain ⟨calls, hleads, hsending⟩ := ih (written ++ left.take count)
    rw [hoffer] at hleads hsending
    have hlast : (SinkCall.write left (.ok (left.take count))).isLast = false := by
      simpa [SinkCall.isLast, List.take_eq_nil_iff] using ⟨hcount, hne⟩
    refine ⟨.write left (.ok (left.take count)) :: calls, .cons rfl ?_, fun more result hclosing =>
      .more ⟨hne, rfl⟩ hlast (List.take_append_drop count left).symm
        (hsending more result hclosing)⟩
    dsimp only at hleads ⊢
    rw [← List.append_assoc]
    exact hleads

end Sink

/-! ### What a message comes to -/

/-- What is to be expected of the calls that a frame takes, and of what the message comes to. -/
structure HandsOver (frame : Bytes) (calls : List SinkCall) (result : Option FrameError) :
    Prop where
  /-- a write offers all that was not taken before, which is not nothing -/
  offers : ∀ before offered outcome after, calls = before ++ .write offered outcome :: after →
    offered ≠ [] ∧ before.flatMap SinkCall.taken ++ offered = frame
  /-- nothing is flushed before the whole frame is out -/
  flushes : ∀ before fault after, calls = before ++ .flush fault :: after →
    before.flatMap SinkCall.taken = frame
  /-- a call is followed by another one when it was interrupted or took some bytes, and only then -/
  ends : ∀ before call after, calls = before ++ call :: after →
    (after = [] ↔ call.isLast = true)
  /-- what is taken is a beginning of the frame -/
  taken : calls.flatMap SinkCall.taken <+: frame
  /-- all goes well if the whole frame is taken and a flush goes well -/
  succeeds : result = none ↔ calls.flatMap SinkCall.taken = frame ∧ .flush none ∈ calls
  /-- a stream has gone away if a write took nothing while bytes were left -/
  closes : result = some .closed ↔
    ∃ left, left ≠ [] ∧ calls.flatMap SinkCall.taken ++ left = frame ∧
      .write left (.ok []) ∈ calls
  /-- a fault is told if a write or a flush met it and was not only interrupted -/
  fails : ∀ f, result = some (.fault f) ↔ f.isInterruption = false ∧
    ((∃ offered, .write offered (.error f) ∈ calls) ∨ .flush (some f) ∈ calls)
  others : result = none ∨ result = some .closed ∨ ∃ f, result = some (.fault f)

theorem SinkCall.taken_of_isLast {call : SinkCall} (h : call.isLast = true) : call.taken = [] := by
  rcases call with ⟨offered, f | bytes⟩ | fault
  · rfl
  · exact List.isEmpty_iff.mp h
  · rfl

theorem Sending.handsOver {frame : Bytes} {calls : List SinkCall} {result : Option FrameError}
    (h : Sending frame calls result) : HandsOver frame calls result := by
  obtain ⟨before, last, rfl, hbefore, hlast, rfl⟩ := h.exists_last
  have hend : before ++ [last] = before ++ last :: [] := rfl
  obtain ⟨left, hframe, hdue⟩ := h.moment hend
  have hself : last ∈ before ++ [last] := List.mem_append_right before List.mem_cons_self
  -- All that a message comes to is told by its last call, the only one that can end it.
  have honly {call : SinkCall} (hmem : call ∈ before ++ [last]) (hends : call.isLast = true) :
      call = last := by
    rcases List.mem_append.mp hmem with hearlier | hself
    · exact absurd hends (by simp [hbefore call hearlier])
    · exact List.mem_singleton.mp hself
  have htaken : (before ++ [last]).flatMap SinkCall.taken = before.flatMap SinkCall.taken := by
    rw [List.flatMap_append, List.flatMap_singleton, SinkCall.taken_of_isLast hlast,
      List.append_nil]
  constructor
  case offers =>
    intro before offered outcome after hsplit
    obtain ⟨_, hframe, hne, rfl⟩ := h.moment hsplit
    exact ⟨hne, hframe.symm⟩
  case flushes =>
    intro before fault after hsplit
    obtain ⟨_, hframe, rfl⟩ := h.moment hsplit
    rw [hframe, List.append_nil]
  case ends =>
    intro earlier call after hsplit
    rcases List.eq_nil_or_concat after with rfl | ⟨between, final, rfl⟩
    · obtain ⟨-, hcall⟩ := List.append_inj' hsplit rfl
      obtain rfl := List.singleton_inj.mp hcall
      exact ⟨fun _ => hlast, fun _ => rfl⟩
    · -- A call with others behind it is none that ends the message.
      rw [List.concat_eq_append, ← List.cons_append, ← List.append_assoc] at hsplit
      obtain ⟨rfl, -⟩ := List.append_inj' hsplit rfl
      have hgoes := hbefore call (List.mem_append_right earlier List.mem_cons_self)
      simp [hgoes]
  case taken =>
    rw [htaken, hframe]
    exact List.prefix_append _ _
  case succeeds =>
    rw [htaken]
    constructor
    · intro hnone
      rcases last with ⟨offered, f | bytes⟩ | _ | f
      · cases hnone
      · cases hnone
      · obtain rfl : left = [] := hdue
        exact ⟨by rw [hframe, List.append_nil], hself⟩
      · cases hnone
    · rintro ⟨-, hmem⟩
      rw [← honly hmem rfl]
      rfl
  case closes =>
    rw [htaken]
    constructor
    · intro hclosed
      rcases last with ⟨offered, f | bytes⟩ | _ | f
      · cases hclosed
      · obtain rfl := List.isEmpty_iff.mp hlast
        obtain ⟨hne, rfl⟩ := hdue
        exact ⟨offered, hne, hframe.symm, hself⟩
      · cases hclosed
      · cases hclosed
    · rintro ⟨_, -, -, hmem⟩
      rw [← honly hmem rfl]
      rfl
  case fails =>
    intro f
    constructor
    · intro hfault
      rcases last with ⟨offered, g | bytes⟩ | _ | g
      · cases hfault
        exact ⟨by simpa [SinkCall.isLast] using hlast, .inl ⟨offered, hself⟩⟩
      · cases hfault
      · cases hfault
      · cases hfault
        exact ⟨by simpa [SinkCall.isLast] using hlast, .inr hself⟩
    · rintro ⟨hf, ⟨offered, hmem⟩ | hmem⟩
      · rw [← honly hmem (by simp [SinkCall.isLast, hf])]
        rfl
      · rw [← honly hmem (by simp [SinkCall.isLast, hf])]
        rfl
  case others =>
    rcases last with ⟨offered, f | bytes⟩ | _ | f
    · exact .inr (.inr ⟨f, rfl⟩)
    · exact .inr (.inl rfl)
    · exact .inl rfl
    · exact .inr (.inr ⟨f, rfl⟩)

namespace FrameWriter

variable {writer : FrameWriter} {payload wire : Bytes}

/-- A message that makes a frame takes a row of calls. -/
theorem exists_sending (henc : writer.encode payload = .ok wire) :
    ∃ calls, writer.sink.Leads calls (writer.send payload).2.sink ∧
      Sending wire calls (writer.send payload).1 := by
  obtain ⟨writes, hwrites, hclosing⟩ := writer.sink.exists_writes wire
  rw [send, henc]
  dsimp only
  generalize writer.sink.transmit wire = transmitted at hwrites hclosing ⊢
  rcases transmitted with ⟨_ | _ | f, sink⟩
  · obtain ⟨flushes, hflushes, hsending⟩ := sink.exists_flushes
    exact ⟨writes ++ flushes, hwrites.trans hflushes, hclosing _ _ (.flushed hsending)⟩
  · exact ⟨writes ++ [], hwrites.trans (.nil _), hclosing _ _ (.stopped .stalled)⟩
  · exact ⟨writes ++ [], hwrites.trans (.nil _), hclosing _ _ (.stopped (.fault f))⟩

/-- The writer behind some messages, also behind some that were refused or failed. -/
def after (writer : FrameWriter) (payloads : List Bytes) : FrameWriter :=
  payloads.foldl (fun writer payload => (writer.send payload).2) writer

theorem limit_send (writer : FrameWriter) (payload : Bytes) :
    (writer.send payload).2.limit = writer.limit := by
  rw [send]
  split
  · rfl
  · split <;> rfl

theorem limit_after (writer : FrameWriter) (payloads : List Bytes) :
    (writer.after payloads).limit = writer.limit := by
  induction payloads generalizing writer with
  | nil => rfl
  | cons payload payloads ih => exact (ih (writer.send payload).2).trans (limit_send writer payload)

/-- What is to be expected of the calls for a payload, and of what the message comes to. -/
structure Sends (limit : Nat) (payload : Bytes) (calls : List SinkCall)
    (result : Option FrameError) : Prop where
  /-- a payload that is longer than the limit, or that a terminator cuts in two, is refused without
  a call -/
  refused : limit < payload.length ∨ Frame.terminator ∈ payload.dropLast →
    calls = [] ∧ ∃ e, result = some e ∧
      (limit < payload.length ∧ e = .payloadTooLarge payload.length limit ∨
        payload.length ≤ limit ∧
          ∃ offset, Frame.CutsAt payload offset ∧ e = .terminatorInPayload offset)
  /-- of any other the frame is handed over, with one terminator at its end -/
  sent : payload.length ≤ limit → Frame.terminator ∉ payload.dropLast →
    HandsOver (Frame.terminated payload) calls result

/-- Whatever a stream does with what it is offered, and whatever became of the messages before, each
message takes the calls that are to be expected, from the first byte of its frame on, and what they
take is added to what the stream has accepted. -/
theorem takesCalls (limit : Nat) (writes : List Acceptance) (flushes : List (Option Fault))
    (payloads : List Bytes) (payload : Bytes) :
    let writer := after ⟨limit, .ofScript writes flushes⟩ payloads
    ∃ calls, writer.sink.Leads calls (writer.send payload).2.sink ∧
      (writer.send payload).2.sink.written =
        writer.sink.written ++ calls.flatMap SinkCall.taken ∧
      Sends limit payload calls (writer.send payload).1 := by
  intro writer
  have hlimit : writer.limit = limit := limit_after _ payloads
  rcases hencode : writer.encode payload with e | wire
  · have hrefused := encode_eq_error_iff.mp hencode
    have hcause := exists_encode_eq_error_iff.mp ⟨e, hencode⟩
    rw [hlimit] at hrefused hcause
    rw [send_of_encode_eq_error hencode]
    refine ⟨[], .nil _, (List.append_nil _).symm, fun _ => ⟨rfl, e, rfl, hrefused⟩, ?_⟩
    intro hfits hplain
    rcases hcause with hlong | hcut
    · exact absurd hlong (Nat.not_lt.mpr hfits)
    · exact absurd hcut hplain
  · obtain ⟨calls, hleads, hsending⟩ := exists_sending hencode
    refine ⟨calls, hleads, hleads.written_eq, fun hcause => ?_, fun hfits hplain => ?_⟩
    · rw [← hlimit] at hcause
      obtain ⟨e, herror⟩ := exists_encode_eq_error_iff.mpr hcause
      cases hencode.symm.trans herror
    · rw [← hlimit] at hfits
      obtain rfl := Except.ok.inj (hencode.symm.trans (encode_eq_terminated hfits hplain))
      exact hsending.handsOver

-- A message of which only the first byte was taken, and the next one from its first byte on.
example :
    ((after ⟨9, .ofScript [.upTo 1, .fault (.ofKind .brokenPipe)] []⟩
        [Utf8.octets "one"]).send (Utf8.octets "two#")).2.sink.written =
      Utf8.octets "otwo#" := by
  decide +kernel

end FrameWriter

end MotionLink
