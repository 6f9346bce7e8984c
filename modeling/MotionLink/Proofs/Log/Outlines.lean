import MotionLink.Proofs.Log.Streams

/-!
# What is seen of a follower

The listener is told of states and chunks, the far side is sent the hello, and the numbers of a run
count attempts, sessions and bytes. The reads and flushes behind all that are not seen. So only two
things are seen of a stream: what it takes of the hello, and the chunks that it brings. Where
streams agree in these, nobody can tell the followers apart that are handed them.

## Main definitions

* `Run.outline` — a run without the reads and flushes in its journal
* `Duplex.LooksLike`, `Attempt.LooksLike` — streams and attempts of which the same is seen
* `Activity.bytesPerSession` — the bytes that a listener was told of in each session
* `Follower.SeenAlike` — the same is seen of two followers
* `Attempt.handed` — the streams that a follower gets to use unless its listener asks for a stop

## Main results

* `Run.outline_session` — a session is seen as what is sent, and then the chunks
* `Run.outline_attempt` — of attempts that look alike the same is seen
* `Follower.seenAlike_of_outline_eq` — an outline tells all that is seen
* `Follower.bytesPerSession_follow` — a listener that never asks for a stop is told of all that the
  streams deliver
-/

namespace MotionLink

open Activity

/-! ### Streams -/

theorem Arrival.chunks_of_isLast {arrival : Arrival} (h : arrival.isLast = true) :
    arrival.chunks = [] := by
  cases arrival with
  | bytes b => exact if_pos h
  | fault f => rfl

namespace Source

/-- The chunks that a source brings before it ends or fails. -/
def chunks : Source → List Bytes
  | [] => []
  | arrival :: source => if arrival.isLast then [] else arrival.chunks ++ chunks source

/-- The chunks are all that is delivered. -/
theorem flatten_chunks (source : Source) : source.chunks.flatten = source.delivered := by
  induction source with
  | nil => rfl
  | cons arrival source ih =>
    rw [chunks]
    split
    case isTrue hlast =>
      rw [delivered_of_isLast hlast]
      rfl
    case isFalse hlast =>
      rw [delivered_of_not_isLast (Bool.eq_false_iff.mpr hlast), List.flatten_append,
        arrival.flatten_chunks, ih]

theorem ne_nil_of_mem_chunks {source : Source} {chunk : Bytes} (h : chunk ∈ source.chunks) :
    chunk ≠ [] := by
  induction source with
  | nil => cases h
  | cons arrival source ih =>
    rw [chunks] at h
    split at h
    · cases h
    · rcases List.mem_append.mp h with hfirst | hrest
      · exact (Arrival.eq_of_mem_chunks hfirst).1
      · exact ih hrest

/-- No chunk is empty, so a source that delivers nothing brings none. -/
theorem chunks_eq_nil_iff {source : Source} : source.chunks = [] ↔ source.delivered = [] := by
  rw [← flatten_chunks, List.flatten_eq_nil_iff]
  constructor
  · intro hnone chunk hchunk
    rw [hnone] at hchunk
    cases hchunk
  · intro hempty
    exact List.eq_nil_iff_forall_not_mem.mpr fun chunk hchunk =>
      ne_nil_of_mem_chunks hchunk (hempty chunk hchunk)

end Source

namespace Duplex

/-- The bytes that a stream takes of the hello, if there is one. -/
def taken (hello : Option Bytes) (stream : Duplex) : Option Bytes :=
  hello.map fun hello => (stream.sink.transmit hello).2.written

/-- The chunks that a session brings: none when the stream did not take the hello. -/
def chunks (settings : FollowSettings) (stream : Duplex) : List Bytes :=
  if stream.takesHello settings.hello then (stream.reads.inPieces settings.chunkSize).chunks else []

theorem flatten_chunks (settings : FollowSettings) (stream : Duplex) :
    (stream.chunks settings).flatten = stream.delivered settings.hello := by
  rw [chunks, delivered]
  split
  · rw [Source.flatten_chunks, Source.delivered_inPieces]
  · rfl

/-- Two streams of which the same is seen. -/
structure LooksLike (settings : FollowSettings) (stream other : Duplex) : Prop where
  taken : stream.taken settings.hello = other.taken settings.hello
  chunks : stream.chunks settings = other.chunks settings

end Duplex

/-- Two attempts to connect of which the same is seen. -/
inductive Attempt.LooksLike (settings : FollowSettings) : Attempt → Attempt → Prop where
  | refused (stops : Bool) : LooksLike settings ⟨none, stops⟩ ⟨none, stops⟩
  /-- a stream that comes too late is left untouched -/
  | late (stream other : Duplex) : LooksLike settings ⟨some stream, true⟩ ⟨some other, true⟩
  | inTime {stream other : Duplex} (h : stream.LooksLike settings other) :
      LooksLike settings ⟨some stream, false⟩ ⟨some other, false⟩

/-! ### Runs -/

/-- Something that shows outside the follower: to the listener, to the far side or in numbers. -/
def Activity.isSeen : Activity → Bool
  | flushed _ | read _ => false
  | connect _ | state _ | sent _ | chunk _ => true

namespace Run

variable {σ : Type} {ear : Listener σ} {settings : FollowSettings} {run other : Run σ}

/-- A run without the reads and flushes in its journal. -/
def outline (run : Run σ) : Run σ := { run with journal := run.journal.filter isSeen }

theorem stopped_eq_of_outline_eq (h : run.outline = other.outline) :
    run.stopped = other.stopped := by
  change run.outline.stopped = other.outline.stopped
  rw [h]

theorem outline_enter (run : Run σ) (ear : Listener σ) (state : LinkState) :
    (run.enter ear state).outline = run.outline.enter ear state := by
  rw [enter, enter]
  change _ = if run.state = state then run.outline else _
  split
  · rfl
  · rfl

theorem outline_begun (run : Run σ) (ear : Listener σ) (a : Attempt) :
    (run.begun ear a).outline = run.outline.begun ear a := by
  rw [begun, begun, ← outline_enter]
  rfl

/-- Tell the listener of chunks until a stop is asked for. -/
def tellAll (ear : Listener σ) : List Bytes → Run σ → Run σ
  | [], run => run
  | bytes :: more, run => if run.stopped then run else tellAll ear more (run.deliver ear bytes)

theorem tellAll_of_stopped (h : run.stopped = true) (ear : Listener σ) (told : List Bytes) :
    tellAll ear told run = run := by
  cases told with
  | nil => rfl
  | cons bytes more => exact if_pos h

theorem tellAll_append (ear : Listener σ) (told more : List Bytes) (run : Run σ) :
    tellAll ear (told ++ more) run = tellAll ear more (tellAll ear told run) := by
  induction told generalizing run with
  | nil => rfl
  | cons bytes told ih =>
    rw [List.cons_append, tellAll, tellAll]
    split
    case isTrue hstopped => rw [tellAll_of_stopped hstopped]
    case isFalse => exact ih (run.deliver ear bytes)

theorem outline_take (h : run.stopped = false) (ear : Listener σ) (arrival : Arrival) :
    (run.take ear arrival).outline = tellAll ear arrival.chunks run.outline := by
  rcases arrival with (_ | ⟨b, bytes⟩) | f
  · rfl
  · change _ = if run.stopped then run.outline else run.outline.deliver ear (b :: bytes)
    rw [h]
    rfl
  · rfl

/-- Of a stream that is read the chunks are seen. -/
theorem outline_readAll (ear : Listener σ) (source : Source) (run : Run σ) :
    (readAll ear source run).outline = tellAll ear source.chunks run.outline := by
  induction source generalizing run with
  | nil =>
    rw [readAll_nil]
    split
    · rfl
    · rfl
  | cons arrival source ih =>
    -- An interrupted read brings no chunk, so the outline does not tell of it.
    rw [readAll_cons, Source.chunks]
    split
    case isTrue hstopped =>
      have hstopped : run.outline.stopped = true := hstopped
      rw [tellAll_of_stopped hstopped]
    case isFalse hgoing =>
      have htake := outline_take (Bool.eq_false_iff.mpr hgoing) ear arrival
      split
      case isTrue hlast =>
        rw [htake, Arrival.chunks_of_isLast hlast]
      case isFalse => rw [ih, htake, tellAll_append]

/-- Enter into the journal what a stream takes of the hello. -/
def noteTaken (run : Run σ) : Option Bytes → Run σ
  | none => run
  | some bytes => run.note (.sent bytes)

theorem outline_greet (run : Run σ) (hello : Option Bytes) (stream : Duplex) :
    (run.greet hello stream).2.outline = run.outline.noteTaken (stream.taken hello) := by
  cases hello with
  | none => rfl
  | some hello =>
    rw [greet, Duplex.taken, Option.map_some]
    rcases stream.sink.transmit hello with ⟨_ | stop, sink⟩
    · rfl
    · rfl

/-- Of a session is seen what is sent, and then the chunks. -/
theorem outline_session (run : Run σ) (ear : Listener σ) (settings : FollowSettings)
    (stream : Duplex) :
    (run.session ear settings stream).outline =
      tellAll ear (stream.chunks settings)
        (run.outline.noteTaken (stream.taken settings.hello)) := by
  rw [session, Duplex.chunks, ← outline_greet]
  dsimp only
  rw [fst_greet]
  split
  · exact outline_readAll ear _ _
  · rfl

theorem outline_withStream (h : run.outline = other.outline) (ear : Listener σ)
    {stream stream' : Duplex} (hlooks : stream.LooksLike settings stream') :
    (run.withStream ear settings stream).outline =
      (other.withStream ear settings stream').outline := by
  have hcounted : run.counted.outline = other.counted.outline := congrArg counted h
  rw [withStream_eq, withStream_eq, stopped_eq_of_outline_eq h]
  split
  · exact hcounted
  · rw [outline_enter, outline_enter, outline_session, outline_session, outline_enter,
      outline_enter, hcounted, hlooks.taken, hlooks.chunks]

/-- Of attempts that look alike the same is seen. -/
theorem outline_attempt (h : run.outline = other.outline) (ear : Listener σ) {a a' : Attempt}
    (hlooks : a.LooksLike settings a') :
    (run.attempt ear settings a).outline = (other.attempt ear settings a').outline := by
  have hbegun : (run.begun ear a).outline = (other.begun ear a').outline := by
    rw [outline_begun, outline_begun, h]
    cases hlooks <;> rfl
  rw [attempt_eq, attempt_eq]
  cases hlooks with
  | refused stops =>
    dsimp only
    rw [outline_enter, outline_enter, hbegun]
  | late stream stream' =>
    -- Neither stream is used, so they need not have anything in common.
    have hstopped (run : Run σ) (stream : Duplex) :
        (run.begun ear ⟨some stream, true⟩).stopped = true := Bool.or_true _
    dsimp only
    rw [withStream_eq, withStream_eq, if_pos (hstopped run stream), if_pos (hstopped other stream')]
    exact congrArg counted hbegun
  | inTime hstream => exact outline_withStream hbegun ear hstream

end Run

/-! ### Followers -/

namespace Activity

/-- One entry of a journal, given the bytes of each session before it, latest session first. -/
def heardIn (sessions : List Bytes) : Activity → List Bytes
  | state .connected => [] :: sessions
  | chunk bytes =>
    match sessions with
    | [] => []
    | session :: rest => (session ++ bytes) :: rest
  | _ => sessions

/-- The bytes that the listener was told of in each session, in order. -/
def bytesPerSession (journal : List Activity) : List Bytes := (journal.foldl heardIn []).reverse

/-- What is not seen makes no difference to an account that leaves it out. -/
theorem foldl_filter_isSeen {α : Type} {f : α → Activity → α}
    (h : ∀ acc a, a.isSeen = false → f acc a = acc) (acc : α) (journal : List Activity) :
    (journal.filter isSeen).foldl f acc = journal.foldl f acc := by
  rw [List.foldl_filter]
  congr 1
  funext acc a
  split
  case isTrue => rfl
  case isFalse hseen => exact (h acc a (Bool.eq_false_iff.mpr hseen)).symm

theorem sentOnto_of_not_isSeen (streams : List Bytes) (a : Activity) (h : a.isSeen = false) :
    sentOnto streams a = streams := by
  cases a with
  | flushed | read => rfl
  | connect | state | sent | chunk => cases h

theorem heardIn_of_not_isSeen (sessions : List Bytes) (a : Activity) (h : a.isSeen = false) :
    heardIn sessions a = sessions := by
  cases a with
  | flushed | read => rfl
  | connect | state | sent | chunk => cases h

theorem sentPerStream_filter_isSeen (journal : List Activity) :
    sentPerStream (journal.filter isSeen) = sentPerStream journal :=
  congrArg List.reverse (foldl_filter_isSeen sentOnto_of_not_isSeen [] journal)

theorem bytesPerSession_filter_isSeen (journal : List Activity) :
    bytesPerSession (journal.filter isSeen) = bytesPerSession journal :=
  congrArg List.reverse (foldl_filter_isSeen heardIn_of_not_isSeen [] journal)

theorem reports_filter_isSeen (journal : List Activity) :
    reports (journal.filter isSeen) = reports journal := by
  rw [reports, reports, List.filterMap_filter]
  congr 1
  funext a
  cases a <;> rfl

end Activity

namespace Follower

variable {σ : Type} {follower other : Follower σ}

/-- The same is seen of two followers behind some runs. -/
structure SeenAlike (runs : Nat) (follower other : Follower σ) : Prop where
  summaries : (followTimes runs follower).1 = (followTimes runs other).1
  reports : reports (followTimes runs follower).2.journal =
    reports (followTimes runs other).2.journal
  sessions : bytesPerSession (followTimes runs follower).2.journal =
    bytesPerSession (followTimes runs other).2.journal
  sent : sentPerStream (followTimes runs follower).2.journal =
    sentPerStream (followTimes runs other).2.journal

theorem SeenAlike.of_journal {runs : Nat}
    (hsummaries : (followTimes runs follower).1 = (followTimes runs other).1)
    (hjournal : (followTimes runs follower).2.journal.filter isSeen =
      (followTimes runs other).2.journal.filter isSeen) : SeenAlike runs follower other where
  summaries := hsummaries
  reports := by rw [← reports_filter_isSeen, hjournal, reports_filter_isSeen]
  sessions := by rw [← bytesPerSession_filter_isSeen, hjournal, bytesPerSession_filter_isSeen]
  sent := by rw [← sentPerStream_filter_isSeen, hjournal, sentPerStream_filter_isSeen]

theorem filter_isSeen_journal (h : follower.run.outline = other.run.outline) :
    follower.journal.filter isSeen = other.journal.filter isSeen := by
  rw [journal, journal, List.filter_reverse, List.filter_reverse]
  exact congrArg (List.reverse ∘ Run.journal) h

/-- All that is seen can be told from the outline of the first run, since later ones do nothing. -/
theorem seenAlike_of_outline_eq (runs : Nat) (hidle : follower.run.state = .disconnected)
    (hidle' : other.run.state = .disconnected) (hstart : follower.run.outline = other.run.outline)
    (h : follower.follow.run.outline = other.follow.run.outline) :
    SeenAlike runs follower other := by
  cases runs with
  | zero => exact .of_journal rfl (filter_isSeen_journal hstart)
  | succ runs =>
    obtain ⟨-, -, -, -, hstopped, hstate⟩ := exists_follow follower hidle
    obtain ⟨-, -, -, -, hstopped', hstate'⟩ := exists_follow other hidle'
    obtain ⟨hnumbers, hlater, -⟩ := followTimes_of_stopped _ hstopped hstate runs
    obtain ⟨hnumbers', hlater', -⟩ := followTimes_of_stopped _ hstopped' hstate' runs
    have hsummary : follower.follow.run.outline.summary = other.follow.run.outline.summary :=
      congrArg Run.summary h
    refine .of_journal ?_ ?_
    · change _ :: (followTimes runs follower.follow).1 = _ :: (followTimes runs other.follow).1
      rw [hnumbers, hnumbers']
      exact congrArg (· :: List.replicate runs .zero) hsummary
    · change (followTimes runs follower.follow).2.journal.filter isSeen =
        (followTimes runs other.follow).2.journal.filter isSeen
      rw [hlater, hlater']
      exact filter_isSeen_journal h

end Follower

/-! ### Listeners that never ask for a stop -/

/-- The streams that a follower gets to use unless its listener asks for a stop. -/
def Attempt.handed (attempts : List Attempt) : List Duplex :=
  (attempts.takeWhile (!·.stops)).filterMap Attempt.stream

section Handed

variable {a : Attempt} {rest : List Attempt}

theorem Attempt.handed_of_stops (h : a.stops = true) : handed (a :: rest) = [] := by
  simp [handed, h]

theorem Attempt.handed_of_not_stops (h : a.stops = false) :
    handed (a :: rest) = a.stream.toList ++ handed rest := by
  cases hstream : a.stream <;> simp [handed, h, hstream]

end Handed

/-- A listener that never asks for a stop. -/
def Listener.NeverAsks {σ : Type} (ear : Listener σ) : Prop :=
  ∀ (listener : σ) (tiding : Tiding), (ear.tell listener tiding).2 = false

namespace Run

variable {σ : Type} {ear : Listener σ} {settings : FollowSettings} {run : Run σ}

/-- The bytes that the listener was told of in each session, latest first. -/
def heard (run : Run σ) : List Bytes := run.journal.reverse.foldl heardIn []

theorem heard_outline (run : Run σ) : run.outline.heard = run.heard := by
  rw [heard, heard, outline, ← List.filter_reverse]
  exact foldl_filter_isSeen heardIn_of_not_isSeen [] run.journal.reverse

theorem heard_note (run : Run σ) (a : Activity) : (run.note a).heard = heardIn run.heard a := by
  rw [heard, heard, note, List.reverse_cons, List.foldl_append]
  rfl

theorem heard_enter (run : Run σ) (ear : Listener σ) {state : LinkState}
    (h : state ≠ .connected) : (run.enter ear state).heard = run.heard := by
  rw [enter]
  split
  · rfl
  · refine (heard_note _ (.state state)).trans ?_
    cases state with
    | disconnected | connecting => rfl
    | connected => exact absurd rfl h

theorem heard_enter_connected (h : run.state ≠ .connected) (ear : Listener σ) :
    (run.enter ear .connected).heard = [] :: run.heard := by
  rw [enter, if_neg h]
  exact heard_note _ (.state .connected)

theorem heard_begun (run : Run σ) (ear : Listener σ) (a : Attempt) :
    (run.begun ear a).heard = run.heard :=
  (heard_note _ (.connect a.stream.isSome)).trans (heard_enter run ear (by decide))

theorem heard_noteTaken (run : Run σ) (taken : Option Bytes) :
    (run.noteTaken taken).heard = run.heard := by
  cases taken with
  | none => rfl
  | some bytes => exact heard_note run (.sent bytes)

/-- A stream that comes too late is not told of. -/
theorem attempt_of_stops (run : Run σ) (ear : Listener σ) (settings : FollowSettings) {a : Attempt}
    (hstops : a.stops = true) :
    (run.attempt ear settings a).stopped = true ∧
      (run.attempt ear settings a).heard = run.heard := by
  have hstopped : (run.begun ear a).stopped = true := by
    change ((run.enter ear .connecting).stopped || a.stops) = true
    rw [hstops, Bool.or_true]
  rw [attempt_eq, ← heard_begun run ear a]
  cases a.stream with
  | none => exact ⟨stopped_enter hstopped ear _, heard_enter _ ear (by decide)⟩
  | some stream =>
    dsimp only
    rw [withStream_eq, if_pos hstopped]
    exact ⟨hstopped, rfl⟩

end Run

namespace Listener.NeverAsks

variable {σ : Type} {ear : Listener σ} {settings : FollowSettings} {run : Run σ}

theorem stopped_enter (h : ear.NeverAsks) (run : Run σ) (state : LinkState) :
    (run.enter ear state).stopped = run.stopped := by
  have hasked : (ear.onState run.listener state).2 = false := h run.listener (.state state)
  rw [Run.enter]
  split
  · rfl
  · change (run.stopped || (ear.onState run.listener state).2) = run.stopped
    rw [hasked, Bool.or_false]

theorem stopped_deliver (h : ear.NeverAsks) (run : Run σ) (bytes : Bytes) :
    (run.deliver ear bytes).stopped = run.stopped := by
  have hasked : (ear.onChunk run.listener bytes).2 = false := h run.listener (.chunk bytes)
  change (run.stopped || (ear.onChunk run.listener bytes).2) = run.stopped
  rw [hasked, Bool.or_false]

/-- It is told of all chunks. -/
theorem tellAll (h : ear.NeverAsks) (told : List Bytes) {session : Bytes} {rest : List Bytes}
    (hgoing : run.stopped = false) (hheard : run.heard = session :: rest) :
    (Run.tellAll ear told run).stopped = false ∧
      (Run.tellAll ear told run).heard = (session ++ told.flatten) :: rest := by
  induction told generalizing run session with
  | nil =>
    rw [List.flatten_nil, List.append_nil]
    exact ⟨hgoing, hheard⟩
  | cons bytes told ih =>
    have hnext : (run.deliver ear bytes).heard = (session ++ bytes) :: rest := by
      refine (Run.heard_note _ (.chunk bytes)).trans ?_
      change heardIn run.heard (.chunk bytes) = _
      rw [hheard]
      rfl
    rw [Run.tellAll, hgoing, if_neg Bool.false_ne_true, List.flatten_cons, ← List.append_assoc]
    exact ih ((h.stopped_deliver run bytes).trans hgoing) hnext

/-- A session is told of with all that the stream delivers. -/
theorem withStream (h : ear.NeverAsks) (hgoing : run.stopped = false)
    (hconnecting : run.state = .connecting) (settings : FollowSettings) (stream : Duplex) :
    (run.withStream ear settings stream).stopped = false ∧
      (run.withStream ear settings stream).heard =
        stream.delivered settings.hello :: run.heard := by
  have hnew : run.counted.state ≠ .connected := by
    change run.state ≠ .connected
    rw [hconnecting]
    exact nofun
  -- The session is followed in its outline, where it is the hello and then the chunks.
  let connected := run.counted.enter ear .connected
  have hconnected : connected.heard = [] :: run.heard := Run.heard_enter_connected hnew ear
  have hopen : connected.stopped = false := (h.stopped_enter run.counted .connected).trans hgoing
  have hgreeted : (connected.outline.noteTaken (stream.taken settings.hello)).heard =
      [] :: run.heard := by
    rw [Run.heard_noteTaken, Run.heard_outline, hconnected]
  have hstill : (connected.outline.noteTaken (stream.taken settings.hello)).stopped = false := by
    cases stream.taken settings.hello <;> exact hopen
  obtain ⟨hend, hall⟩ := h.tellAll (stream.chunks settings) hstill hgreeted
  rw [← Run.outline_session, Run.heard_outline, Duplex.flatten_chunks] at hall
  rw [← Run.outline_session] at hend
  rw [Run.withStream_eq, hgoing, if_neg Bool.false_ne_true]
  refine ⟨(h.stopped_enter _ _).trans hend, ?_⟩
  rw [Run.heard_enter _ ear (by decide)]
  exact hall

/-- It is told of the session that an attempt to connect gives. -/
theorem attempt (h : ear.NeverAsks) (hgoing : run.stopped = false) (settings : FollowSettings)
    {a : Attempt} (hstops : a.stops = false) :
    (run.attempt ear settings a).stopped = false ∧
      (run.attempt ear settings a).heard =
        (a.stream.map (·.delivered settings.hello)).toList ++ run.heard := by
  have hstill : (run.begun ear a).stopped = false := by
    change ((run.enter ear .connecting).stopped || a.stops) = false
    rw [h.stopped_enter, hgoing, hstops, Bool.or_false]
  have hconnecting : (run.begun ear a).state = .connecting := Run.state_enter run ear .connecting
  rw [Run.attempt_eq, ← Run.heard_begun run ear a]
  cases a.stream with
  | none => exact ⟨(h.stopped_enter _ _).trans hstill, Run.heard_enter _ ear (by decide)⟩
  | some stream => exact h.withStream hstill hconnecting settings stream

/-- It is told of all streams that are handed to the follower in time. -/
theorem attemptAll (h : ear.NeverAsks) (settings : FollowSettings) (attempts : List Attempt)
    (hgoing : run.stopped = false) :
    (Run.attemptAll ear settings attempts run).1.heard =
      ((Attempt.handed attempts).map (·.delivered settings.hello)).reverse ++ run.heard := by
  -- By induction on the attempts, since only the operator's request ends them.
  induction attempts generalizing run with
  | nil =>
    rw [Run.attemptAll, hgoing, if_neg Bool.false_ne_true]
    exact (Run.attempt_of_stops run ear settings (a := .last) rfl).2
  | cons a rest ih =>
    rw [Run.attemptAll, hgoing, if_neg Bool.false_ne_true]
    cases hstops : a.stops with
    | true =>
      obtain ⟨hstopped, hheard⟩ := Run.attempt_of_stops run ear settings hstops
      rw [Run.attemptAll_of_stopped _ hstopped, hheard, Attempt.handed_of_stops hstops]
      rfl
    | false =>
      obtain ⟨hstill, hheard⟩ := h.attempt hgoing settings hstops
      rw [ih hstill, hheard, Attempt.handed_of_not_stops hstops]
      cases a.stream with
      | none => rfl
      | some stream => simp

end Listener.NeverAsks

theorem Follower.bytesPerSession_journal {σ : Type} (follower : Follower σ) :
    bytesPerSession follower.journal = follower.run.heard.reverse := rfl

/-- A listener that never asks for a stop is told, session by session, of all that the streams
deliver. -/
theorem Follower.bytesPerSession_follow {σ : Type} {ear : Listener σ} (h : ear.NeverAsks)
    (settings : FollowSettings) (attempts : List Attempt) (listener : σ) :
    bytesPerSession (fresh settings ear attempts listener false).follow.journal =
      (Attempt.handed attempts).map (·.delivered settings.hello) := by
  have hfollow : (fresh settings ear attempts listener false).follow.run.heard =
      (Run.attemptAll ear settings attempts (.start listener false)).1.heard :=
    Run.heard_enter _ ear (by decide)
  rw [bytesPerSession_journal, hfollow, h.attemptAll settings attempts rfl, List.reverse_append,
    List.reverse_reverse]
  rfl

end MotionLink
