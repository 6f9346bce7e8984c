import MotionLink.Proofs.Log.Sessions
import MotionLink.Proofs.Log.Stopping
import MotionLink.Proofs.Wire.Conservation
import MotionLink.Proofs.Wire.Writing

/-!
# What is done with a stream

The hello is said on a stream and then it is read, and every chunk is handed to the listener before
more is read. This goes on to the end of the stream, a fault or a request to stop, and nothing is
left out before that.

## Main definitions

* `Arrival.handled` — what is done about an arrival
* `Scene.Reads` — what is read off a source from a scene on
* `Scene.Handles` — what is to be expected of all that is done with a stream
* `Run.Goes` — a run goes on from a scene with some entries

## Main results

* `Scene.Reads.content_eq` — nothing is left out before the end, a fault or a request to stop
* `Scene.handles_of_greets` — a stream that is greeted and then read is handled as expected
* `Run.IsAt.exists_readAll`, `Run.IsAt.exists_greet` — this is what a run does
* `Run.IsAt.exists_withStream` — so every stream is handled as expected
-/

namespace MotionLink

/-! ### Entries about a stream -/

namespace Activity

/-- The bytes that a stream accepted. -/
def sentBytes : Activity → Bytes
  | sent bytes => bytes
  | _ => []

/-- What a read brought. -/
def arrival? : Activity → Option Arrival
  | read arrival => some arrival
  | _ => none

/-- What the reads brought, in order. -/
def arrivals (done : List Activity) : List Arrival := done.filterMap arrival?

/-- Something done before a stream is read. -/
def isGreeting : Activity → Bool
  | state .connected | sent _ | flushed _ => true
  | _ => false

/-- All of the hello is sent, and the stream flushed. -/
def greeting : Option Bytes → List Activity
  | none => []
  | some hello => [.sent hello, .flushed true]

end Activity

namespace Arrival

/-- Nothing is read behind it: the stream has ended or failed. -/
def isLast : Arrival → Bool
  | bytes b => b.isEmpty
  | fault f => !f.isInterruption

/-- The chunks that the listener is told of: all its bytes, if it brings any. -/
def chunks : Arrival → List Bytes
  | bytes b => if b.isEmpty then [] else [b]
  | fault _ => []

/-- What is done about it: it is read, and its bytes are handed to the listener. -/
def handled (arrival : Arrival) : List Activity := .read arrival :: arrival.chunks.map .chunk

end Arrival

open Activity

section Handled

variable {read : List Arrival}

theorem arrivals_append (done more : List Activity) :
    arrivals (done ++ more) = arrivals done ++ arrivals more :=
  List.filterMap_append

theorem Arrival.flatten_chunks (arrival : Arrival) : arrival.chunks.flatten = arrival.content := by
  cases arrival with
  | bytes b =>
    cases b with
    | nil => rfl
    | cons b bytes => exact List.append_nil _
  | fault f => rfl

theorem Arrival.eq_of_mem_chunks {arrival : Arrival} {chunk : Bytes} (h : chunk ∈ arrival.chunks) :
    chunk ≠ [] ∧ arrival = .bytes chunk := by
  cases arrival with
  | bytes b =>
    cases b with
    | nil => cases h
    | cons b bytes =>
      obtain rfl := List.mem_singleton.mp h
      exact ⟨List.cons_ne_nil b bytes, rfl⟩
  | fault f => cases h

theorem arrivals_handled (read : List Arrival) :
    arrivals (read.flatMap Arrival.handled) = read := by
  induction read with
  | nil => rfl
  | cons arrival read ih =>
    have hchunks : arrivals (arrival.chunks.map .chunk) = [] :=
      List.filterMap_eq_nil_iff.mpr (List.forall_mem_map.mpr fun _ _ => rfl)
    rw [List.flatMap_cons, arrivals_append, ih]
    change arrival :: arrivals (arrival.chunks.map .chunk) ++ read = arrival :: read
    rw [hchunks]
    rfl

theorem chunkBytes_handled (read : List Arrival) :
    (read.flatMap Arrival.handled).flatMap chunkBytes = Source.content read := by
  induction read with
  | nil => rfl
  | cons arrival read ih =>
    have hchunks : (arrival.chunks.map Activity.chunk).flatMap chunkBytes = arrival.content := by
      rw [List.flatMap_map, ← arrival.flatten_chunks]
      exact List.flatMap_id'
    rw [List.flatMap_cons, List.flatMap_append, ih, Arrival.handled, List.flatMap_cons, hchunks,
      Source.content_cons]
    rfl

theorem mem_handled {a : Activity} (h : a ∈ read.flatMap Arrival.handled) :
    (∃ arrival, a = .read arrival) ∨
      ∃ bytes, a = .chunk bytes ∧ bytes ≠ [] ∧ .bytes bytes ∈ read := by
  obtain ⟨arrival, harrival, ha⟩ := List.mem_flatMap.mp h
  rcases List.mem_cons.mp ha with rfl | hmem
  · exact .inl ⟨arrival, rfl⟩
  · obtain ⟨chunk, hchunk, rfl⟩ := List.mem_map.mp hmem
    obtain ⟨hne, rfl⟩ := Arrival.eq_of_mem_chunks hchunk
    exact .inr ⟨chunk, rfl, hne, harrival⟩

/-- What stands behind some entries in a row is found in the rest of it, if it is not among
them. -/
theorem exists_append_of_not_mem {done rest before after : List Activity} {a : Activity}
    (ha : a ∉ done) (h : done ++ rest = before ++ a :: after) :
    ∃ between, before = done ++ between ∧ rest = between ++ a :: after := by
  rcases List.append_eq_append_iff.mp h with hbehind | ⟨between, rfl, hsplit⟩
  · exact hbehind
  · -- Otherwise the entry is the first of those behind, or among those before.
    cases between with
    | nil => exact ⟨[], by simp, hsplit.symm⟩
    | cons b between =>
      obtain ⟨rfl, -⟩ := List.cons.inj hsplit
      exact absurd (List.mem_append_right before List.mem_cons_self) ha

/-- An arrival is dealt with before there is another read. -/
theorem Arrival.split_handled {arrival next : Arrival} {rest before after : List Activity}
    (h : arrival.handled ++ rest = before ++ .read next :: after) :
    before = [] ∨
      ∃ between, before = arrival.handled ++ between ∧ rest = between ++ .read next :: after := by
  cases before with
  | nil => exact .inl rfl
  | cons a before =>
    obtain ⟨rfl, hrest⟩ := List.cons.inj h
    have hread : Activity.read next ∉ arrival.chunks.map .chunk := by simp
    obtain ⟨between, rfl, hsplit⟩ := exists_append_of_not_mem hread hrest
    exact .inr ⟨between, rfl, hsplit⟩

end Handled

theorem Arrival.content_of_isLast {arrival : Arrival} (h : arrival.isLast = true) :
    arrival.content = [] := by
  cases arrival with
  | bytes b => exact List.isEmpty_iff.mp h
  | fault f => rfl

theorem Source.delivered_of_isLast {arrival : Arrival} (h : arrival.isLast = true)
    (source : Source) : delivered (arrival :: source) = [] := by
  cases arrival with
  | bytes b =>
    rw [List.isEmpty_iff.mp h]
    rfl
  | fault f =>
    have hf : f.isInterruption = false := by simpa [Arrival.isLast] using h
    simp [delivered, hf]

theorem Source.delivered_of_not_isLast {arrival : Arrival} (h : arrival.isLast = false)
    (source : Source) : delivered (arrival :: source) = arrival.content ++ delivered source := by
  cases arrival with
  | bytes b => exact delivered_bytes (by simpa [Arrival.isLast] using h)
  | fault f => exact delivered_interruption (by simpa [Arrival.isLast] using h)

/-! ### What is read -/

namespace Scene

variable {σ : Type} {ear : Listener σ} {scene : Scene σ} {source : Source} {read : List Arrival}

theorem replay_append (ear : Listener σ) (scene : Scene σ) (done more : List Activity) :
    scene.replay ear (done ++ more) = (scene.replay ear done).replay ear more :=
  List.foldl_append

/-- What is read off a source from a scene on. -/
inductive Reads (ear : Listener σ) : Scene σ → Source → List Arrival → Prop where
  /-- nothing is read once a stop was asked for -/
  | stopped {scene : Scene σ} {source : Source} (h : scene.stopped = true) :
      Reads ear scene source []
  /-- behind all that it brings a stream has ended -/
  | ended {scene : Scene σ} (h : scene.stopped = false) : Reads ear scene [] [.bytes []]
  | last {scene : Scene σ} {source : Source} {arrival : Arrival} (h : scene.stopped = false)
      (hlast : arrival.isLast = true) : Reads ear scene (arrival :: source) [arrival]
  | more {scene : Scene σ} {source : Source} {arrival : Arrival} {read : List Arrival}
      (h : scene.stopped = false) (hlast : arrival.isLast = false)
      (hrest : Reads ear (scene.replay ear arrival.handled) source read) :
      Reads ear scene (arrival :: source) (arrival :: read)

namespace Reads

/-- A stream is read in order, up to its end. -/
theorem prefix_append (h : Reads ear scene source read) : read <+: source ++ [.bytes []] := by
  induction h with
  | stopped h => exact List.nil_prefix
  | ended h => exact List.prefix_refl _
  | last h hlast => exact List.prefix_append [_] _
  | more h hlast hrest ih => exact List.prefix_cons_inj _ |>.mpr ih

/-- Each read is made while no stop was asked for and the stream has neither ended nor failed. -/
theorem moment (h : Reads ear scene source read) {before after : List Activity} {arrival : Arrival}
    (hsplit : read.flatMap Arrival.handled = before ++ .read arrival :: after) :
    (scene.replay ear before).stopped = false ∧
      ∀ earlier ∈ arrivals before, earlier.isLast = false := by
  induction h generalizing before with
  | stopped h => simp at hsplit
  | ended h | last h hlast =>
    rw [List.flatMap_cons] at hsplit
    rcases Arrival.split_handled hsplit with rfl | ⟨between, -, hnone⟩
    · exact ⟨h, nofun⟩
    · simp at hnone
  | more h hlast hrest ih =>
    rw [List.flatMap_cons] at hsplit
    rcases Arrival.split_handled hsplit with rfl | ⟨between, rfl, hbehind⟩
    · exact ⟨h, nofun⟩
    · -- A later read comes when the first has been dealt with, which was not the last one.
      obtain ⟨hgoing, hearlier⟩ := ih hbehind
      have hfirst (arrival : Arrival) : arrivals arrival.handled = [arrival] := by
        simpa using arrivals_handled [arrival]
      rw [replay_append, arrivals_append, hfirst]
      exact ⟨hgoing, List.forall_mem_cons.mpr ⟨hlast, hearlier⟩⟩

/-- All is read up to the end of the stream or a fault, unless a stop was asked for. -/
theorem content_eq (h : Reads ear scene source read) :
    Source.content read <+: source.delivered ∧
      ((scene.replay ear (read.flatMap Arrival.handled)).stopped = false →
        Source.content read = source.delivered) := by
  induction h with
  | stopped h =>
    exact ⟨List.nil_prefix, fun hgoing => absurd (hgoing.symm.trans h) Bool.false_ne_true⟩
  | ended h => exact ⟨List.prefix_refl _, fun _ => rfl⟩
  | last h hlast =>
    rw [Source.content_cons, Source.delivered_of_isLast hlast, Arrival.content_of_isLast hlast]
    exact ⟨List.prefix_refl _, fun _ => rfl⟩
  | more h hlast hrest ih =>
    rw [Source.content_cons, Source.delivered_of_not_isLast hlast, List.flatMap_cons, replay_append,
      List.prefix_append_right_inj, List.append_right_inj]
    exact ih

end Reads

/-! ### All that is done with a stream -/

/-- What is to be expected of all that is done with a stream, given the scene in which the follower
is handed it. -/
structure Handles (ear : Listener σ) (settings : FollowSettings) (stream : Duplex)
    (scene : Scene σ) (session : List Activity) : Prop where
  /-- a stream that comes too late is left untouched -/
  late : scene.stopped = true → session = []
  /-- of the hello a beginning is sent, and nothing else -/
  hello : session.flatMap sentBytes <+: settings.hello.getD []
  /-- a stream is read only behind the whole hello and a flush that went well, and each chunk is
  handed to the listener before the next read -/
  order : ∃ before, session = before ++ (arrivals session).flatMap Arrival.handled ∧
    (∀ a ∈ before, a.isGreeting = true) ∧
    (arrivals session ≠ [] → before = .state .connected :: greeting settings.hello)
  /-- what is read is what the stream brings, in pieces -/
  reads : arrivals session <+: stream.reads.inPieces settings.chunkSize ++ [.bytes []]
  /-- the chunks are the bytes that were read -/
  chunks : session.flatMap chunkBytes = Source.content (arrivals session)
  sizes : ∀ bytes, .chunk bytes ∈ session →
    bytes ≠ [] ∧ bytes.length ≤ max settings.chunkSize 1
  /-- nothing is read behind a request to stop, the end of the stream or a fault -/
  moment : ∀ before arrival after, session = before ++ .read arrival :: after →
    (scene.replay ear before).stopped = false ∧ ∀ earlier ∈ arrivals before, earlier.isLast = false
  /-- all is read up to there -/
  whole : session.flatMap chunkBytes <+: stream.delivered settings.hello ∧
    ((scene.replay ear session).stopped = false →
      session.flatMap chunkBytes = stream.delivered settings.hello)

/-- A stream that comes too late is left untouched. -/
theorem handles_nil (ear : Listener σ) (settings : FollowSettings) (stream : Duplex)
    (h : scene.stopped = true) : Handles ear settings stream scene [] where
  late _ := rfl
  hello := List.nil_prefix
  order := ⟨[], rfl, nofun, fun hne => absurd rfl hne⟩
  reads := List.nil_prefix
  chunks := rfl
  sizes := nofun
  moment before _ _ hsplit := by simp at hsplit
  whole := ⟨List.nil_prefix, fun hgoing => absurd (hgoing.symm.trans h) Bool.false_ne_true⟩

end Scene

/-- What is done on a stream before it is read, given the hello and whether all went well. -/
structure Activity.Greets (hello : Option Bytes) (ready : Bool) (done : List Activity) : Prop where
  quiet : ∀ a ∈ done, a.isGreeting = true
  sent : done.flatMap sentBytes <+: hello.getD []
  whole : ready = true → done = greeting hello

namespace Activity.Greets

variable {hello : Option Bytes} {ready : Bool} {done : List Activity}

theorem arrivals_eq_nil (h : Greets hello ready done) : arrivals done = [] := by
  refine List.filterMap_eq_nil_iff.mpr fun a ha => ?_
  have hquiet := h.quiet a ha
  cases a with
  | read arrival => cases hquiet
  | connect | state | sent | flushed | chunk => rfl

theorem chunkBytes_eq_nil (h : Greets hello ready done) : done.flatMap chunkBytes = [] := by
  refine List.flatMap_eq_nil_iff.mpr fun a ha => ?_
  have hquiet := h.quiet a ha
  cases a with
  | chunk bytes => cases hquiet
  | connect | state | sent | flushed | read => rfl

end Activity.Greets

theorem sentBytes_handled (read : List Arrival) :
    (read.flatMap Arrival.handled).flatMap sentBytes = [] := by
  refine List.flatMap_eq_nil_iff.mpr fun a ha => ?_
  rcases mem_handled ha with ⟨arrival, rfl⟩ | ⟨bytes, rfl, -⟩ <;> rfl

namespace Scene

variable {σ : Type} {ear : Listener σ} {scene : Scene σ} {settings : FollowSettings}
  {stream : Duplex} {done : List Activity} {read : List Arrival}

/-- What is read off a stream from a scene on: nothing if it did not take the hello. -/
inductive ReadsGreeted (ear : Listener σ) (settings : FollowSettings) (stream : Duplex)
    (scene : Scene σ) (read : List Arrival) : Prop where
  | refused (htakes : stream.takesHello settings.hello = false) (hread : read = [])
  | taken (htakes : stream.takesHello settings.hello = true)
      (hread : Reads ear scene (stream.reads.inPieces settings.chunkSize) read)

namespace ReadsGreeted

theorem takesHello (h : ReadsGreeted ear settings stream scene read) (hread : read ≠ []) :
    stream.takesHello settings.hello = true := by
  cases h with
  | refused _ hnone => exact absurd hnone hread
  | taken htakes _ => exact htakes

theorem prefix_append (h : ReadsGreeted ear settings stream scene read) :
    read <+: stream.reads.inPieces settings.chunkSize ++ [.bytes []] := by
  cases h with
  | refused _ hnone =>
    rw [hnone]
    exact List.nil_prefix
  | taken _ hread => exact hread.prefix_append

theorem moment (h : ReadsGreeted ear settings stream scene read) {before after : List Activity}
    {arrival : Arrival}
    (hsplit : read.flatMap Arrival.handled = before ++ .read arrival :: after) :
    (scene.replay ear before).stopped = false ∧
      ∀ earlier ∈ arrivals before, earlier.isLast = false := by
  cases h with
  | refused _ hnone => simp [hnone] at hsplit
  | taken _ hread => exact hread.moment hsplit

theorem content_eq (h : ReadsGreeted ear settings stream scene read) :
    Source.content read <+: stream.delivered settings.hello ∧
      ((scene.replay ear (read.flatMap Arrival.handled)).stopped = false →
        Source.content read = stream.delivered settings.hello) := by
  cases h with
  | refused htakes hnone =>
    rw [Duplex.delivered, htakes, hnone]
    exact ⟨List.nil_prefix, fun _ => rfl⟩
  | taken htakes hread =>
    rw [Duplex.delivered, if_pos htakes, ← Source.delivered_inPieces settings.chunkSize]
    exact hread.content_eq

theorem length_le (h : ReadsGreeted ear settings stream scene read) {bytes : Bytes}
    (hmem : .bytes bytes ∈ read) (hne : bytes ≠ []) : bytes.length ≤ max settings.chunkSize 1 := by
  rcases List.mem_append.mp (h.prefix_append.mem hmem) with hpiece | hend
  · exact Source.length_le_of_mem_inPieces hpiece
  · exact absurd (Arrival.bytes.inj (List.mem_singleton.mp hend)) hne

end ReadsGreeted

/-- A stream is handled as expected when the listener is told of it, the hello is said, and then
it is read. -/
theorem handles_of_greets (hgoing : scene.stopped = false)
    (hgreets : Greets settings.hello (stream.takesHello settings.hello) done)
    (hread : ReadsGreeted ear settings stream (scene.replay ear (.state .connected :: done)) read) :
    Handles ear settings stream scene
      (.state .connected :: done ++ read.flatMap Arrival.handled) := by
  have harrivals : arrivals (.state .connected :: done) = [] := hgreets.arrivals_eq_nil
  have hall : arrivals (.state .connected :: done ++ read.flatMap Arrival.handled) = read := by
    rw [arrivals_append, harrivals, arrivals_handled, List.nil_append]
  have hchunks : (.state .connected :: done ++ read.flatMap Arrival.handled).flatMap chunkBytes =
      Source.content read := by
    change (done ++ read.flatMap Arrival.handled).flatMap chunkBytes = Source.content read
    rw [List.flatMap_append, hgreets.chunkBytes_eq_nil, chunkBytes_handled, List.nil_append]
  have hquiet : ∀ a ∈ Activity.state .connected :: done, a.isGreeting = true :=
    List.forall_mem_cons.mpr ⟨rfl, hgreets.quiet⟩
  constructor
  case late => exact fun hstopped => absurd (hgoing.symm.trans hstopped) Bool.false_ne_true
  case hello =>
    change (done ++ read.flatMap Arrival.handled).flatMap sentBytes <+: settings.hello.getD []
    rw [List.flatMap_append, sentBytes_handled, List.append_nil]
    exact hgreets.sent
  case order =>
    rw [hall]
    refine ⟨_, rfl, hquiet, fun hne => ?_⟩
    rw [hgreets.whole (hread.takesHello hne)]
  case reads => rw [hall]; exact hread.prefix_append
  case chunks => rw [hchunks, hall]
  case sizes =>
    intro bytes hmem
    rcases List.mem_append.mp hmem with hbefore | hbehind
    · exact nomatch hquiet _ hbefore
    · rcases mem_handled hbehind with ⟨arrival, heq⟩ | ⟨_, heq, hne, hbytes⟩
      · cases heq
      · obtain rfl := Activity.chunk.inj heq
        exact ⟨hne, hread.length_le hbytes hne⟩
  case moment =>
    -- Nothing is read while the stream is greeted, so a read stands among what follows.
    intro before arrival after hsplit
    have hnot : Activity.read arrival ∉ Activity.state .connected :: done :=
      fun hmem => nomatch hquiet _ hmem
    obtain ⟨between, rfl, hbehind⟩ := exists_append_of_not_mem hnot hsplit
    rw [replay_append, arrivals_append, harrivals, List.nil_append]
    exact hread.moment hbehind
  case whole =>
    rw [hchunks, replay_append]
    exact hread.content_eq

end Scene

/-! ### Runs -/

namespace Run

variable {σ : Type} {ear : Listener σ} {run between behind : Run σ} {scene : Scene σ}
  {done more : List Activity}

/-- A run has come to a scene. -/
structure IsAt (run : Run σ) (scene : Scene σ) : Prop where
  listener : run.listener = scene.listener
  stopped : run.stopped = scene.stopped
  state : run.state = scene.phase.state

/-- A run goes on from a scene with some entries. -/
structure Goes (ear : Listener σ) (scene : Scene σ) (run : Run σ) (done : List Activity)
    (behind : Run σ) : Prop where
  journal : behind.journal = done.reverse ++ run.journal
  isAt : behind.IsAt (scene.replay ear done)

theorem IsAt.isStopped (h : run.IsAt scene) (hstopped : run.stopped = true) :
    scene.stopped = true :=
  h.stopped ▸ hstopped

theorem IsAt.isGoing (h : run.IsAt scene) (hgoing : ¬run.stopped = true) :
    scene.stopped = false :=
  h.stopped ▸ Bool.eq_false_iff.mpr hgoing

theorem IsAt.goes (h : run.IsAt scene) : Goes ear scene run [] run := ⟨rfl, h⟩

theorem Goes.trans (h : Goes ear scene run done between)
    (hmore : Goes ear (scene.replay ear done) between more behind) :
    Goes ear scene run (done ++ more) behind where
  journal := by rw [hmore.journal, h.journal, List.reverse_append, List.append_assoc]
  isAt := by
    rw [Scene.replay_append]
    exact hmore.isAt

theorem IsAt.note (h : run.IsAt scene) (hconnected : run.state = .connected) {a : Activity}
    (hquiet : a.isQuiet = true) : Goes ear scene run [a] (run.note a) := by
  refine ⟨rfl, ?_⟩
  cases a with
  | sent | flushed | read => exact ⟨h.listener, h.stopped, hconnected⟩
  | connect | state | chunk => cases hquiet

theorem IsAt.deliver (h : run.IsAt scene) (bytes : Bytes) :
    Goes ear scene run [.chunk bytes] (run.deliver ear bytes) := by
  refine ⟨rfl, ?_, ?_, h.state⟩
  · change (ear.onChunk run.listener bytes).1 = (ear.onChunk scene.listener bytes).1
    rw [h.listener]
  · change (run.stopped || (ear.onChunk run.listener bytes).2) =
      (scene.stopped || (ear.onChunk scene.listener bytes).2)
    rw [h.listener, h.stopped]

theorem IsAt.enter (h : run.IsAt scene) (ear : Listener σ) {state : LinkState}
    (hnew : run.state ≠ state) : Goes ear scene run [.state state] (run.enter ear state) := by
  rw [Run.enter, if_neg hnew]
  refine ⟨rfl, ?_, ?_, ?_⟩
  · change (ear.onState run.listener state).1 = (ear.onState scene.listener state).1
    rw [h.listener]
  · change (run.stopped || (ear.onState run.listener state).2) =
      (scene.stopped || (ear.onState scene.listener state).2)
    rw [h.listener, h.stopped]
  · cases state <;> rfl

/-- Read once, and hand what that brings to the listener. -/
def take (run : Run σ) (ear : Listener σ) (arrival : Arrival) : Run σ :=
  arrival.chunks.foldl (deliver · ear ·) (run.note (.read arrival))

theorem readAll_nil (ear : Listener σ) (run : Run σ) :
    readAll ear [] run = if run.stopped then run else run.take ear (.bytes []) := rfl

theorem readAll_cons (ear : Listener σ) (arrival : Arrival) (source : Source) (run : Run σ) :
    readAll ear (arrival :: source) run =
      if run.stopped then run
      else if arrival.isLast then run.take ear arrival
      else readAll ear source (run.take ear arrival) := by
  rw [readAll]
  rcases arrival with (_ | ⟨b, bytes⟩) | f
  · rfl
  · rfl
  · cases hf : f.isInterruption <;> simp [hf, take, Arrival.isLast, Arrival.chunks]

theorem state_take (run : Run σ) (ear : Listener σ) (arrival : Arrival) :
    (run.take ear arrival).state = run.state := by
  rcases arrival with (_ | ⟨b, bytes⟩) | f <;> rfl

/-- What a read brings is handed on before anything else is done. -/
theorem IsAt.take (h : run.IsAt scene) (hconnected : run.state = .connected) (arrival : Arrival) :
    Goes ear scene run arrival.handled (run.take ear arrival) := by
  have hnote : Goes ear scene run [.read arrival] (run.note (.read arrival)) :=
    h.note hconnected rfl
  rcases arrival with (_ | ⟨b, bytes⟩) | f
  · exact hnote
  · exact hnote.trans (hnote.isAt.deliver (b :: bytes))
  · exact hnote

/-- A stream is read as told. -/
theorem IsAt.exists_readAll (source : Source) (h : run.IsAt scene)
    (hconnected : run.state = .connected) :
    ∃ read, scene.Reads ear source read ∧
      Goes ear scene run (read.flatMap Arrival.handled) (readAll ear source run) ∧
      (readAll ear source run).state = .connected := by
  -- The listener may ask for a stop with each chunk, so this is looked at before each read.
  induction source generalizing run scene with
  | nil =>
    rw [readAll_nil]
    split
    case isTrue hstopped => exact ⟨[], .stopped (h.isStopped hstopped), h.goes, hconnected⟩
    case isFalse hgoing =>
      exact ⟨[.bytes []], .ended (h.isGoing hgoing), h.take hconnected _, hconnected⟩
  | cons arrival source ih =>
    rw [readAll_cons]
    split
    case isTrue hstopped => exact ⟨[], .stopped (h.isStopped hstopped), h.goes, hconnected⟩
    case isFalse hgoing =>
      have hscene := h.isGoing hgoing
      have htake : Goes ear scene run arrival.handled (run.take ear arrival) :=
        h.take hconnected arrival
      have hstate := (run.state_take ear arrival).trans hconnected
      split
      case isTrue hlast =>
        refine ⟨[arrival], .last hscene hlast, ?_, hstate⟩
        rwa [List.flatMap_singleton]
      case isFalse hlast =>
        obtain ⟨read, hreads, hgoes, hend⟩ := ih htake.isAt hstate
        exact ⟨arrival :: read, .more hscene (Bool.eq_false_iff.mpr hlast) hreads,
          htake.trans hgoes, hend⟩

/-- Of the hello a beginning is sent, and all of it where the stream takes it. -/
theorem IsAt.exists_greet (h : run.IsAt scene) (hconnected : run.state = .connected)
    (hello : Option Bytes) (stream : Duplex) :
    ∃ done, Greets hello (stream.takesHello hello) done ∧
      Goes ear scene run done (run.greet hello stream).2 ∧
      (run.greet hello stream).2.state = .connected := by
  cases hello with
  | none =>
    have hquiet : ∀ a ∈ ([] : List Activity), a.isGreeting = true := List.forall_mem_nil _
    exact ⟨[], ⟨hquiet, List.nil_prefix, fun _ => rfl⟩, h.goes, hconnected⟩
  | some hello =>
    rw [Run.greet, Duplex.takesHello]
    rcases htransmit : stream.sink.transmit hello with ⟨stop, sink⟩
    -- The stream had taken nothing before, so all that it has taken now is a part of the hello.
    obtain ⟨cut, hcut, hwritten, hwhole⟩ := Sink.exists_prefix_of_transmit htransmit
    obtain rfl : sink.written = cut := hwritten
    have hsent : Goes ear scene run [.sent sink.written] (run.note (.sent sink.written)) :=
      h.note hconnected rfl
    cases stop with
    | some stop =>
      refine ⟨[.sent sink.written], ⟨?_, ?_, ?_⟩, hsent, hconnected⟩
      · exact List.forall_mem_singleton.mpr rfl
      · rwa [List.flatMap_singleton]
      · exact fun hready => absurd hready Bool.false_ne_true
    | none =>
      have hflushed := hsent.trans (hsent.isAt.note hconnected (a := .flushed sink.flush.1.isNone)
        rfl)
      refine ⟨_, ⟨?_, ?_, fun hready => ?_⟩, hflushed, hconnected⟩
      · exact List.forall_mem_cons.mpr ⟨rfl, List.forall_mem_singleton.mpr rfl⟩
      · change sink.written ++ [] <+: hello
        rwa [List.append_nil]
      · have hready : sink.flush.1.isNone = true := hready
        rw [hwhole rfl, hready]
        rfl

theorem enter_of_eq {state : LinkState} (h : run.state = state) (ear : Listener σ) :
    run.enter ear state = run := if_pos h

theorem state_enter (run : Run σ) (ear : Listener σ) (state : LinkState) :
    (run.enter ear state).state = state := by
  rw [enter]
  split
  case isTrue hstate => exact hstate
  case isFalse => rfl

/-- A stream is greeted and then read. -/
theorem IsAt.exists_session (h : run.IsAt scene) (hconnected : run.state = .connected)
    (settings : FollowSettings) (stream : Duplex) :
    ∃ done read, Greets settings.hello (stream.takesHello settings.hello) done ∧
      Scene.ReadsGreeted ear settings stream (scene.replay ear done) read ∧
      Goes ear scene run (done ++ read.flatMap Arrival.handled)
        (run.session ear settings stream) ∧
      (run.session ear settings stream).state = .connected := by
  obtain ⟨done, hgreets, hgreeted, hstate⟩ := h.exists_greet hconnected settings.hello stream
  rw [Run.session]
  dsimp only
  rw [fst_greet]
  cases htakes : stream.takesHello settings.hello with
  | false =>
    refine ⟨done, [], htakes ▸ hgreets, .refused htakes rfl, ?_, hstate⟩
    rwa [List.flatMap_nil, List.append_nil]
  | true =>
    obtain ⟨read, hreads, hread, hend⟩ := hgreeted.isAt.exists_readAll
      (stream.reads.inPieces settings.chunkSize) hstate
    exact ⟨done, read, htakes ▸ hgreets, .taken htakes hreads, hgreeted.trans hread, hend⟩

/-- A stream is handled as expected up to its end. -/
theorem IsAt.exists_withStream (h : run.IsAt scene) (hconnecting : run.state = .connecting)
    (ear : Listener σ) (settings : FollowSettings) (stream : Duplex) :
    ∃ session, Scene.Handles ear settings stream scene session ∧
      Goes ear scene run (session ++ [.state .disconnected])
        ((run.withStream ear settings stream).enter ear .disconnected) ∧
      ((run.withStream ear settings stream).state = .disconnected ∨
        (run.withStream ear settings stream).stopped = true) := by
  have hcounted : run.counted.IsAt scene := ⟨h.listener, h.stopped, h.state⟩
  have hnew (state : LinkState) (hstate : .connecting ≠ state) : run.counted.state ≠ state :=
    fun heq => hstate (hconnecting.symm.trans heq)
  rw [withStream_eq]
  split
  case isTrue hstopped =>
    -- The stream came too late: it is counted, and then left.
    have hleft := hcounted.enter ear (hnew .disconnected nofun)
    exact ⟨[], Scene.handles_nil ear settings stream (h.isStopped hstopped),
      ⟨hleft.journal, hleft.isAt⟩, .inr hstopped⟩
  case isFalse hgoing =>
    have htold := hcounted.enter ear (hnew .connected nofun)
    obtain ⟨done, read, hgreets, hreads, hsession, hconnected⟩ :=
      htold.isAt.exists_session (state_enter _ _ _) settings stream
    have hall := htold.trans hsession
    have hopen : ((run.counted.enter ear .connected).session ear settings stream).state ≠
        .disconnected := by
      rw [hconnected]
      exact nofun
    have hended := hall.trans (hall.isAt.enter ear hopen)
    rw [enter_of_eq (state_enter _ _ _)]
    exact ⟨_, Scene.handles_of_greets (h.isGoing hgoing) hgreets hreads,
      ⟨hended.journal, hended.isAt⟩, .inl (state_enter _ _ _)⟩

end Run

end MotionLink
