import MotionLink.CommandLine.Program
import MotionLink.Proofs.CommandLine.Exit
import MotionLink.Proofs.Link.Delivery
import MotionLink.Proofs.Link.Heard
import MotionLink.Proofs.Log.Sessions
import MotionLink.Proofs.Terminal.Objects

/-!
# Requests from the command line

A request that is only shown prints the payload that it sends when it is carried out. It ends well
in one case only: the controller has taken the whole frame, and has replied something that is no
error. Whatever else happens on the way there, it ends with another code, and unless there was a
reply nothing is printed.

## Main definitions

* `Invocation.shown` — the same command line, only showing what would be sent
* `Invocation.IsAnswered` — a request reaches a controller that has a reply for it
* `Invocation.EndsAsAnswered` — what is to be expected of a request that is carried out

## Main results

* `Surroundings.exchange_eq_ok_iff` — an exchange succeeds if the stream answers it
* `Invocation.endsAsAnswered` — a request ends as it was answered, whatever the controller does
-/

namespace MotionLink

/-! ### Preparing a request -/

/-- Where a row of computations fails, one of them does. -/
theorem exists_of_mapM_eq_error {α β ε : Type} {f : α → Except ε β} {items : List α} {e : ε}
    (h : items.mapM f = .error e) : ∃ item ∈ items, f item = .error e := by
  induction items with
  | nil => cases h
  | cons item items ih =>
    rw [List.mapM_cons] at h
    rcases hitem : f item with e' | b
    · rw [hitem] at h
      cases h
      exact ⟨item, List.mem_cons_self, hitem⟩
    · rw [hitem] at h
      rcases hitems : items.mapM f with e' | bs
      · rw [hitems] at h
        cases h
        obtain ⟨other, hmem, hother⟩ := ih hitems
        exact ⟨other, List.mem_cons_of_mem _ hmem, hother⟩
      · rw [hitems] at h
        cases h

theorem Point.code_of_read_eq_error {whole : String} {f : Failure}
    (h : Point.read whole = .error f) : f.code = ExitCode.usage := by
  rw [Point.read] at h
  rcases hparts : List.mapM (readNumber whole)
    (((whole.toList.splitOnP isSeparator).map Text.trim).filter fun part => !part.isEmpty)
    with f' | components
  · rw [hparts] at h
    cases h
    obtain ⟨part, -, hpart⟩ := exists_of_mapM_eq_error hparts
    rw [readNumber] at hpart
    split at hpart
    · cases hpart
    · cases hpart
      rfl
  · rw [hparts] at h
    cases h

namespace PreparedRequest

variable {o : RequestOptions} {id : String} {f : Failure} {p : PreparedRequest}

theorem code_of_toIntent_eq_error (h : o.toIntent id = .error f) : f.code = ExitCode.usage := by
  cases o with
  | move m =>
    rw [RequestOptions.toIntent, MoveOptions.toMotion] at h
    rcases hpoints : m.points.mapM Point.read with f' | points
    · rw [hpoints] at h
      cases h
      obtain ⟨point, -, hpoint⟩ := exists_of_mapM_eq_error hpoints
      exact Point.code_of_read_eq_error hpoint
    · rw [hpoints] at h
      cases h
  | output pin state => cases h
  | call program => cases h

theorem ofOptions_of_toIntent_eq_error (h : o.toIntent id = .error f) :
    ofOptions o id = .error f := by
  rw [ofOptions, h]
  rfl

theorem ofOptions_of_toIntent {intent : Intent} (h : o.toIntent id = .ok intent) :
    ofOptions o id =
      match intent.encode o.unit with
      | .error e => .error (Failure.ofCommand "invalid command" e)
      | .ok payload => .ok ⟨intent, payload, o.unit⟩ := by
  rw [ofOptions, h]
  rfl

/-- A request that breaks a rule does not end well. -/
theorem code_ne_success_of_ofOptions (h : ofOptions o id = .error f) :
    f.code ≠ ExitCode.success := by
  rcases hintent : o.toIntent id with f' | intent
  · rw [ofOptions_of_toIntent_eq_error hintent] at h
    cases h
    rw [code_of_toIntent_eq_error hintent]
    decide
  · rw [ofOptions_of_toIntent hintent] at h
    cases hencode : intent.encode o.unit with
    | error e =>
      rw [hencode] at h
      cases h
      exact Failure.code_ofCommand_ne_success _ e
    | ok payload =>
      rw [hencode] at h
      cases h

/-- The payload of a request is the one that a channel sends for it. -/
theorem encode_of_ofOptions (h : ofOptions o id = .ok p) :
    p.intent.encode p.unit = .ok p.payload := by
  rcases hintent : o.toIntent id with f' | intent
  · rw [ofOptions_of_toIntent_eq_error hintent] at h
    cases h
  · rw [ofOptions_of_toIntent hintent] at h
    cases hencode : intent.encode o.unit with
    | error e =>
      rw [hencode] at h
      cases h
    | ok payload =>
      rw [hencode] at h
      cases h
      exact hencode

theorem encode_channel (h : ofOptions o id = .ok p) (c : ConnectOptions)
    (responseTimeout : Duration) :
    p.intent.encode (c.channel p.unit responseTimeout).unit = .ok p.payload :=
  encode_of_ofOptions h

end PreparedRequest

/-! ### One exchange -/

namespace Surroundings

section Exchange

variable {settings : ChannelSettings} {intent : Intent} {stream : Duplex} {payload : String}
  {reply : Reply} {cause : LinkError} {channel : Channel} {f : Failure}

theorem exchange_of_greeted_eq_error
    (h : Channel.greeted settings stream = (.error cause, channel)) :
    exchange settings intent stream = (.error (.ofLink "connect failed" cause), channel) := by
  rw [exchange, h]

theorem exchange_of_greeted (h : Channel.greeted settings stream = (.ok (), channel))
    (hencode : intent.encode settings.unit = .ok payload) :
    exchange settings intent stream =
      ((channel.request (Utf8.octets payload)).1.mapError (.ofLink "send failed"),
        (channel.request (Utf8.octets payload)).2) := by
  obtain ⟨-, hunit, -⟩ := Channel.heard_of_ofParts h
  have hsend : channel.send intent = channel.request (Utf8.octets payload) := by
    rw [Channel.send, hunit, hencode]
  rw [exchange, h]
  dsimp only
  rw [hsend]

/-- An exchange succeeds if the stream answers it. -/
theorem exchange_eq_ok_iff (hencode : intent.encode settings.unit = .ok payload) :
    (exchange settings intent stream).1 = .ok reply ↔
      stream.Answers settings (Utf8.octets payload) reply := by
  rcases hgreeted : Channel.greeted settings stream with ⟨cause | ⟨⟩, channel⟩
  · rw [exchange_of_greeted_eq_error hgreeted]
    exact ⟨nofun, fun h => absurd h (Channel.not_answers_of_greeted_eq_error hgreeted)⟩
  · rw [exchange_of_greeted hgreeted hencode,
      ← Channel.request_eq_ok_iff_answers hgreeted (Intent.terminator_not_mem_octets hencode)]
    rcases (channel.request (Utf8.octets payload)).1 with e | answer
    · exact ⟨nofun, nofun⟩
    · exact ⟨fun h => congrArg Except.ok (Except.ok.inj h),
        fun h => congrArg Except.ok (Except.ok.inj h)⟩

theorem code_of_exchange_eq_error (hencode : intent.encode settings.unit = .ok payload)
    (h : (exchange settings intent stream).1 = .error f) : f.code ≠ ExitCode.success := by
  rcases hgreeted : Channel.greeted settings stream with ⟨cause | ⟨⟩, channel⟩
  · rw [exchange_of_greeted_eq_error hgreeted] at h
    cases h
    exact Failure.code_ofLink_ne_success _ cause
  · rw [exchange_of_greeted hgreeted hencode] at h
    rcases hanswer : (channel.request (Utf8.octets payload)).1 with cause | answer
    · rw [hanswer] at h
      cases h
      exact Failure.code_ofLink_ne_success _ cause
    · rw [hanswer] at h
      cases h

/-- Nothing is written before the greeting was heard. -/
theorem written_of_unheard (hawaits : settings.awaitsGreeting = true)
    (hheard : Reply.within settings.limit stream.reads.delivered = []) :
    (exchange settings intent stream).2.written = [] := by
  rcases hgreeted : Channel.greeted settings stream with ⟨cause | ⟨⟩, channel⟩
  · rw [exchange_of_greeted_eq_error hgreeted]
    obtain ⟨-, -, hwriter⟩ := Channel.heard_of_ofParts_eq_error hgreeted
    exact congrArg (fun writer => writer.sink.written) hwriter
  · -- A greeting that was awaited is one of the replies that are heard.
    obtain ⟨-, -, -, hgreeting, hlength⟩ := Channel.heard_of_ofParts hgreeted
    rw [FrameReader.heard_ofSource, hheard, eq_comm, List.append_eq_nil_iff] at hgreeting
    rw [hgreeting.1, hawaits] at hlength
    cases hlength

/-- Of a request nothing but its frame is written, from the front; all of it, if there is a
reply. -/
theorem written_exchange (hencode : intent.encode settings.unit = .ok payload) :
    (exchange settings intent stream).2.written <+:
        Utf8.octets payload ++ [Frame.terminator] ∧
      ∀ reply, (exchange settings intent stream).1 = .ok reply →
        (exchange settings intent stream).2.written =
          Utf8.octets payload ++ [Frame.terminator] := by
  rcases hgreeted : Channel.greeted settings stream with ⟨cause | ⟨⟩, channel⟩
  · rw [exchange_of_greeted_eq_error hgreeted]
    obtain ⟨-, -, hwriter⟩ := Channel.heard_of_ofParts_eq_error hgreeted
    have hwritten : channel.written = [] := congrArg (fun writer => writer.sink.written) hwriter
    rw [hwritten]
    exact ⟨List.nil_prefix, nofun⟩
  · rw [exchange_of_greeted hgreeted hencode]
    obtain ⟨-, -, hwriter, -⟩ := Channel.heard_of_ofParts hgreeted
    have hunwritten : channel.written = [] := congrArg (fun writer => writer.sink.written) hwriter
    obtain ⟨cut, hcut, hwritten, hwhole⟩ :=
      Channel.exists_prefix_request (Intent.terminator_not_mem_octets hencode) channel
    dsimp only
    rw [hwritten, hunwritten, List.nil_append]
    refine ⟨hcut, fun reply hreply => ?_⟩
    rcases hanswer : (channel.request (Utf8.octets payload)).1 with cause | answer
    · rw [hanswer] at hreply
      cases hreply
    · exact hwhole answer hanswer

end Exchange

/-! ### Requests that are sent -/

theorem codeFor_eq_success_iff {reply : Reply} :
    codeFor reply = ExitCode.success ↔ reply.status ≠ .error := by
  rw [codeFor, Reply.isError]
  cases reply.status <;> decide

theorem codeFor_of_isError {reply : Reply} (h : reply.status = .error) :
    codeFor reply = ExitCode.failure := by
  rw [codeFor, Reply.isError, h]
  rfl

/-- The ways in which a request that is sent can end. -/
inductive Outcome (s : Surroundings) (form : OutputForm) (address : String) (c : ConnectOptions)
    (p : PreparedRequest) : Conclusion → Prop
  /-- no controller is reached -/
  | unreached {f : Failure} (hcode : f.code ≠ ExitCode.success)
      (hunreached : ∀ timeout responseTimeout stream,
        c.limits = .ok (timeout, responseTimeout) →
        s.network.connect address (some timeout) ≠ .ok stream) :
      Outcome s form address c p (.failed [] f)
  /-- no reply comes -/
  | unanswered {timeout responseTimeout : Duration} {stream : Duplex} {f : Failure}
      {channel : Channel} (hlimits : c.limits = .ok (timeout, responseTimeout))
      (hstream : s.network.connect address (some timeout) = .ok stream)
      (hexchange : exchange (c.channel p.unit responseTimeout) p.intent stream =
        (.error f, channel)) :
      Outcome s form address c p (.failed [channel.written] f)
  /-- a reply comes -/
  | answered {timeout responseTimeout : Duration} {stream : Duplex} {reply : Reply}
      {channel : Channel} (hlimits : c.limits = .ok (timeout, responseTimeout))
      (hstream : s.network.connect address (some timeout) = .ok stream)
      (hexchange : exchange (c.channel p.unit responseTimeout) p.intent stream =
        (.ok reply, channel)) :
      Outcome s form address c p
        (.printing s.output [channel.written] ((p.report (some reply)).printout form)
          (codeFor reply))

theorem code_of_limits_eq_error {c : ConnectOptions} {f : Failure} (h : c.limits = .error f) :
    f.code ≠ ExitCode.success := by
  rw [ConnectOptions.limits] at h
  rcases htimeout : Duration.read c.timeout with e | timeout
  · rw [htimeout] at h
    cases h
    exact Failure.code_ofDuration_ne_success e
  · rw [htimeout] at h
    rcases hresponse : Duration.read c.responseTimeout with e | responseTimeout
    · rw [hresponse] at h
      cases h
      exact Failure.code_ofDuration_ne_success e
    · rw [hresponse] at h
      cases h

/-- Every request that is sent ends in one of these ways. -/
theorem outcome_sendRequest (s : Surroundings) (form : OutputForm) (address : String)
    (c : ConnectOptions) (p : PreparedRequest) :
    Outcome s form address c p (s.sendRequest form address c p) := by
  rw [sendRequest]
  rcases hlimits : c.limits with f | ⟨timeout, responseTimeout⟩
  · refine .unreached (code_of_limits_eq_error hlimits) fun _ _ _ h => ?_
    cases hlimits.symm.trans h
  · dsimp only
    rcases hstream : s.network.connect address (some timeout) with e | stream
    · refine .unreached (Failure.code_ofTransport_ne_success "connect failed" e) fun _ _ _ h => ?_
      cases hlimits.symm.trans h
      rw [hstream]
      exact nofun
    · dsimp only
      rcases hexchange : exchange (c.channel p.unit responseTimeout) p.intent stream
        with ⟨f | reply, channel⟩
      · exact .unanswered hlimits hstream hexchange
      · exact .answered hlimits hstream hexchange

/-- What is sent is what the exchange has written, if there was one. -/
theorem Outcome.sent {s : Surroundings} {form : OutputForm} {address : String} {c : ConnectOptions}
    {p : PreparedRequest} {conclusion : Conclusion} (h : Outcome s form address c p conclusion) :
    conclusion.sent.flatten = [] ∨
      ∃ timeout responseTimeout stream, c.limits = .ok (timeout, responseTimeout) ∧
        s.network.connect address (some timeout) = .ok stream ∧
        conclusion.sent.flatten =
          (exchange (c.channel p.unit responseTimeout) p.intent stream).2.written := by
  cases h with
  | unreached => exact .inl rfl
  | unanswered hlimits hstream hexchange =>
    refine .inr ⟨_, _, _, hlimits, hstream, ?_⟩
    rw [hexchange]
    exact List.flatten_singleton
  | answered hlimits hstream hexchange =>
    refine .inr ⟨_, _, _, hlimits, hstream, ?_⟩
    rw [hexchange]
    exact List.flatten_singleton

end Surroundings

/-- An output that takes everything has taken what was printed. -/
theorem Conclusion.printing_ofCapacity_none (refusal : Fault) (sent : List Bytes)
    (printout : Printout) (code : Nat) :
    printing (.ofCapacity none refusal) sent printout code =
      ⟨.code code, Utf8.octets printout.text, sent⟩ := by
  have htakes : (Outlet.ofCapacity none refusal).TakesAll := ⟨rfl, rfl, rfl⟩
  have hfailed := (htakes.put (Utf8.octets printout.text)).failed
  rw [printing, (Outlet.written_put hfailed).2, hfailed]
  rfl

/-! ### The command line -/

namespace Invocation

/-- The same command line, only showing what would be sent. -/
def shown (i : Invocation) : Invocation :=
  { i with
    task :=
      match i.task with
      | .request o id c => .request o id { c with dryRun := true }
      | task => task }

/-- The form in which results are printed. -/
def formIn (s : Surroundings) (i : Invocation) : OutputForm := i.form.getD (.standard s.terminal)

/-- A request is accepted, and reaches a controller that takes its frame and has a reply for it. -/
inductive IsAnswered (s : Surroundings) (i : Invocation) (p : PreparedRequest) (reply : Reply) :
    Prop
  | intro {o : RequestOptions} {id : Option String} {c : ConnectOptions}
      {timeout responseTimeout : Duration} {stream : Duplex} (htask : i.task = .request o id c)
      (hprepared : PreparedRequest.ofOptions o (id.getD s.freshId) = .ok p)
      (hlimits : c.limits = .ok (timeout, responseTimeout))
      (hstream : s.network.connect i.endpoint.commandAddress (some timeout) = .ok stream)
      (hanswers : stream.Answers (c.channel p.unit responseTimeout) (Utf8.octets p.payload) reply)

/-- What is to be expected of a request that is carried out. -/
structure EndsAsAnswered (s : Surroundings) (i : Invocation) (o : RequestOptions)
    (id : Option String) (c : ConnectOptions) : Prop where
  /-- a request that breaks a rule is neither shown nor sent -/
  refused : ∀ f, PreparedRequest.ofOptions o (id.getD s.freshId) = .error f →
    i.shown.run s = .failed [] f ∧ i.run s = .failed [] f
  /-- what is sent is a cut of the payload that is shown, with a terminator behind it -/
  sent : ∀ p, PreparedRequest.ofOptions o (id.getD s.freshId) = .ok p →
    i.shown.run s =
        ⟨.code ExitCode.success, Utf8.octets ((p.report none).write (i.formIn s)), []⟩ ∧
      (i.run s).sent.flatten <+: Utf8.octets p.payload ++ [Frame.terminator]
  /-- nothing is sent before a greeting that is awaited was heard -/
  unheard : ∀ timeout responseTimeout stream, c.limits = .ok (timeout, responseTimeout) →
    s.network.connect i.endpoint.commandAddress (some timeout) = .ok stream →
    c.noGreeting = false → Reply.within Frame.defaultLimit stream.reads.delivered = [] →
    (i.run s).sent.flatten = []
  /-- all is well exactly when there is a reply, and it is no error -/
  accepted : (i.run s).ending.exitCode = ExitCode.success ↔
    ∃ p reply, i.IsAnswered s p reply ∧ reply.status ≠ .error
  rejected : ∀ p reply, i.IsAnswered s p reply → reply.status = .error →
    (i.run s).ending.exitCode = ExitCode.failure
  /-- a reply is only there for a whole frame, and is printed -/
  answered : ∀ p reply, i.IsAnswered s p reply →
    (i.run s).sent = [Utf8.octets p.payload ++ [Frame.terminator]] ∧
      (i.run s).printed = Utf8.octets ((p.report (some reply)).write (i.formIn s))
  /-- without a reply there is nothing to print, and all is not well -/
  unanswered : (∀ p reply, ¬i.IsAnswered s p reply) →
    (i.run s).ending.exitCode ≠ ExitCode.success ∧ (i.run s).printed = []

section Request

variable {s : Surroundings} {i : Invocation} {o : RequestOptions} {id : Option String}
  {c : ConnectOptions} {p : PreparedRequest} {reply : Reply} {f : Failure}

theorem run_of_task (htask : i.task = .request o id c) :
    i.run s = s.request (i.formIn s) i.endpoint o id c := by
  rw [run, htask]
  rfl

theorem run_shown (htask : i.task = .request o id c) :
    i.shown.run s = s.request (i.formIn s) i.endpoint o id { c with dryRun := true } := by
  have hshown : i.shown.task = .request o id { c with dryRun := true } := by rw [shown, htask]
  exact run_of_task hshown

/-- A request that is answered is an exchange that succeeds. -/
theorem IsAnswered.exchange (h : i.IsAnswered s p reply) (htask : i.task = .request o id c) :
    PreparedRequest.ofOptions o (id.getD s.freshId) = .ok p ∧
      ∃ timeout responseTimeout stream, c.limits = .ok (timeout, responseTimeout) ∧
        s.network.connect i.endpoint.commandAddress (some timeout) = .ok stream ∧
        (Surroundings.exchange (c.channel p.unit responseTimeout) p.intent stream).1 =
          .ok reply := by
  obtain ⟨htask', hprepared, hlimits, hstream, hanswers⟩ := h
  obtain ⟨rfl, rfl, rfl⟩ := Task.request.inj (htask.symm.trans htask')
  rename_i timeout responseTimeout stream
  have hencode := PreparedRequest.encode_channel hprepared c responseTimeout
  have hexchange := (Surroundings.exchange_eq_ok_iff hencode).mpr hanswers
  exact ⟨hprepared, timeout, responseTimeout, stream, hlimits, hstream, hexchange⟩

/-- The exchange is the one that the surroundings lead to. -/
theorem IsAnswered.exchange_eq {timeout responseTimeout : Duration} {stream : Duplex}
    {p' : PreparedRequest} (h : i.IsAnswered s p' reply) (htask : i.task = .request o id c)
    (hprepared : PreparedRequest.ofOptions o (id.getD s.freshId) = .ok p)
    (hlimits : c.limits = .ok (timeout, responseTimeout))
    (hstream : s.network.connect i.endpoint.commandAddress (some timeout) = .ok stream) :
    p' = p ∧
      (Surroundings.exchange (c.channel p.unit responseTimeout) p.intent stream).1 = .ok reply := by
  obtain ⟨hprepared', _, _, _, hlimits', hstream', hreply⟩ := h.exchange htask
  cases hprepared.symm.trans hprepared'
  cases hlimits.symm.trans hlimits'
  cases hstream.symm.trans hstream'
  exact ⟨rfl, hreply⟩

theorem run_of_ofOptions_eq_error (htask : i.task = .request o id c)
    (h : PreparedRequest.ofOptions o (id.getD s.freshId) = .error f) : i.run s = .failed [] f := by
  rw [run_of_task htask, Surroundings.request, h]

theorem outcome_run (htask : i.task = .request o id c) (hsends : c.dryRun = false)
    (hprepared : PreparedRequest.ofOptions o (id.getD s.freshId) = .ok p) :
    s.Outcome (i.formIn s) i.endpoint.commandAddress c p (i.run s) := by
  rw [run_of_task htask, Surroundings.request, hprepared]
  dsimp only
  rw [hsends, if_neg Bool.false_ne_true]
  exact Surroundings.outcome_sendRequest s _ _ c p

/-- What is sent is a cut of the frame. -/
theorem prefix_sent (htask : i.task = .request o id c) (hsends : c.dryRun = false)
    (hprepared : PreparedRequest.ofOptions o (id.getD s.freshId) = .ok p) :
    (i.run s).sent.flatten <+: Utf8.octets p.payload ++ [Frame.terminator] := by
  rcases (outcome_run htask hsends hprepared).sent with hnone | ⟨_, _, _, -, -, hsent⟩
  · rw [hnone]
    exact List.nil_prefix
  · rw [hsent]
    exact (Surroundings.written_exchange (PreparedRequest.encode_channel hprepared c _)).1

/-- Nothing is sent before a greeting that is awaited was heard. -/
theorem sent_of_unheard {timeout responseTimeout : Duration} {stream : Duplex}
    (htask : i.task = .request o id c) (hsends : c.dryRun = false)
    (hlimits : c.limits = .ok (timeout, responseTimeout))
    (hstream : s.network.connect i.endpoint.commandAddress (some timeout) = .ok stream)
    (hgreeting : c.noGreeting = false)
    (hheard : Reply.within Frame.defaultLimit stream.reads.delivered = []) :
    (i.run s).sent.flatten = [] := by
  rcases hprepared : PreparedRequest.ofOptions o (id.getD s.freshId) with f | p
  · rw [run_of_ofOptions_eq_error htask hprepared]
    rfl
  · rcases (outcome_run htask hsends hprepared).sent with
      hnone | ⟨_, _, _, hlimits', hstream', hsent⟩
    · exact hnone
    · cases hlimits.symm.trans hlimits'
      cases hstream.symm.trans hstream'
      have hawaits : (c.channel p.unit responseTimeout).awaitsGreeting = true := by
        rw [ConnectOptions.channel, hgreeting]
        rfl
      rw [hsent]
      exact Surroundings.written_of_unheard hawaits hheard

/-- Either there is one reply, which is printed, or there is none, and the request fails. -/
theorem answered_or_failed {refusal : Fault} (houtput : s.output = .ofCapacity none refusal)
    (htask : i.task = .request o id c) (hsends : c.dryRun = false) :
    (∃ p reply, i.IsAnswered s p reply ∧
        (∀ p' reply', i.IsAnswered s p' reply' → p' = p ∧ reply' = reply) ∧
        i.run s = ⟨.code (Surroundings.codeFor reply),
          Utf8.octets ((p.report (some reply)).write (i.formIn s)),
          [Utf8.octets p.payload ++ [Frame.terminator]]⟩) ∨
      ((∀ p reply, ¬i.IsAnswered s p reply) ∧
        ∃ sent f, i.run s = .failed sent f ∧ f.code ≠ ExitCode.success) := by
  rcases hprepared : PreparedRequest.ofOptions o (id.getD s.freshId) with f | p
  · refine .inr ⟨fun p reply h => ?_, [], f, run_of_ofOptions_eq_error htask hprepared,
      PreparedRequest.code_ne_success_of_ofOptions hprepared⟩
    cases hprepared.symm.trans (h.exchange htask).1
  have hencode := PreparedRequest.encode_channel hprepared c
  have houtcome := outcome_run htask hsends hprepared
  -- Only the last of the three ways it can go has a reply; the other two leave none to be found.
  generalize i.run s = conclusion at houtcome
  cases houtcome with
  | unreached hcode hunreached =>
    refine .inr ⟨fun p' reply h => ?_, [], _, rfl, hcode⟩
    obtain ⟨-, timeout, responseTimeout, stream, hlimits, hstream, -⟩ := h.exchange htask
    exact hunreached timeout responseTimeout stream hlimits hstream
  | @unanswered timeout responseTimeout stream f channel hlimits hstream hexchange =>
    refine .inr ⟨fun p' reply h => ?_, [channel.written], f, rfl, ?_⟩
    · obtain ⟨-, hreply⟩ := h.exchange_eq htask hprepared hlimits hstream
      rw [hexchange] at hreply
      cases hreply
    · exact Surroundings.code_of_exchange_eq_error (hencode responseTimeout)
        (congrArg Prod.fst hexchange)
  | @answered timeout responseTimeout stream reply channel hlimits hstream hexchange =>
    have hreply : (Surroundings.exchange (c.channel p.unit responseTimeout) p.intent stream).1 =
        .ok reply := congrArg Prod.fst hexchange
    have hwritten : channel.written = Utf8.octets p.payload ++ [Frame.terminator] := by
      have hwhole := (Surroundings.written_exchange (hencode responseTimeout)).2 reply hreply
      rwa [hexchange] at hwhole
    refine .inl ⟨p, reply, ?_, fun p' reply' h => ?_, ?_⟩
    · exact ⟨htask, hprepared, hlimits, hstream,
        (Surroundings.exchange_eq_ok_iff (hencode responseTimeout)).mp hreply⟩
    · obtain ⟨hsame, hreply'⟩ := h.exchange_eq htask hprepared hlimits hstream
      exact ⟨hsame, Except.ok.inj (hreply'.symm.trans hreply)⟩
    · rw [houtput, hwritten, Conclusion.printing_ofCapacity_none]
      rfl

/-- Whatever the controller does, and whether or not it is reached, a request ends as it was
answered. -/
theorem endsAsAnswered {refusal : Fault} (htask : i.task = .request o id c)
    (hsends : c.dryRun = false) (houtput : s.output = .ofCapacity none refusal) :
    i.EndsAsAnswered s o id c := by
  -- There is one reply or none, and everything but what is sent follows from which it is.
  have hends := answered_or_failed houtput htask hsends
  constructor
  case refused =>
    intro f hrefused
    refine ⟨?_, run_of_ofOptions_eq_error htask hrefused⟩
    rw [run_shown htask, Surroundings.request, hrefused]
  case sent =>
    intro p hprepared
    refine ⟨?_, prefix_sent htask hsends hprepared⟩
    rw [run_shown htask, Surroundings.request, hprepared]
    dsimp only
    rw [if_pos rfl, houtput, Conclusion.printing_ofCapacity_none]
    rfl
  case unheard =>
    intro timeout responseTimeout stream hlimits hstream
    exact sent_of_unheard htask hsends hlimits hstream
  case accepted =>
    rcases hends with ⟨p, reply, hanswered, hunique, hrun⟩ | ⟨hnone, sent, f, hrun, hcode⟩
    · rw [hrun]
      change Surroundings.codeFor reply = ExitCode.success ↔ _
      rw [Surroundings.codeFor_eq_success_iff]
      constructor
      · exact fun hstatus => ⟨p, reply, hanswered, hstatus⟩
      · rintro ⟨p', reply', hanswered', hstatus⟩
        rwa [← (hunique p' reply' hanswered').2]
    · rw [hrun]
      exact ⟨fun h => absurd h hcode, fun ⟨p, reply, h, _⟩ => absurd h (hnone p reply)⟩
  case rejected =>
    intro p' reply' hanswered' hstatus
    rcases hends with ⟨p, reply, -, hunique, hrun⟩ | ⟨hnone, -⟩
    · obtain ⟨-, rfl⟩ := hunique p' reply' hanswered'
      rw [hrun]
      exact Surroundings.codeFor_of_isError hstatus
    · exact absurd hanswered' (hnone p' reply')
  case answered =>
    intro p' reply' hanswered'
    rcases hends with ⟨p, reply, -, hunique, hrun⟩ | ⟨hnone, -⟩
    · obtain ⟨rfl, rfl⟩ := hunique p' reply' hanswered'
      rw [hrun]
      exact ⟨rfl, rfl⟩
    · exact absurd hanswered' (hnone p' reply')
  case unanswered =>
    intro hnone
    rcases hends with ⟨p, reply, hanswered, -⟩ | ⟨-, sent, f, hrun, hcode⟩
    · exact absurd hanswered (hnone p reply)
    · rw [hrun]
      exact ⟨hcode, rfl⟩

/-- A command line over a stream that is interrupted, takes the frame in two parts, and delivers the
greeting and the reply in two parts. -/
theorem endsAsAnswered_of_split_reply :
    ∃ (s : Surroundings) (i : Invocation),
      Invocation.read ["--format", "raw", "io", "3", "on", "--id", "io-1"] = .ok i ∧
      s.network = .serving [⟨[.bytes (Utf8.octets "FREE|0#\r\n#FR"),
        .fault (.ofKind .interrupted), .bytes (Utf8.octets "EE|io-1#")], [.upTo 4], []⟩] ∧
      i.EndsAsAnswered s (.output "3" true) (some "io-1") ⟨"5s", "30s", false, false⟩ ∧
      (i.run s).ending.exitCode = ExitCode.success ∧
      (i.run s).sent = [Utf8.octets "10|0||0|3|true|||0|io-1#"] ∧
      (i.shown.run s).printed = Utf8.octets "10|0||0|3|true|||0|io-1#\n" := by
  refine ⟨⟨.serving [⟨[.bytes (Utf8.octets "FREE|0#\r\n#FR"),
      .fault (.ofKind .interrupted), .bytes (Utf8.octets "EE|io-1#")], [.upTo 4], []⟩],
      .unlimited, false, ""⟩,
    ⟨some .raw, ⟨Endpoint.defaultHost, Endpoint.defaultCommandPort, Endpoint.defaultLogPort⟩,
      .request (.output "3" true) (some "io-1") ⟨"5s", "30s", false, false⟩⟩,
    rfl, rfl, endsAsAnswered rfl rfl rfl, ?_, ?_, ?_⟩
  · decide +kernel
  · decide +kernel
  · decide +kernel

end Request

end Invocation

end MotionLink
