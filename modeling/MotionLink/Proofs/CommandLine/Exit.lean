import MotionLink.CommandLine.Exit

/-!
# Failures show

Whatever the cause of a failure, its code is not the one that tells that all went well.

## Main results

* `ExitCode.ofFaultKind_ne_success` — no kind of fault has the code of success
* `Failure.code_ofLink_ne_success` and others — so no failure has it
-/

namespace MotionLink

theorem ExitCode.ofFaultKind_ne_success (kind : FaultKind) : ofFaultKind kind ≠ success := by
  cases kind <;> decide

namespace Failure

theorem code_ofCommand_ne_success (context : String) (e : CommandError) :
    (ofCommand context e).code ≠ ExitCode.success :=
  (by decide : ExitCode.invalidData ≠ ExitCode.success)

theorem code_ofDuration_ne_success (e : DurationError) :
    (ofDuration e).code ≠ ExitCode.success :=
  (by decide : ExitCode.usage ≠ ExitCode.success)

theorem code_ofTransport_ne_success (context : String) (e : TransportError) :
    (ofTransport context e).code ≠ ExitCode.success := by
  cases e with
  | refused address => exact (by decide : ExitCode.transport ≠ ExitCode.success)
  | connect address f =>
    change (if f.kind = .timedOut then ExitCode.timeout else ExitCode.transport) ≠ ExitCode.success
    split <;> decide
  | resolve address f => exact (by decide : ExitCode.usage ≠ ExitCode.success)
  | fault f => exact ExitCode.ofFaultKind_ne_success f.kind

theorem code_ofFrame_ne_success (context : String) (e : FrameError) :
    (ofFrame context e).code ≠ ExitCode.success := by
  cases e with
  | fault f => exact ExitCode.ofFaultKind_ne_success f.kind
  | closed => exact (by decide : ExitCode.failure ≠ ExitCode.success)
  | terminatorInPayload offset => exact (by decide : ExitCode.invalidData ≠ ExitCode.success)
  | payloadTooLarge size limit => exact (by decide : ExitCode.invalidData ≠ ExitCode.success)

theorem code_ofLink_ne_success (context : String) (e : LinkError) :
    (ofLink context e).code ≠ ExitCode.success := by
  cases e with
  | transport e => exact code_ofTransport_ne_success context e
  | frame e => exact code_ofFrame_ne_success context e
  | command e => exact code_ofCommand_ne_success context e
  | timeout limit => exact (by decide : ExitCode.timeout ≠ ExitCode.success)
  | closed => exact (by decide : ExitCode.failure ≠ ExitCode.success)
  | reset f => exact (by decide : ExitCode.failure ≠ ExitCode.success)
  | broken => exact (by decide : ExitCode.failure ≠ ExitCode.success)
  | stopped => exact (by decide : ExitCode.internal ≠ ExitCode.success)

end Failure

end MotionLink
