import ChatFlow.Engine.Inbound
import ChatFlow.Ingress.Pool

/-!
# Engines as handlers

The messages that workers take are handled by an engine.  What became of a message does not matter
to the workers: whatever the outcome, the message was handled.  Only when there is no outcome did
the try fail.
-/

namespace ChatFlow

/-- Handles a message, whatever becomes of it. -/
def Engine.handle (engine : Engine) (message : InboundMessage) : Process Unit := do
  let _ ← engine.handleInbound message

/-- How a try ends whose process has come to a result. -/
def Ingress.Verdict.ofResult : Except Fault Unit → Ingress.Verdict
  | .ok () => .done
  | .error (.error error) => .failed error
  | .error (.panic reason) => .panicked reason

end ChatFlow
