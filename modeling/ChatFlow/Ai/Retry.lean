import ChatFlow.Error
import ChatFlow.Settings
import ChatFlow.Text.Ascii
import ChatFlow.Text.Search
import ChatFlow.Word

/-!
# Asking again

A request to the text generator that fails for a passing reason is made again after a while, a
limited number of times.  The while doubles with every attempt up to a limit.
-/

namespace ChatFlow
namespace Ai

/-- What the text of a passing failure mentions. -/
def passingMarks : List String :=
  ["429", "500", "502", "503", "504", "timeout", "timed out", "connection"]

/-- Whether an error may be gone when the request is made again. -/
def isPassing : Error → Bool
  | .aiRequest message =>
    let text := Text.lowerAscii message
    passingMarks.any fun mark => Text.contains text mark
  | _ => false

/-- The power of two with an exponent, or the largest word when it does not fit into one. -/
def powerOfTwo (exponent : Nat) : Nat :=
  Word.saturate (1 <<< min exponent 64)

/-- The milliseconds to wait after an attempt, before they are varied at random. -/
def backoff (settings : RetrySettings) (attempt : Nat) : Nat :=
  min (Word.saturate (settings.initialBackoffMs * powerOfTwo attempt)) settings.maxBackoffMs

/-- Asks up to `left` further times, the first of them being attempt number `attempt`. -/
def askFurther [Monad m] (settings : RetrySettings) (wait : Nat → m Unit)
    (ask : m (Except Error α)) : (left : Nat) → (attempt : Nat) → m (Except Error α)
  | 0, _ => ask
  | left + 1, attempt => do
    match ← ask with
    | .ok value => return .ok value
    | .error error =>
      if isPassing error then
        wait (backoff settings attempt)
        askFurther settings wait ask left (attempt + 1)
      else return .error error

/-- Asks, and asks again while that fails for passing reasons. -/
def askPatiently [Monad m] (settings : RetrySettings) (wait : Nat → m Unit)
    (ask : m (Except Error α)) : m (Except Error α) :=
  askFurther settings wait ask settings.maxRetries 0

end Ai
end ChatFlow
