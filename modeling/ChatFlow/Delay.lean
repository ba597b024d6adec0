import ChatFlow.Flow.Node
import ChatFlow.Time.Span

/-!
# Waits of delay nodes

A delay node says how long to wait: a number of seconds, minutes or hours.  A wait that is
missing, negative or no number is the default one, and none is longer than 366 days.
-/

namespace ChatFlow
namespace Delay

/-- The longest wait: 366 days. -/
def longest : Span := Span.ofSeconds (366 * 24 * 3600)

/-- The seconds of a unit of time, by any of its names; seconds when in doubt. -/
def unitSeconds (name : String) : Nat :=
  match Text.lowerAscii (Text.trim name) with
  | "m" | "min" | "mins" | "minute" | "minutes" => 60
  | "h" | "hr" | "hour" | "hours" => 3600
  | _ => 1

/-- The span of a number of seconds that is not negative, rounded to the nearest nanosecond, but
no longer than the longest wait. -/
def ofSeconds (amount : Double) : Span :=
  if !amount.isFinite then longest
  else
    let (numerator, denominator) := amount.ratio
    let span : Span := ⟨roundHalfEven (numerator * nanosPerSecond) denominator⟩
    if span ≤ longest then span else longest

/-- How long a delay node waits. -/
def span (default : Span) (node : Flow.Node) : Span :=
  match node.number? ["delay", "duration", "seconds"] with
  | none => default
  | some amount =>
    if !amount.isFinite || (amount.isNegative && !amount.isZero) then default
    else
      let unit := (node.text? ["unit", "delayUnit"]).getD "seconds"
      ofSeconds (amount.multiply (Double.ofNat (unitSeconds unit)))

/-- A wait that is computed from a number is at most the longest one. -/
theorem ofSeconds_le_longest (amount : Double) : ofSeconds amount ≤ longest := by
  unfold ofSeconds
  split
  · exact Nat.le_refl _
  · simp only
    split
    · assumption
    · exact Nat.le_refl _

/-- A wait is the default one or at most the longest one. -/
theorem span_eq_default_or_le (default : Span) (node : Flow.Node) :
    span default node = default ∨ span default node ≤ longest := by
  unfold span
  split
  · exact .inl rfl
  · split
    · exact .inl rfl
    · exact .inr (ofSeconds_le_longest _)

end Delay
end ChatFlow
