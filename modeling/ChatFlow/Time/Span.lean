import ChatFlow.Word

/-!
# Spans and instants

A span is a length of time and an instant a point in time, both in whole nanoseconds; an instant
counts from the beginning of 1970.  Calendar and text are in `ChatFlow.Time.Calendar` and
`ChatFlow.Time.Timestamp`.
-/

namespace ChatFlow

/-- The nanoseconds of a second. -/
def nanosPerSecond : Nat := 1000000000

/-- The nanoseconds of a millisecond. -/
def nanosPerMilli : Nat := 1000000

/-- A length of time. -/
structure Span where
  /-- The length in nanoseconds. -/
  nanos : Nat
deriving DecidableEq, Inhabited, Repr

namespace Span

/-- No time at all. -/
def zero : Span := ⟨0⟩

/-- A number of seconds. -/
def ofSeconds (seconds : Nat) : Span := ⟨seconds * nanosPerSecond⟩

/-- A number of milliseconds. -/
def ofMillis (millis : Nat) : Span := ⟨millis * nanosPerMilli⟩

/-- The whole milliseconds of a span. -/
def millis (span : Span) : Nat := span.nanos / nanosPerMilli

/-- The longest span that a wait can be computed with: as many milliseconds as a signed integer
of sixty-four bits holds. -/
def longest : Span := ofMillis (Word.signedCount - 1)

instance : LE Span := ⟨fun left right => left.nanos ≤ right.nanos⟩

instance (left right : Span) : Decidable (left ≤ right) :=
  inferInstanceAs (Decidable (left.nanos ≤ right.nanos))

instance : Add Span := ⟨fun left right => ⟨left.nanos + right.nanos⟩⟩

end Span

/-- A point in time. -/
structure Instant where
  /-- The nanoseconds since the beginning of 1970. -/
  nanos : Int
deriving DecidableEq, Inhabited, Repr

namespace Instant

instance : LT Instant := ⟨fun left right => left.nanos < right.nanos⟩

instance (left right : Instant) : Decidable (left < right) :=
  inferInstanceAs (Decidable (left.nanos < right.nanos))

instance : LE Instant := ⟨fun left right => left.nanos ≤ right.nanos⟩

instance (left right : Instant) : Decidable (left ≤ right) :=
  inferInstanceAs (Decidable (left.nanos ≤ right.nanos))

/-- The instant a span later. -/
def after (instant : Instant) (span : Span) : Instant :=
  ⟨instant.nanos + span.nanos⟩

/-- The instant some milliseconds later, or earlier when there are fewer than none. -/
def shiftMillis (instant : Instant) (millis : Int) : Instant :=
  ⟨instant.nanos + millis * nanosPerMilli⟩

/-- The signed nanoseconds from one instant to another. -/
def since (later earlier : Instant) : Int :=
  later.nanos - earlier.nanos

/-- The first instant that a time can be: the beginning of the year -262143. -/
def earliest : Instant := ⟨-8334601228800000000000⟩

/-- The last instant that a time can be: the end of the year 262142. -/
def latest : Instant := ⟨8210266876799999999999⟩

/-- The span from one instant to a later one; none at all when it is not later. -/
def spanUntil (earlier later : Instant) : Span :=
  ⟨(later.nanos - earlier.nanos).toNat⟩

end Instant

/-- A span later is not earlier. -/
theorem Instant.le_after (instant : Instant) (span : Span) : instant ≤ instant.after span := by
  show instant.nanos ≤ instant.nanos + span.nanos
  omega

end ChatFlow
