import ChatFlow.Proofs.Outbound.Cutting
import ChatFlow.Proofs.Text.Cuts
import Mathlib.Order.Lattice

/-!
# Where the chunks stand in a text

The chunks of a text stand in it one behind the other, with nothing between two pieces of a line
and a newline where a line ends.  Beyond these newlines only blank lines are lost, and only at two
places: at the start of the text, and behind a chunk that the limit leaves no room in.  The text
can be put together again from its chunks exactly when no blank line is lost.
-/

namespace ChatFlow
namespace Outbound

variable {limit lost : Nat} {text current line : List Char} {lines chunks : List (List Char)}

/-! ## Placed chunks -/

/-- A chunk at its place in a text. -/
structure Placed where
  /-- The chunk. -/
  chunk : List Char
  /-- How many blank lines behind the chunk are lost. -/
  lost : Nat := 0
  /-- Whether a line ends behind the chunk, and not only a piece of a line. -/
  endsLine : Bool := false

/-- Newlines in a row. -/
def newlines (count : Nat) : List Char :=
  List.replicate count '\n'

/-- The newline that ends a line behind a chunk. -/
def Placed.mark (placed : Placed) : List Char :=
  newlines placed.endsLine.toNat

/-- The text over which chunks are spread. -/
def spread : List Placed → List Char
  | [] => []
  | [placed] => placed.chunk ++ newlines placed.lost
  | placed :: next :: rest =>
      placed.chunk ++ newlines placed.lost ++ placed.mark ++ spread (next :: rest)

/-- A text begins with something else than a newline. -/
def Opens (text : List Char) : Prop :=
  ∃ c rest, text = c :: rest ∧ c ≠ '\n'

/-- A chunk begins with something else than a newline and is within the limit; only behind a full
chunk at the end of a line blank lines are lost. -/
structure Placed.Sound (limit : Nat) (placed : Placed) : Prop where
  /-- The chunk begins with something else than a newline. -/
  opens : Opens placed.chunk
  /-- The chunk is within the limit. -/
  fits : byteSize placed.chunk ≤ limit
  /-- Blank lines are lost behind a full chunk only. -/
  full : 0 < placed.lost → byteSize placed.chunk = limit
  /-- Blank lines are lost at the end of a line only. -/
  ends : 0 < placed.lost → placed.endsLine = true

@[simp] theorem newlines_zero : newlines 0 = [] := rfl

theorem newlines_succ (count : Nat) : newlines (count + 1) = '\n' :: newlines count := rfl

theorem Opens.ne_nil (opens : Opens text) : text ≠ [] := by
  obtain ⟨c, rest, rfl, -⟩ := opens
  exact List.cons_ne_nil c rest

theorem Opens.append (opens : Opens text) (rest : List Char) : Opens (text ++ rest) := by
  obtain ⟨c, further, rfl, dark⟩ := opens
  exact ⟨c, further ++ rest, rfl, dark⟩

/-- What is not empty and holds no newline begins with something else. -/
theorem opens_of_not_mem (filled : text ≠ []) (plain : '\n' ∉ text) : Opens text := by
  obtain ⟨c, rest, rfl⟩ := List.exists_cons_of_ne_nil filled
  refine ⟨c, rest, rfl, ?_⟩
  rintro rfl
  exact plain List.mem_cons_self

theorem spread_cons_of_ne_nil
    {body : List Placed}
    (filled : body ≠ [])
    (placed : Placed) :
    spread (placed :: body) =
      placed.chunk ++ newlines placed.lost ++ placed.mark ++ spread body := by
  cases body with
  | nil => exact absurd rfl filled
  | cons next rest => rfl

/-- The pieces of a line stand one behind the other. -/
theorem spread_pieces
    {body : List Placed}
    (filled : body ≠ [])
    (fronts : List (List Char)) :
    spread (fronts.map (fun front => { chunk := front }) ++ body) =
      fronts.flatten ++ spread body := by
  induction fronts with
  | nil => rfl
  | cons front fronts inductionHypothesis =>
      rw [List.map_cons, List.cons_append, spread_cons_of_ne_nil (by simp [filled]),
        inductionHypothesis]
      simp [Placed.mark]

/-- What chunks are spread over begins with something else than a newline. -/
theorem opens_spread
    {placed : Placed}
    (opens : Opens placed.chunk)
    (body : List Placed) :
    Opens (spread (placed :: body)) := by
  cases body with
  | nil => exact opens.append _
  | cons next rest =>
      rw [spread_cons_of_ne_nil (List.cons_ne_nil next rest)]
      exact ((opens.append _).append _).append _

/-! ## Laying out chunks -/

/-- Chunks are laid out in a text. -/
structure LaidOut (limit : Nat) (chunks : List (List Char)) (text : List Char)
    (body : List Placed) : Prop where
  /-- There is a chunk. -/
  filled : body ≠ []
  /-- The chunks are these. -/
  chunks_eq : chunks = body.map Placed.chunk
  /-- The text is this. -/
  text_eq : text = spread body
  /-- Every chunk is sound. -/
  sound : ∀ placed ∈ body, placed.Sound limit

/-- The last chunk, with the blank lines behind it. -/
theorem laidOut_last
    (lost : Nat)
    (opens : Opens current)
    (fits : byteSize current ≤ limit)
    (full : 0 < lost → byteSize current = limit) :
    LaidOut limit [current] (current ++ newlines lost)
      [{ chunk := current, lost, endsLine := true }] where
  filled := List.cons_ne_nil _ _
  chunks_eq := rfl
  text_eq := rfl
  sound := by
    rintro placed (_ | ⟨_, ⟨⟩⟩)
    exact ⟨opens, fits, full, fun _ => rfl⟩

/-- A chunk that ends a line, with the blank lines behind it and more chunks behind these. -/
theorem LaidOut.behind
    {body : List Placed}
    (laid : LaidOut limit chunks text body)
    (lost : Nat)
    (opens : Opens current)
    (fits : byteSize current ≤ limit)
    (full : 0 < lost → byteSize current = limit) :
    LaidOut limit (current :: chunks) (current ++ (newlines lost ++ '\n' :: text))
      ({ chunk := current, lost, endsLine := true } :: body) where
  filled := List.cons_ne_nil _ _
  chunks_eq := by rw [laid.chunks_eq]; rfl
  text_eq := by
    rw [spread_cons_of_ne_nil laid.filled, laid.text_eq]
    simp [Placed.mark, newlines]
  sound := by
    rintro placed (_ | ⟨_, member⟩)
    · exact ⟨opens, fits, full, fun _ => rfl⟩
    · exact laid.sound placed member

/-- The first pieces of a line, with the chunk behind them that begins with the last one. -/
theorem LaidOut.pieces
    {body : List Placed}
    {fronts : List (List Char)}
    (laid : LaidOut limit chunks text body)
    (within : ∀ front ∈ fronts, front ≠ [] ∧ byteSize front ≤ limit)
    (plain : '\n' ∉ fronts.flatten) :
    LaidOut limit (fronts ++ chunks) (fronts.flatten ++ text)
      (fronts.map (fun front => { chunk := front }) ++ body) where
  filled := by simp [laid.filled]
  chunks_eq := by
    rw [laid.chunks_eq, List.map_append, List.map_map]
    simp [Function.comp_def]
  text_eq := by rw [spread_pieces laid.filled, laid.text_eq]
  sound := by
    intro placed member
    rcases List.mem_append.mp member with member | member
    · obtain ⟨front, listed, rfl⟩ := List.mem_map.mp member
      obtain ⟨filled, fits⟩ := within front listed
      refine ⟨opens_of_not_mem filled ?_, fits, by simp, by simp⟩
      intro broken
      exact plain (List.mem_flatten.mpr ⟨front, listed, broken⟩)
    · exact laid.sound placed member

/-! ## Packing lays out -/

/-- Lines, each of them behind a newline. -/
def followed (lines : List (List Char)) : List Char :=
  lines.flatMap ('\n' :: ·)

theorem followed_cons (line : List Char) (lines : List (List Char)) :
    followed (line :: lines) = '\n' :: (line ++ followed lines) := rfl

/-- A chunk that something is in is laid out together with the lines behind it. -/
def Continues (limit : Nat) (lines : List (List Char)) : Prop :=
  ∀ current, Opens current → byteSize current ≤ limit →
    ∃ body, LaidOut limit (pack limit current lines) (current ++ followed lines) body

/-- When nothing is in the chunk yet, blank lines are lost up to the next line that is not blank,
where the next chunk begins. -/
inductive Begins (limit : Nat) (lines : List (List Char)) : Prop
  /-- All lines are blank. -/
  | never (lost : Nat) (none : pack limit [] lines = []) (blank : followed lines = newlines lost)
  /-- A chunk begins. -/
  | later (lost : Nat) {text : List Char} {body : List Placed}
      (laid : LaidOut limit (pack limit [] lines) text body)
      (behind : followed lines = newlines lost ++ '\n' :: text)

/-- A line that is cut is laid out together with the lines behind it. -/
theorem Continues.exists_laidOut_pieces
    {fronts : List (List Char)}
    {last : List Char}
    (continues : Continues limit lines)
    (plain : '\n' ∉ fronts.flatten ++ last)
    (within : ∀ front ∈ fronts, front ≠ [] ∧ byteSize front ≤ limit)
    (lastFits : byteSize last ≤ limit)
    (lastFilled : last ≠ []) :
    ∃ body, LaidOut limit (fronts ++ pack limit last lines)
      (fronts.flatten ++ last ++ followed lines) body := by
  rw [List.mem_append, not_or] at plain
  obtain ⟨body, laid⟩ := continues last (opens_of_not_mem lastFilled plain.2) lastFits
  rw [List.append_assoc]
  exact ⟨_, laid.pieces within plain.1⟩

theorem continues_nil (limit : Nat) : Continues limit [] := by
  intro current opens fits
  rw [pack, filled, if_neg (by simpa using opens.ne_nil)]
  exact ⟨_, laidOut_last 0 opens fits (by simp)⟩

/-- The chunk that is being filled takes the next line in, or it is closed.  A blank line that it
does not take in is lost. -/
theorem Continues.cons
    (continues : Continues limit lines)
    (begins : Begins limit lines)
    (least : leastLimit ≤ limit)
    (plain : '\n' ∉ line) :
    Continues limit (line :: lines) := by
  intro current opens fits
  by_cases joins : byteSize (joined current line) ≤ limit
  · rw [pack_of_fits joins]
    rw [joined_of_ne_nil opens.ne_nil] at joins ⊢
    obtain ⟨body, laid⟩ := continues _ (opens.append ('\n' :: line)) joins
    rw [List.append_assoc] at laid
    exact ⟨body, laid⟩
  · obtain ⟨fronts, last, rfl, within, lastFits, lastFilled, short, packed⟩ :=
      exists_pack_of_long least (Nat.lt_of_not_le joins) lines
    have closed : filled current = [current] := by simp [filled, opens.ne_nil]
    rw [packed, closed, followed_cons]
    by_cases blank : fronts.flatten ++ last = []
    · have full : byteSize current = limit := by
        have one : '\n'.utf8Size = 1 := by decide
        rw [joined_of_ne_nil opens.ne_nil, blank, byteSize_append, byteSize_cons, byteSize_nil]
          at joins
        omega
      obtain rfl := short (by rw [blank]; exact Nat.zero_le limit)
      obtain rfl : last = [] := blank
      cases begins with
      | never lost none blank =>
          have laid := laidOut_last (lost + 1) opens fits fun _ => full
          rw [none, blank]
          exact ⟨_, laid⟩
      | @later lost text body laid behind =>
          have laidBehind := laid.behind (lost + 1) opens fits fun _ => full
          rw [behind]
          exact ⟨_, laidBehind⟩
    · obtain ⟨body, laid⟩ :=
        continues.exists_laidOut_pieces plain within lastFits (lastFilled blank)
      have laidBehind := laid.behind 0 opens fits (by simp)
      exact ⟨_, laidBehind⟩

theorem begins_nil (limit : Nat) : Begins limit [] :=
  .never 0 rfl rfl

/-- A chunk begins with the next line, unless this is blank. -/
theorem Begins.cons
    (continues : Continues limit lines)
    (begins : Begins limit lines)
    (least : leastLimit ≤ limit)
    (plain : '\n' ∉ line) :
    Begins limit (line :: lines) := by
  by_cases blank : line = []
  · subst blank
    have joins : byteSize (joined [] []) ≤ limit := Nat.zero_le limit
    have packed := pack_of_fits joins lines
    rw [joined_nil] at packed
    cases begins with
    | never lost none blank =>
        exact .never (lost + 1) (packed.trans none) (by rw [followed_cons, blank]; rfl)
    | @later lost text body laid behind =>
        rw [← packed] at laid
        exact .later (lost + 1) laid (by rw [followed_cons, behind]; rfl)
  · by_cases joins : byteSize (joined [] line) ≤ limit
    · have packed := pack_of_fits joins lines
      rw [joined_nil] at joins packed
      obtain ⟨body, laid⟩ := continues line (opens_of_not_mem blank plain) joins
      rw [← packed] at laid
      exact .later 0 laid (followed_cons line lines)
    · obtain ⟨fronts, last, rfl, within, lastFits, lastFilled, -, packed⟩ :=
        exists_pack_of_long least (Nat.lt_of_not_le joins) lines
      obtain ⟨body, laid⟩ :=
        continues.exists_laidOut_pieces plain within lastFits (lastFilled blank)
      rw [filled, List.isEmpty_nil, if_pos rfl, List.nil_append] at packed
      rw [← packed] at laid
      exact .later 0 laid (followed_cons _ lines)

/-- Lines are laid out wherever they are packed. -/
theorem continues_and_begins
    (least : leastLimit ≤ limit)
    (plain : ∀ line ∈ lines, '\n' ∉ line) :
    Continues limit lines ∧ Begins limit lines := by
  induction lines with
  | nil => exact ⟨continues_nil limit, begins_nil limit⟩
  | cons line lines inductionHypothesis =>
      obtain ⟨continues, begins⟩ :=
        inductionHypothesis fun other member => plain other (List.mem_cons_of_mem line member)
      have plainLine := plain line List.mem_cons_self
      exact ⟨continues.cons begins least plainLine, begins.cons continues least plainLine⟩

/-! ## The chunks of a text -/

/-- The chunks of a text over the limit stand in it behind the blank lines at its start. -/
theorem exists_layout (large : max limit leastLimit < byteSize text) :
    ∃ lost body, chunksOfChars limit text = body.map Placed.chunk ∧
      text = newlines lost ++ spread body ∧
      ∀ placed ∈ body, placed.Sound (max limit leastLimit) := by
  have whole : followed (Text.splitOnChar '\n' text) = '\n' :: text :=
    Text.flatMap_splitOnChar '\n' text
  rw [chunksOfChars_of_lt large]
  -- The lines have one newline more in front of them than the text.
  cases (continues_and_begins (le_max_right limit leastLimit)
      fun line member => Text.not_mem_of_mem_splitOnChar member).2 with
  | never lost none blank =>
      refine ⟨lost - 1, [], none, ?_, by simp⟩
      rw [whole] at blank
      cases lost with
      | zero => cases blank
      | succ lost =>
          rw [spread, List.append_nil]
          exact List.tail_eq_of_cons_eq blank
  | @later lost rest body laid behind =>
      refine ⟨lost, body, laid.chunks_eq, ?_, laid.sound⟩
      rw [whole] at behind
      have moved : newlines lost ++ '\n' :: rest = '\n' :: (newlines lost ++ rest) := by
        rw [newlines, ← List.cons_append, ← List.replicate_succ, List.replicate_succ',
          List.append_assoc]
        rfl
      rw [← laid.text_eq]
      exact List.tail_eq_of_cons_eq (behind.trans moved)

end Outbound
end ChatFlow
