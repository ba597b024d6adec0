import ChatFlow.Settings.Environment
import Mathlib.Data.List.Basic
import Mathlib.Data.Nat.Find

/-!
# References to the environment

A text falls into complete references and other characters, from left to right.  Every complete
reference to a variable that is set gives way to its value, which is not looked at again, and
everything else is copied; but a reference that is not closed before the end of the text is taken
for a complete one.
-/

namespace ChatFlow
namespace Environment

/-- A complete reference, as it is written. -/
def quoted (name : List Char) : List Char :=
  '$' :: '\x7b' :: (name ++ ['\x7d'])

/-- A complete reference starts at the front. -/
def Opens (characters : List Char) : Prop :=
  ∃ name rest, '\x7d' ∉ name ∧ characters = quoted name ++ rest

/-- A piece of a text. -/
inductive Piece where
  /-- A character that is copied. -/
  | character (c : Char)
  /-- A complete reference to a variable. -/
  | reference (name : List Char)

/-- A piece as it is written. -/
def Piece.written : Piece → List Char
  | .character c => [c]
  | .reference name => quoted name

/-- What a piece gives way to: the value of a variable that is set, else the piece itself. -/
def Piece.replaced (environment : Environment) : Piece → List Char
  | .character c => [c]
  | .reference name =>
    match environment.get? (String.ofList name) with
    | some value => value.toList
    | none => quoted name

/-- The pieces of a text, from left to right. -/
inductive FallsInto : List Char → List Piece → Prop
  /-- Nothing is left. -/
  | done : FallsInto [] []
  /-- A complete reference is one piece. -/
  | reference {name rest : List Char} {pieces : List Piece} (closed : '\x7d' ∉ name)
      (further : FallsInto rest pieces) :
      FallsInto (quoted name ++ rest) (.reference name :: pieces)
  /-- A character with which no complete reference starts is one piece. -/
  | character {c : Char} {rest : List Char} {pieces : List Piece} (plain : ¬ Opens (c :: rest))
      (further : FallsInto rest pieces) :
      FallsInto (c :: rest) (.character c :: pieces)

/-- Every reference that begins in a text is closed. -/
def Closed (characters : List Char) : Prop :=
  ∀ before behind, characters = before ++ '$' :: '\x7b' :: behind → '\x7d' ∈ behind

/-- A reference that is not closed begins behind a front, and none begins in the front. -/
structure Unclosed (front name characters : List Char) : Prop where
  /-- The reference goes on to the end of the text. -/
  characters_eq : characters = front ++ '$' :: '\x7b' :: name
  /-- The reference is not closed. -/
  not_mem_name : '\x7d' ∉ name
  /-- References in the front are closed. -/
  closed_front : Closed front

variable {environment : Environment} {characters front name rest : List Char} {c : Char}
  {pieces : List Piece}

/-! ## Closed and open ends -/

/-- References in the end of a text are closed when all of its references are. -/
theorem Closed.of_append (closed : Closed (front ++ rest)) : Closed rest := by
  intro before behind whole
  apply closed (front ++ before)
  rw [whole, List.append_assoc]

/-- Where not every reference is closed, there is a first one that is not. -/
theorem exists_unclosed (unclosed : ¬ Closed characters) :
    ∃ front name, Unclosed front name characters := by
  have begins : ∃ length before behind, characters = before ++ '$' :: '\x7b' :: behind ∧
      '\x7d' ∉ behind ∧ before.length = length := by
    simp only [Closed, not_forall] at unclosed
    obtain ⟨before, behind, whole, absent⟩ := unclosed
    exact ⟨_, before, behind, whole, absent, rfl⟩
  classical
  obtain ⟨front, name, whole, absent, length⟩ := Nat.find_spec begins
  refine ⟨front, name, whole, absent, fun before behind inside => ?_⟩
  -- An open reference in the front would be an earlier one that goes on to the end.
  by_contra missing
  have shorter : before.length < Nat.find begins := by
    rw [← length, inside, List.length_append]
    exact Nat.lt_add_of_pos_right (Nat.zero_lt_succ _)
  apply Nat.find_min begins shorter
  refine ⟨before, behind ++ '$' :: '\x7b' :: name, ?_, ?_, rfl⟩
  · rw [whole, inside, List.append_assoc]
    rfl
  · simp [missing, absent]

/-- What holds of a text is shown from left to right: for complete references, for a reference that
is not closed and for other characters. -/
theorem reference_induction
    {motive : List Char → Prop}
    (done : motive [])
    (reference : ∀ name rest, '\x7d' ∉ name → motive rest → motive (quoted name ++ rest))
    (unclosed : ∀ name, '\x7d' ∉ name → motive ('$' :: '\x7b' :: name))
    (character : ∀ c rest, ¬ ['$', '\x7b'] <+: c :: rest → motive rest → motive (c :: rest))
    (characters : List Char) :
    motive characters := by
  induction length : characters.length using Nat.strongRecOn generalizing characters with
  | _ _ inductionHypothesis =>
    subst length
    cases characters with
    | nil => exact done
    | cons c rest =>
        by_cases begins : ['$', '\x7b'] <+: c :: rest
        · obtain ⟨inner, whole⟩ := begins
          rw [← whole]
          by_cases closed : '\x7d' ∈ inner
          · obtain ⟨name, behind, rfl, absent⟩ := List.eq_append_cons_of_mem closed
            have split : ['$', '\x7b'] ++ (name ++ '\x7d' :: behind) =
                quoted name ++ behind := by
              simp [quoted]
            rw [split] at whole ⊢
            apply reference name behind absent
            apply inductionHypothesis _ _ behind rfl
            rw [← whole, List.length_append]
            exact Nat.lt_add_of_pos_left (Nat.zero_lt_succ _)
          · exact unclosed inner closed
        · exact character c rest begins (inductionHypothesis _ (Nat.lt_succ_self _) rest rfl)

/-! ## The pieces -/

/-- No complete reference starts where none is begun. -/
theorem not_opens_of_not_begins (plain : ¬ ['$', '\x7b'] <+: characters) : ¬ Opens characters := by
  rintro ⟨name, rest, _, rfl⟩
  exact plain ⟨name ++ ['\x7d'] ++ rest, rfl⟩

/-- Without a closing brace there is no complete reference. -/
theorem fallsInto_of_not_mem (absent : '\x7d' ∉ characters) :
    FallsInto characters (characters.map .character) := by
  induction characters with
  | nil => exact .done
  | cons c rest inductionHypothesis =>
      apply FallsInto.character
      · rintro ⟨name, behind, _, whole⟩
        apply absent
        rw [whole]
        simp [quoted]
      · exact inductionHypothesis fun member => absent (List.mem_cons_of_mem c member)

/-- A name goes up to the closing brace. -/
theorem takeWhile_name (closed : '\x7d' ∉ name) (rest : List Char) :
    (name ++ '\x7d' :: rest).takeWhile (· != '\x7d') = name := by
  have inside : ∀ c ∈ name, (c != '\x7d') = true := by
    intro c member
    rw [bne_iff_ne]
    rintro rfl
    exact closed member
  rw [List.takeWhile_append_of_pos inside, List.takeWhile_cons_of_neg (by decide), List.append_nil]

/-- Two complete references at the same front are the same. -/
theorem quoted_append_inj
    {other further : List Char}
    (closed : '\x7d' ∉ name)
    (closedToo : '\x7d' ∉ other)
    (same : quoted name ++ rest = quoted other ++ further) :
    name = other ∧ rest = further := by
  simp only [quoted, List.cons_append, List.append_assoc, List.nil_append, List.cons.injEq,
    true_and] at same
  have names := congrArg (List.takeWhile (· != '\x7d')) same
  rw [takeWhile_name closed, takeWhile_name closedToo] at names
  subst names
  exact ⟨rfl, List.tail_eq_of_cons_eq (List.append_cancel_left same)⟩

/-- The pieces of a text are determined. -/
theorem FallsInto.unique
    {other : List Piece}
    (falls : FallsInto characters pieces)
    (otherwise : FallsInto characters other) :
    other = pieces := by
  induction falls generalizing other with
  | done =>
      cases otherwise
      rfl
  | @reference name rest pieces closed further inductionHypothesis =>
      generalize whole : quoted name ++ rest = characters at otherwise
      cases otherwise with
      | done => cases whole
      | reference closedToo furtherToo =>
          obtain ⟨rfl, rfl⟩ := quoted_append_inj closed closedToo whole
          rw [inductionHypothesis furtherToo]
      | character plain _ => exact absurd ⟨name, rest, closed, whole.symm⟩ plain
  | @character c rest pieces plain further inductionHypothesis =>
      generalize whole : c :: rest = characters at otherwise
      cases otherwise with
      | done => cases whole
      | reference closed _ => exact absurd ⟨_, _, closed, whole⟩ plain
      | character _ furtherToo =>
          cases whole
          rw [inductionHypothesis furtherToo]

/-- The pieces of a text make it up. -/
theorem FallsInto.flatMap_written (falls : FallsInto characters pieces) :
    pieces.flatMap Piece.written = characters := by
  induction falls with
  | done => rfl
  | reference _ _ inductionHypothesis =>
      rw [List.flatMap_cons, inductionHypothesis]
      rfl
  | character _ _ inductionHypothesis =>
      rw [List.flatMap_cons, inductionHypothesis]
      rfl

/-- Characters that are copied stay as they are. -/
theorem flatMap_replaced_character (environment : Environment) (characters : List Char) :
    (characters.map Piece.character).flatMap (Piece.replaced environment) = characters := by
  rw [List.flatMap_map]
  exact List.flatMap_singleton' characters

/-- A text stays as it is when none of its complete references is to a variable that is set. -/
theorem flatMap_replaced_of_unset
    (unset : ∀ name, .reference name ∈ pieces → environment.get? (String.ofList name) = none) :
    pieces.flatMap (Piece.replaced environment) = pieces.flatMap Piece.written := by
  apply List.flatMap_congr
  intro piece member
  cases piece with
  | character c => rfl
  | reference name => rw [Piece.replaced, unset name member, Piece.written]

/-! ## The scan -/

/-- A name is gathered up to the closing brace. -/
theorem expandFrom_name
    (environment : Environment)
    (closed : '\x7d' ∉ name)
    (gathered rest : List Char) :
    expandFrom environment (some gathered) (name ++ '\x7d' :: rest) =
      environment.refer (gathered.reverse ++ name) ++ expandFrom environment none rest := by
  induction name generalizing gathered with
  | nil => rw [List.nil_append, expandFrom, List.append_nil]
  | cons c name inductionHypothesis =>
      rw [List.mem_cons, not_or] at closed
      rw [List.cons_append, expandFrom, inductionHypothesis closed.2]
      · simp
      · exact fun same => closed.1 same.symm

/-- A name that is not closed is gathered up to the end. -/
theorem expandFrom_open
    (environment : Environment)
    (absent : '\x7d' ∉ name)
    (gathered : List Char) :
    expandFrom environment (some gathered) name = environment.refer (gathered.reverse ++ name) := by
  induction name generalizing gathered with
  | nil => rw [expandFrom, List.append_nil]
  | cons c name inductionHypothesis =>
      rw [List.mem_cons, not_or] at absent
      rw [expandFrom, inductionHypothesis absent.2]
      · simp
      · exact fun same => absent.1 same.symm

/-- A character with which no reference begins is copied. -/
theorem expandFrom_character
    (environment : Environment)
    (plain : ¬ ['$', '\x7b'] <+: c :: rest) :
    expandFrom environment none (c :: rest) = c :: expandFrom environment none rest := by
  rw [expandFrom]
  rintro further rfl rfl
  exact plain ⟨further, rfl⟩

/-- A reference gives way to the value of its variable, or stays. -/
theorem replaced_reference (environment : Environment) (name : List Char) :
    Piece.replaced environment (.reference name) = environment.refer name := by
  rw [Piece.replaced, refer]
  cases environment.get? (String.ofList name) <;> rfl

/-- A text whose references are closed is replaced piece by piece, whatever follows it; but an
opening brace would make a reference of a dollar sign at its end. -/
theorem Closed.scan (closed : Closed front) :
    ∃ before, FallsInto front before ∧ ∀ tail, tail.head? ≠ some '\x7b' →
      (∀ pieces, FallsInto tail pieces → FallsInto (front ++ tail) (before ++ pieces)) ∧
      ∀ environment, expandFrom environment none (front ++ tail) =
        before.flatMap (Piece.replaced environment) ++ expandFrom environment none tail := by
  induction front using reference_induction with
  | done => exact ⟨[], .done, fun _ _ => ⟨fun _ falls => falls, fun _ => rfl⟩⟩
  | reference name rest absent inductionHypothesis =>
      obtain ⟨before, falls, further⟩ := inductionHypothesis closed.of_append
      refine ⟨.reference name :: before, .reference absent falls, fun tail apart => ⟨?_, ?_⟩⟩
      · intro pieces fallsToo
        rw [List.append_assoc]
        exact .reference absent ((further tail apart).1 pieces fallsToo)
      · intro environment
        have gathered := expandFrom_name environment absent [] (rest ++ tail)
        rw [(further tail apart).2, List.reverse_nil, List.nil_append] at gathered
        rw [List.flatMap_cons, replaced_reference, List.append_assoc, List.append_assoc, ← gathered]
        simp [quoted, expandFrom]
  | unclosed name absent => exact absurd (closed [] name rfl) absent
  | character c rest plain inductionHypothesis =>
      have closedRest : Closed rest := (show Closed ([c] ++ rest) from closed).of_append
      obtain ⟨before, falls, further⟩ := inductionHypothesis closedRest
      refine ⟨.character c :: before, .character (not_opens_of_not_begins plain) falls,
        fun tail apart => ?_⟩
      have plainToo : ¬ ['$', '\x7b'] <+: c :: (rest ++ tail) := by
        cases rest with
        | nil =>
            rintro ⟨behind, whole⟩
            cases tail with
            | nil => cases whole
            | cons d tail =>
                cases whole
                exact apart rfl
        | cons d rest =>
            rintro ⟨behind, whole⟩
            cases whole
            exact plain ⟨rest, rfl⟩
      constructor
      · intro pieces fallsToo
        exact .character (not_opens_of_not_begins plainToo) ((further tail apart).1 pieces fallsToo)
      · intro environment
        rw [List.cons_append, expandFrom_character environment plainToo, (further tail apart).2]
        rfl

/-- A text whose references are closed is replaced piece by piece. -/
theorem Closed.exists_pieces (closed : Closed characters) :
    ∃ pieces, FallsInto characters pieces ∧ ∀ environment,
      expandFrom environment none characters = pieces.flatMap (Piece.replaced environment) := by
  obtain ⟨pieces, falls, further⟩ := closed.scan
  refine ⟨pieces, falls, fun environment => ?_⟩
  have scanned := (further [] nofun).2 environment
  rwa [List.append_nil, expandFrom, List.append_nil] at scanned

/-- A reference that is not closed is taken for a complete one, behind a front that is replaced
piece by piece; it is made of characters that should be copied. -/
theorem Unclosed.exists_pieces (unclosed : Unclosed front name characters) :
    ∃ before, FallsInto front before ∧
      FallsInto characters (before ++ ('$' :: '\x7b' :: name).map .character) ∧ ∀ environment,
        expandFrom environment none characters =
          before.flatMap (Piece.replaced environment) ++ environment.refer name := by
  obtain ⟨rfl, absent, closed⟩ := unclosed
  obtain ⟨before, falls, further⟩ := closed.scan
  obtain ⟨whole, scanned⟩ := further ('$' :: '\x7b' :: name) nofun
  refine ⟨before, falls, whole _ (fallsInto_of_not_mem ?_), fun environment => ?_⟩
  · simpa using absent
  · rw [scanned, expandFrom, expandFrom_open environment absent]
    rfl

/-- Every text falls into pieces. -/
theorem exists_fallsInto (characters : List Char) : ∃ pieces, FallsInto characters pieces := by
  by_cases closed : Closed characters
  · obtain ⟨pieces, falls, -⟩ := closed.exists_pieces
    exact ⟨pieces, falls⟩
  · obtain ⟨front, name, unclosed⟩ := exists_unclosed closed
    obtain ⟨before, -, falls, -⟩ := unclosed.exists_pieces
    exact ⟨_, falls⟩

/-- A reference stays unchanged without its closing brace only when it is its own value. -/
theorem refer_eq_iff :
    environment.refer name = '$' :: '\x7b' :: name ↔
      environment.get? (String.ofList name) = some (String.ofList ('$' :: '\x7b' :: name)) := by
  rw [refer]
  cases environment.get? (String.ofList name) with
  | none => simp
  | some value => rw [Option.some.injEq, ← String.toList_inj, String.toList_ofList]

/-- A text falls into complete references and characters that are copied, in one way.  It becomes
what these pieces give way to, exactly when no reference is left open at its end, or the rest of the
text from there on is the value of its own name.  A reference that is left open is taken for a
complete one: it gives way to the value of its variable, or gets a closing brace.  When no complete
reference is to a variable that is set, the pieces give way to the text itself. -/
theorem expands_exactly_iff (environment : Environment) (text : String) :
    ∃ pieces, FallsInto text.toList pieces ∧
      (∀ other, FallsInto text.toList other → other = pieces) ∧
      ((environment.expand text).toList = pieces.flatMap (Piece.replaced environment) ↔
        ∀ front name, Unclosed front name text.toList →
          environment.get? (String.ofList name) =
            some (String.ofList ('$' :: '\x7b' :: name))) ∧
      (∀ front name, Unclosed front name text.toList →
        ∃ before, FallsInto front before ∧
          pieces = before ++ ('$' :: '\x7b' :: name).map .character ∧
          (environment.expand text).toList =
            before.flatMap (Piece.replaced environment) ++ environment.refer name) ∧
      ((∀ name, .reference name ∈ pieces → environment.get? (String.ofList name) = none) →
        pieces.flatMap (Piece.replaced environment) = text.toList) := by
  have scanned : (environment.expand text).toList = expandFrom environment none text.toList :=
    String.toList_ofList
  rw [scanned]
  obtain ⟨pieces, falls⟩ := exists_fallsInto text.toList
  have ends : ∀ front name, Unclosed front name text.toList → ∃ before, FallsInto front before ∧
      pieces = before ++ ('$' :: '\x7b' :: name).map .character ∧
      expandFrom environment none text.toList =
        before.flatMap (Piece.replaced environment) ++ environment.refer name := by
    intro front name unclosed
    obtain ⟨before, inFront, whole, expanded⟩ := unclosed.exists_pieces
    exact ⟨before, inFront, whole.unique falls, expanded environment⟩
  -- An open reference is replaced as it should be only when it stays as it is.
  have stays : ∀ front name, Unclosed front name text.toList →
      (expandFrom environment none text.toList = pieces.flatMap (Piece.replaced environment) ↔
        environment.get? (String.ofList name) =
          some (String.ofList ('$' :: '\x7b' :: name))) := by
    intro front name unclosed
    obtain ⟨before, -, whole, expanded⟩ := ends front name unclosed
    rw [whole, expanded, List.flatMap_append, flatMap_replaced_character,
      List.append_cancel_left_eq, refer_eq_iff]
  refine ⟨pieces, falls, fun other => falls.unique, ⟨?_, ?_⟩, ends, fun unset => ?_⟩
  · exact fun same front name unclosed => (stays front name unclosed).mp same
  · intro own
    by_cases closed : Closed text.toList
    · obtain ⟨others, fallsToo, replaced⟩ := closed.exists_pieces
      rw [replaced, falls.unique fallsToo]
    · obtain ⟨front, name, unclosed⟩ := exists_unclosed closed
      exact (stays front name unclosed).mpr (own front name unclosed)
  · rw [flatMap_replaced_of_unset unset, falls.flatMap_written]

/-- A table that is not closed, of which the last reference is not closed either. -/
def openTable : String := "storage = \x7b path = \"$\x7bx\""

/-- The table is closed by what should stay as it is. -/
theorem expands_openTable :
    expand [] openTable = openTable ++ "\x7d" ∧
      ¬ ∀ environment text pieces, FallsInto text.toList pieces →
        (expand environment text).toList = pieces.flatMap (Piece.replaced environment) := by
  have expanded : expand [] openTable = openTable ++ "\x7d" := by decide +kernel
  refine ⟨expanded, fun exact => ?_⟩
  have same := exact [] openTable _ (fallsInto_of_not_mem (by decide +kernel))
  rw [expanded, flatMap_replaced_character, String.toList_append] at same
  exact absurd (List.append_right_eq_self.mp same) (by decide)

end Environment
end ChatFlow
