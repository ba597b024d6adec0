import ChatFlow.Proofs.Json.Strings

/-!
# What a reader reads

A reader never looks behind what it reads: what it found at the front of a text is found there
again when the text goes on, and with more fuel.  Only a number has no end of its own: where the
text ends with it, it goes on with the text, unless what follows cannot belong to a number.
-/

namespace ChatFlow
namespace Json

variable {characters rest left more : List Char} {fuel fuel' : Nat} {c : Char} {tree : Tree}

/-- Where something is read, there is something to read. -/
theorem ne_nil_of_read
    {read : List Char → Option α}
    {result : α}
    (nothing : read [] = none)
    (found : read characters = some result) :
    characters ≠ [] := by
  intro empty
  rw [empty, nothing] at found
  cases found

/-! ## Tokens -/

/-- The first character that is no blank stays it when the text goes on. -/
theorem skipSpace_append (solid : skipSpace characters = c :: rest) (more : List Char) :
    skipSpace (characters ++ more) = c :: (rest ++ more) := by
  rw [skipSpace] at solid
  rw [skipSpace, List.dropWhile_append, solid]
  rfl

theorem ne_nil_of_skipSpace (solid : skipSpace characters = c :: rest) : characters ≠ [] := by
  intro nothing
  rw [nothing] at solid
  cases solid

/-- The inside of a string ends with its closing quote. -/
theorem readPieces_append
    {pieces : List Piece}
    (read : readPieces characters = some (pieces, left))
    (more : List Char) :
    readPieces (characters ++ more) = some (pieces, left ++ more) := by
  fun_induction readPieces characters generalizing pieces left with
  | case1 => cases read
  | case2 rest =>
      cases read
      rfl
  | case3 a b c d rest inductionHypothesis =>
      simp only [Option.bind_eq_bind, Option.bind_eq_some_iff, Prod.exists] at read
      obtain ⟨unit, digits, others, stop, further, same⟩ := read
      cases same
      simp [readPieces, digits, inductionHypothesis further]
  | case4 mark rest short inductionHypothesis =>
      simp only [Option.bind_eq_bind, Option.bind_eq_some_iff, Prod.exists] at read
      obtain ⟨value, escape, others, stop, further, same⟩ := read
      cases same
      -- Four more characters could make a unit of `u` only, which is no short escape.
      have notUnit : mark ≠ 'u' := by
        intro isUnit
        rw [isUnit] at escape
        cases escape
      rw [List.cons_append, List.cons_append, readPieces]
      · simp [escape, inductionHypothesis further]
      · exact fun _ _ _ _ _ isUnit => absurd isUnit notUnit
  | case5 => cases read
  | case6 c rest notQuote notUnit notEscape plain inductionHypothesis =>
      simp only [Option.bind_eq_bind, Option.bind_eq_some_iff, Prod.exists] at read
      obtain ⟨others, stop, further, same⟩ := read
      cases same
      rw [List.cons_append, readPieces, if_neg plain]
      · simp [inductionHypothesis further]
      · exact notQuote
      · intro _ _ _ _ _ isBackslash
        exact absurd (.inr isBackslash) plain
      · intro _ _ isBackslash
        exact absurd (.inr isBackslash) plain

theorem readString_append
    {value : Option String}
    (read : readString characters = some (value, left))
    (more : List Char) :
    readString (characters ++ more) = some (value, left ++ more) := by
  simp only [readString, Option.map_eq_some_iff, Prod.exists] at read
  obtain ⟨pieces, stop, inside, same⟩ := read
  cases same
  rw [readString, readPieces_append inside, Option.map_some]

theorem readWord_append
    {word : List Char}
    {meaning : Tree}
    (read : readWord word meaning characters = some (tree, left))
    (more : List Char) :
    readWord word meaning (characters ++ more) = some (tree, left ++ more) := by
  rw [readWord] at read
  split at read
  · rename_i starts
    cases read
    obtain ⟨rest, rfl⟩ := List.isPrefixOf_iff_prefix.mp starts
    have again : word.isPrefixOf (word ++ rest ++ more) = true :=
      List.isPrefixOf_iff_prefix.mpr ⟨rest ++ more, (List.append_assoc _ _ _).symm⟩
    rw [readWord, if_pos again, List.append_assoc, List.drop_left, List.drop_left]
  · cases read

/-! ## Numbers -/

/-- Whether a character can go on with a number that ends in a digit. -/
def goesOnNumber (c : Char) : Bool :=
  Text.isDigit c || c == '.' || c == 'e' || c == 'E'

/-- A text cannot go on with a number in front of it. -/
def Closed (more : List Char) : Prop :=
  ∀ c rest, more = c :: rest → goesOnNumber c = false

theorem closed_nil : Closed [] :=
  nofun

theorem closed_cons (closes : goesOnNumber c = false) (rest : List Char) : Closed (c :: rest) := by
  rintro d others same
  rw [← (List.cons.inj same).1, closes]

theorem closed_comma (rest : List Char) : Closed (',' :: rest) :=
  closed_cons (by decide) rest

theorem closed_bracket (rest : List Char) : Closed (']' :: rest) :=
  closed_cons (by decide) rest

theorem closed_brace (rest : List Char) : Closed ('\x7d' :: rest) :=
  closed_cons (by decide) rest

/-- A number ends: something is left behind it, or what follows cannot go on with it. -/
def Stops (left more : List Char) : Prop :=
  left ≠ [] ∨ Closed more

/-- What is read earlier stops where what is read later does. -/
theorem Stops.earlier
    {earlier : List Char}
    (stops : Stops left more)
    (ends : earlier = [] → left = []) :
    Stops earlier more :=
  stops.imp_left fun something nothing => something (ends nothing)

/-- Where nothing is left, what follows cannot go on. -/
theorem Stops.head (stops : Stops [] (c :: rest)) : goesOnNumber c = false :=
  stops.elim (fun something => absurd rfl something) fun closed => closed c rest rfl

theorem isDigit_of_goesOnNumber (closed : goesOnNumber c = false) : Text.isDigit c = false := by
  simp only [goesOnNumber, Bool.or_eq_false_iff] at closed
  exact closed.1.1.1

/-- Digits in front of something else stay the same. -/
theorem readDigits_append
    {digits : List Char}
    (read : readDigits characters = some (digits, left))
    (stops : Stops left more) :
    readDigits (characters ++ more) = some (digits, left ++ more) := by
  rw [readDigits] at read
  split at read
  · cases read
  · rename_i nonempty
    cases read
    have parts := List.takeWhile_append_dropWhile (p := Text.isDigit) (l := characters)
    cases ended : characters.dropWhile Text.isDigit with
    | nil =>
        rw [ended] at stops
        rw [ended, List.append_nil] at parts
        have alone : more.takeWhile Text.isDigit = [] ∧ more.dropWhile Text.isDigit = more := by
          cases more with
          | nil => exact ⟨rfl, rfl⟩
          | cons c rest => simp [isDigit_of_goesOnNumber stops.head]
        simp only [readDigits, List.takeWhile_append, List.dropWhile_append, parts, ended,
          alone.1, alone.2]
        rw [parts] at nonempty
        simp [nonempty]
    | cons c rest =>
        have shorter : (characters.takeWhile Text.isDigit).length ≠ characters.length := by
          intro same
          have lengths := congrArg List.length parts
          rw [List.length_append, same, ended, List.length_cons] at lengths
          omega
        simp only [readDigits, List.takeWhile_append, if_neg shorter, List.dropWhile_append,
          ended, if_neg nonempty]
        rfl

theorem readFraction_append
    {fraction : Option (List Char)}
    (read : readFraction characters = some (fraction, left))
    (stops : Stops left more) :
    readFraction (characters ++ more) = some (fraction, left ++ more) := by
  rw [readFraction.eq_def] at read
  split at read
  · simp only [Option.map_eq_some_iff, Prod.exists] at read
    obtain ⟨digits, stop, digitsRead, same⟩ := read
    cases same
    rw [List.cons_append, readFraction, readDigits_append digitsRead stops, Option.map_some]
  · rename_i noPoint
    cases read
    rw [readFraction]
    intro rest point
    cases characters with
    | nil =>
        rw [List.nil_append] at point
        rw [point] at stops
        cases stops.head
    | cons c others => exact noPoint _ (congrArg (· :: others) (List.cons.inj point).1)

theorem splitSign_append (further : (Decimal.splitSign characters).2 ≠ []) (more : List Char) :
    Decimal.splitSign (characters ++ more) =
      ((Decimal.splitSign characters).1, (Decimal.splitSign characters).2 ++ more) := by
  cases characters with
  | nil => exact absurd rfl further
  | cons c rest =>
      by_cases minus : c = '-'
      · rw [minus]
        rfl
      · by_cases plus : c = '+'
        · rw [plus]
          rfl
        · simp [Decimal.splitSign, minus, plus]

theorem readExponent_append
    {exponent : Option (Bool × List Char)}
    (read : readExponent characters = some (exponent, left))
    (stops : Stops left more) :
    readExponent (characters ++ more) = some (exponent, left ++ more) := by
  rw [readExponent.eq_def] at read
  split at read
  · cases read
    cases more with
    | nil => rfl
    | cons c rest =>
        have closed := stops.head
        simp only [goesOnNumber, Bool.or_eq_false_iff, beq_eq_false_iff_ne] at closed
        simp [readExponent, closed]
  · rename_i mark rest
    split at read
    · rename_i marked
      simp only [Option.map_eq_some_iff, Prod.exists] at read
      obtain ⟨digits, stop, digitsRead, same⟩ := read
      cases same
      rw [List.cons_append, readExponent, if_pos marked,
        splitSign_append (ne_nil_of_read rfl digitsRead)]
      simp only [readDigits_append digitsRead stops, Option.map_some]
    · rename_i unmarked
      cases read
      rw [List.cons_append, readExponent, if_neg unmarked]

theorem readWhole_append
    {digits : List Char}
    (read : readWhole characters = some (digits, left))
    (stops : Stops left more) :
    readWhole (characters ++ more) = some (digits, left ++ more) := by
  simp only [readWhole, Option.bind_eq_bind, Option.bind_eq_some_iff, Prod.exists] at read
  obtain ⟨whole, stop, digitsRead, unpadded⟩ := read
  split at unpadded
  · cases unpadded
  · rename_i nonzero
    cases unpadded
    simp only [readWhole, Option.bind_eq_bind, readDigits_append digitsRead stops,
      Option.bind_some, if_neg nonzero]
    rfl

/-- A number in front of something else stays the same. -/
theorem readNumberText_append
    {text : NumberText}
    (read : readNumberText characters = some (text, left))
    (stops : Stops left more) :
    readNumberText (characters ++ more) = some (text, left ++ more) := by
  simp only [readNumberText, Option.bind_eq_bind, Option.bind_eq_some_iff, Prod.exists] at read
  obtain ⟨whole, afterWhole, wholeRead, fraction, afterFraction, fractionRead, exponent,
    stop, exponentRead, same⟩ := read
  cases same
  have fractionStops : Stops afterFraction more := by
    refine stops.earlier fun ended => ?_
    subst ended
    cases exponentRead
    rfl
  have wholeStops : Stops afterWhole more := by
    refine fractionStops.earlier fun ended => ?_
    subst ended
    cases fractionRead
    rfl
  have fractionRead := readFraction_append fractionRead fractionStops
  have exponentRead := readExponent_append exponentRead stops
  cases characters with
  | nil => cases wholeRead
  | cons c rest =>
      by_cases minus : c = '-'
      · subst minus
        have wholeRead : readWhole (rest ++ more) = some (whole, afterWhole ++ more) :=
          readWhole_append wholeRead wholeStops
        simp [readNumberText, wholeRead, fractionRead, exponentRead]
      · simp only [minus, imp_false, not_false_eq_true, List.cons.injEq, false_and,
          implies_true] at wholeRead
        have wholeRead := readWhole_append wholeRead wholeStops
        rw [List.cons_append] at wholeRead
        simp [readNumberText, minus, wholeRead, fractionRead, exponentRead]

/-! ## Values -/

/-- With some fuel, values, items and fields are read in the same way when the text goes on and
with more fuel, except that a number may go on with the text. -/
structure Local (fuel : Nat) : Prop where
  /-- A value, unless it is a number that goes on with the text. -/
  tree : ∀ {characters left tree fuel'} more, readTree fuel characters = some (tree, left) →
    (Stops left more ∨ ∀ value, tree ≠ .number value) → fuel ≤ fuel' →
    readTree fuel' (characters ++ more) = some (tree, left ++ more)
  /-- The items of an array. -/
  items : ∀ {characters left items fuel'}, readItems fuel characters = some (items, left) →
    fuel ≤ fuel' → ∀ more, readItems fuel' (characters ++ more) = some (items, left ++ more)
  /-- The fields of an object. -/
  fields : ∀ {characters left fields fuel'}, readFields fuel characters = some (fields, left) →
    fuel ≤ fuel' → ∀ more, readFields fuel' (characters ++ more) = some (fields, left ++ more)

theorem readTree_nil : readTree fuel [] = none := by
  cases fuel <;> rfl

theorem readItems_nil : readItems fuel [] = none := by
  cases fuel with
  | zero => rfl
  | succ fuel =>
      rw [readItems, readTree_nil]
      rfl

theorem readFields_nil : readFields fuel [] = none := by
  cases fuel <;> rfl

theorem readItems_append
    {items : List Tree}
    (former : Local fuel)
    (read : readItems (fuel + 1) characters = some (items, left))
    (enough : fuel ≤ fuel')
    (more : List Char) :
    readItems (fuel' + 1) (characters ++ more) = some (items, left ++ more) := by
  simp only [readItems, Option.bind_eq_bind, Option.bind_eq_some_iff, Prod.exists] at read
  obtain ⟨item, stop, itemRead, tail⟩ := read
  split at tail
  · rename_i closes
    cases tail
    have itemRead := former.tree more itemRead (.inl (.inl (ne_nil_of_skipSpace closes))) enough
    simp [readItems, itemRead, skipSpace_append closes]
  · rename_i separates
    simp only [Option.bind_eq_some_iff, Prod.exists] at tail
    obtain ⟨others, _, othersRead, same⟩ := tail
    cases same
    have itemRead := former.tree more itemRead (.inl (.inl (ne_nil_of_skipSpace separates))) enough
    simp [readItems, itemRead, skipSpace_append separates, former.items othersRead enough more]
  · cases tail

/-- A field starts with its name, a colon and its value; then there is the closing brace, or a
comma and more fields. -/
theorem exists_field_of_readFields
    {fields : List (Option String × Tree)}
    (read : readFields (fuel + 1) characters = some (fields, left)) :
    ∃ inside key afterKey written item stop,
      skipSpace characters = '"' :: inside ∧ readString inside = some (key, afterKey) ∧
        skipSpace afterKey = ':' :: written ∧ readTree fuel written = some (item, stop) ∧
        (skipSpace stop = '\x7d' :: left ∧ fields = [(key, item)] ∨
          ∃ further others, skipSpace stop = ',' :: further ∧
            readFields fuel further = some (others, left) ∧ fields = (key, item) :: others) := by
  simp only [readFields, Option.bind_eq_bind] at read
  split at read
  · rename_i inside opens
    simp only [Option.bind_eq_some_iff, Prod.exists] at read
    obtain ⟨key, afterKey, keyRead, read⟩ := read
    split at read
    · rename_i written names
      simp only [Option.bind_eq_some_iff, Prod.exists] at read
      obtain ⟨item, stop, itemRead, read⟩ := read
      refine ⟨inside, key, afterKey, written, item, stop, opens, keyRead, names, itemRead, ?_⟩
      split at read
      · rename_i closes
        cases read
        exact .inl ⟨closes, rfl⟩
      · rename_i further separates
        simp only [Option.bind_eq_some_iff, Prod.exists] at read
        obtain ⟨others, _, othersRead, same⟩ := read
        cases same
        exact .inr ⟨further, others, separates, othersRead, rfl⟩
      · cases read
    · cases read
  · cases read

/-- An opening brace opens an object. -/
theorem exists_fields_of_readTree
    {inside : List Char}
    (read : readTree fuel ('\x7b' :: inside) = some (tree, left)) :
    ∃ fields, tree = .object fields ∧
      (fields = [] ∨ ∃ fuel, readFields fuel (skipSpace inside) = some (fields, left)) := by
  cases fuel with
  | zero => cases read
  | succ fuel =>
      rw [readTree, skipSpace_cons (by decide)] at read
      simp only at read
      split at read
      · cases read
        exact ⟨[], rfl, .inl rfl⟩
      · simp only [Option.map_eq_some_iff, Prod.exists] at read
        obtain ⟨fields, stop, fieldsRead, same⟩ := read
        cases same
        exact ⟨fields, rfl, .inr ⟨fuel, fieldsRead⟩⟩

theorem readFields_append
    {fields : List (Option String × Tree)}
    (former : Local fuel)
    (read : readFields (fuel + 1) characters = some (fields, left))
    (enough : fuel ≤ fuel')
    (more : List Char) :
    readFields (fuel' + 1) (characters ++ more) = some (fields, left ++ more) := by
  obtain ⟨inside, key, afterKey, written, item, stop, opens, keyRead, names, itemRead, tail⟩ :=
    exists_field_of_readFields read
  have keyRead := readString_append keyRead more
  cases tail with
  | inl last =>
      obtain ⟨closes, same⟩ := last
      have itemRead := former.tree more itemRead (.inl (.inl (ne_nil_of_skipSpace closes))) enough
      simp [readFields, skipSpace_append opens, keyRead, skipSpace_append names, itemRead,
        skipSpace_append closes, same]
  | inr notLast =>
      obtain ⟨further, others, separates, othersRead, same⟩ := notLast
      have itemRead := former.tree more itemRead (.inl (.inl (ne_nil_of_skipSpace separates))) enough
      simp [readFields, skipSpace_append opens, keyRead, skipSpace_append names, itemRead,
        skipSpace_append separates, former.fields othersRead enough more, same]

theorem readTree_append
    (former : Local fuel)
    (read : readTree (fuel + 1) characters = some (tree, left))
    (stops : Stops left more ∨ ∀ value, tree ≠ .number value)
    (enough : fuel ≤ fuel') :
    readTree (fuel' + 1) (characters ++ more) = some (tree, left ++ more) := by
  rw [readTree] at read
  split at read
  · cases read
  · rename_i opens
    simp only [Option.map_eq_some_iff, Prod.exists] at read
    obtain ⟨value, stop, stringRead, same⟩ := read
    cases same
    simp [readTree, skipSpace_append opens, readString_append stringRead]
  · rename_i opens
    split at read
    · rename_i closes
      cases read
      simp [readTree, skipSpace_append opens, skipSpace_append closes]
    · rename_i unclosed
      simp only [Option.map_eq_some_iff, Prod.exists] at read
      obtain ⟨items, stop, itemsRead, same⟩ := read
      cases same
      have nonempty := ne_nil_of_read readItems_nil itemsRead
      obtain ⟨c, rest, solid⟩ := List.exists_cons_of_ne_nil nonempty
      rw [solid] at itemsRead unclosed
      have notClosing : c ≠ ']' := fun closing => unclosed rest (congrArg (· :: rest) closing)
      have itemsRead := former.items itemsRead enough more
      rw [List.cons_append] at itemsRead
      simp [readTree, skipSpace_append opens, skipSpace_append solid, notClosing, itemsRead]
  · rename_i opens
    split at read
    · rename_i closes
      cases read
      simp [readTree, skipSpace_append opens, skipSpace_append closes]
    · rename_i unclosed
      simp only [Option.map_eq_some_iff, Prod.exists] at read
      obtain ⟨fields, stop, fieldsRead, same⟩ := read
      cases same
      have nonempty := ne_nil_of_read readFields_nil fieldsRead
      obtain ⟨c, rest, solid⟩ := List.exists_cons_of_ne_nil nonempty
      rw [solid] at fieldsRead unclosed
      have notClosing : c ≠ '\x7d' := fun closing => unclosed rest (congrArg (· :: rest) closing)
      have fieldsRead := former.fields fieldsRead enough more
      rw [List.cons_append] at fieldsRead
      simp [readTree, skipSpace_append opens, skipSpace_append solid, notClosing, fieldsRead]
  · rename_i opens
    simp [readTree, skipSpace_append opens, readWord_append read]
  · rename_i opens
    simp [readTree, skipSpace_append opens, readWord_append read]
  · rename_i opens
    simp [readTree, skipSpace_append opens, readWord_append read]
  · rename_i noEnd noQuote noBracket noBrace noNull noTrue noFalse
    simp only [Option.map_eq_some_iff, Prod.exists] at read
    obtain ⟨text, stop, numberRead, same⟩ := read
    cases same
    -- Digits at the end of the text could go on; here something else follows them.
    have ends : Stops left more := stops.resolve_right fun different => different _ rfl
    have numberRead := readNumberText_append numberRead ends
    obtain ⟨c, rest, solid⟩ := List.exists_cons_of_ne_nil noEnd
    have other {d : Char} (no : ∀ rest, skipSpace characters = d :: rest → False) : c ≠ d := by
      intro same
      exact no rest (same ▸ solid)
    rw [solid, List.cons_append] at numberRead
    simp [readTree, skipSpace_append solid, other noQuote, other noBracket, other noBrace,
      other noNull, other noTrue, other noFalse, numberRead]

/-- Readers look at nothing behind what they read. -/
theorem local_all (fuel : Nat) : Local fuel := by
  induction fuel with
  | zero =>
      refine ⟨?_, ?_, ?_⟩
      · intro _ _ _ _ _ read
        cases read
      · intro _ _ _ _ read
        cases read
      · intro _ _ _ _ read
        cases read
  | succ fuel former =>
      refine ⟨?_, ?_, ?_⟩
      · intro characters left tree fuel' more read stops enough
        obtain ⟨spare, rfl⟩ : ∃ spare, fuel' = spare + 1 := ⟨fuel' - 1, by omega⟩
        exact readTree_append former read stops (Nat.le_of_succ_le_succ enough)
      · intro characters left items fuel' read enough more
        obtain ⟨spare, rfl⟩ : ∃ spare, fuel' = spare + 1 := ⟨fuel' - 1, by omega⟩
        exact readItems_append former read (Nat.le_of_succ_le_succ enough) more
      · intro characters left fields fuel' read enough more
        obtain ⟨spare, rfl⟩ : ∃ spare, fuel' = spare + 1 := ⟨fuel' - 1, by omega⟩
        exact readFields_append former read (Nat.le_of_succ_le_succ enough) more

end Json
end ChatFlow
