import ChatFlow.Proofs.Turn.Script

/-!
# How far a turn has come

The first calls of a turn's script tell how far the turn has come: which exits it has taken, which
nodes it has entered, and where its execution stands.  It has entered the nodes that it left, and
one more at most: the one where it stands.
-/

namespace ChatFlow

/-! ## Positions after calls -/

/-- What a call makes of the position of the running execution of a conversation in a flow. -/
def Call.place
    (conversation : Conversation) (flow : String) (position : Position) : Call → Position
  | .advance other otherFlow target waiting =>
      if conversation = other ∧ flow = otherFlow then
        (Exit.advance target waiting).leave position
      else position
  | .setWaiting other otherFlow waiting =>
      if conversation = other ∧ flow = otherFlow then
        match position.status with
        | .active => { position with waiting }
        | .completed => position
      else position
  | .complete other otherFlow =>
      if conversation = other ∧ flow = otherFlow then Exit.complete.leave position else position
  | _ => position

/-- What calls make of the position. -/
def Position.after
    (position : Position) (conversation : Conversation) (flow : String) (calls : List Call) :
    Position :=
  calls.foldl (Call.place conversation flow) position

/-- The nodes that calls enter. -/
def enteredNodes (calls : List Call) : List String :=
  calls.filterMap Call.entered?

section

variable {row : ExecutionRow} {request : Call} {calls taken rest : List Call} {exit : Exit}
  {conversation : Conversation} {flow : String} {position : Position} {leg : Leg}
  {legs : List Leg}

namespace ExecutionRow

theorem conversation_write : (row.write request).conversation = row.conversation := by
  unfold write
  split <;> first | rfl | (split <;> rfl)

theorem flow_write : (row.write request).flow = row.flow := by
  unfold write
  split <;> first | rfl | (split <;> rfl)

theorem id_write : (row.write request).id = row.id := by
  unfold write
  split <;> first | rfl | (split <;> rfl)

theorem position_write :
    (row.write request).position = request.place row.conversation row.flow row.position := by
  have idle {conversation : Conversation} {flow : String}
      (notRunning : ¬ row.runsIn conversation flow = true)
      (own : row.conversation = conversation ∧ row.flow = flow) : row.status = .completed := by
    cases status : row.status with
    | active => exact (notRunning (runsIn_iff.mpr ⟨own.1, own.2, status⟩)).elim
    | completed => rfl
  cases request with
  | advance conversation flow | setWaiting conversation flow | complete conversation flow =>
      by_cases running : row.runsIn conversation flow = true
      · obtain ⟨rfl, rfl, active⟩ := runsIn_iff.mp running
        simp [write, running, Call.place, position, Exit.leave, active]
      · simp only [write, Call.place, if_neg running]
        split
        · rename_i own
          simp [position, Exit.leave, idle running own]
        · rfl
  | setStage id stage =>
      simp only [write]
      split <;> rfl
  | saveVariables id vars =>
      simp only [write]
      split <;> rfl
  | _ => rfl

theorem conversation_writeAll : (row.writeAll calls).conversation = row.conversation := by
  induction calls generalizing row with
  | nil => rfl
  | cons request calls inductionHypothesis =>
      rw [writeAll_cons, inductionHypothesis, conversation_write]

theorem flow_writeAll : (row.writeAll calls).flow = row.flow := by
  induction calls generalizing row with
  | nil => rfl
  | cons request calls inductionHypothesis =>
      rw [writeAll_cons, inductionHypothesis, flow_write]

theorem id_writeAll : (row.writeAll calls).id = row.id := by
  induction calls generalizing row with
  | nil => rfl
  | cons request calls inductionHypothesis =>
      rw [writeAll_cons, inductionHypothesis, id_write]

end ExecutionRow

theorem Call.place_of_isMark (notMark : request.isMark = false) :
    request.place conversation flow position = position := by
  cases request with
  | advance | setWaiting | complete => cases notMark
  | _ => rfl

/-- The marked calls tell where a row stands. -/
theorem ExecutionRow.position_writeAll :
    (row.writeAll calls).position =
      row.position.after row.conversation row.flow (calls.filter Call.isMark) := by
  induction calls generalizing row with
  | nil => rfl
  | cons request calls inductionHypothesis =>
      rw [writeAll_cons, inductionHypothesis, conversation_write, flow_write, position_write]
      cases mark : request.isMark with
      | true => rw [List.filter_cons_of_pos mark, Position.after, Position.after, List.foldl_cons]
      | false => rw [List.filter_cons_of_neg (by simp [mark]), Call.place_of_isMark mark]

/-! ## Legs -/

namespace Position

theorem after_append (first second : List Call) :
    position.after conversation flow (first ++ second) =
      (position.after conversation flow first).after conversation flow second :=
  List.foldl_append

/-- To take an exit is to make its call. -/
theorem after_call? :
    position.after conversation flow (exit.call? conversation flow).toList =
      exit.leave position := by
  cases status : position.status <;> cases exit <;>
    simp [Exit.call?, after, Call.place, Exit.leave, status]

theorem after_leg : position.after conversation flow (leg.calls conversation flow) =
    leg.exit.leave position :=
  after_call?

theorem after_legs :
    position.after conversation flow (legs.flatMap (Leg.calls conversation flow)) =
      position.travel (legs.map Leg.exit) := by
  induction legs generalizing position with
  | nil => rfl
  | cons leg legs inductionHypothesis =>
      rw [List.flatMap_cons, after_append, after_leg, inductionHypothesis]
      rfl

end Position

theorem enteredNodes_call? : enteredNodes (exit.call? conversation flow).toList = [] := by
  cases exit <;> rfl

theorem enteredNodes_append (first second : List Call) :
    enteredNodes (first ++ second) = enteredNodes first ++ enteredNodes second :=
  List.filterMap_append

theorem enteredNodes_leg :
    enteredNodes (leg.calls conversation flow) = [leg.node.id] := by
  rw [Leg.calls, ← List.singleton_append, enteredNodes_append, enteredNodes_call?]
  rfl

theorem enteredNodes_legs :
    enteredNodes (legs.flatMap (Leg.calls conversation flow)) =
      legs.map fun leg => leg.node.id := by
  induction legs with
  | nil => rfl
  | cons leg legs inductionHypothesis =>
      rw [List.flatMap_cons, enteredNodes_append, enteredNodes_leg, inductionHypothesis]
      rfl

/-- Only marked calls enter nodes. -/
theorem enteredNodes_filter : enteredNodes (calls.filter Call.isMark) = enteredNodes calls := by
  rw [enteredNodes, enteredNodes, List.filterMap_filter]
  congr 1
  funext request
  cases request with
  | publish event => cases event <;> rfl
  | _ => rfl

/-- The first calls of a script are those of some legs, perhaps with the one that enters the next
node. -/
theorem exists_of_isPrefix
    (isPrefix : taken <+: legs.flatMap (Leg.calls conversation flow)) :
    ∃ k ≤ legs.length, taken = (legs.take k).flatMap (Leg.calls conversation flow) ∨
      ∃ leg, legs[k]? = some leg ∧
        taken = (legs.take k).flatMap (Leg.calls conversation flow) ++
          [.publish (.entered conversation leg.node.id leg.node.kind.text)] := by
  induction legs generalizing taken with
  | nil => exact ⟨0, Nat.le_refl 0, .inl (List.prefix_nil.mp isPrefix)⟩
  | cons leg legs inductionHypothesis =>
      rw [List.flatMap_cons, Leg.calls, List.cons_append] at isPrefix
      rcases List.prefix_cons_iff.mp isPrefix with rfl | ⟨entering, rfl, further⟩
      · exact ⟨0, Nat.zero_le _, .inl rfl⟩
      · have passed {behind : List Call}
            (isPrefix : behind <+: legs.flatMap (Leg.calls conversation flow)) :
            ∃ k ≤ (leg :: legs).length, leg.calls conversation flow ++ behind =
                ((leg :: legs).take k).flatMap (Leg.calls conversation flow) ∨
              ∃ next, (leg :: legs)[k]? = some next ∧
                leg.calls conversation flow ++ behind =
                  ((leg :: legs).take k).flatMap (Leg.calls conversation flow) ++
                    [.publish (.entered conversation next.node.id next.node.kind.text)] := by
          obtain ⟨k, inside, rfl | ⟨next, found, rfl⟩⟩ := inductionHypothesis isPrefix
          · exact ⟨k + 1, Nat.succ_le_succ inside, .inl (by simp)⟩
          · exact ⟨k + 1, Nat.succ_le_succ inside, .inr ⟨next, by simpa using found, by simp⟩⟩
        cases call : leg.exit.call? conversation flow with
        | none =>
            rw [call] at further
            simpa [Leg.calls, call] using passed further
        | some request =>
            rw [call] at further
            rcases List.prefix_cons_iff.mp further with rfl | ⟨behind, rfl, beyond⟩
            · exact ⟨0, Nat.zero_le _, .inr ⟨leg, rfl, rfl⟩⟩
            · simpa [Leg.calls, call] using passed beyond

/-- The calls of legs begin with one that enters a node. -/
theorem entered?_of_flatMap_eq_cons
    (split : legs.flatMap (Leg.calls conversation flow) = request :: rest) :
    request.entered? ≠ none := by
  cases legs with
  | nil => cases split
  | cons leg legs =>
      rw [List.flatMap_cons, Leg.calls, List.cons_append, List.cons.injEq] at split
      rw [← split.1]
      nofun

/-- A call of a script that takes an exit follows the one that enters the node of its leg. -/
theorem exists_leg_of_append
    (split : taken ++ request :: rest = legs.flatMap (Leg.calls conversation flow))
    (moves : request.entered? = none) :
    ∃ k leg, legs[k]? = some leg ∧ leg.exit.call? conversation flow = some request ∧
      taken = (legs.take k).flatMap (Leg.calls conversation flow) ++
        [.publish (.entered conversation leg.node.id leg.node.kind.text)] := by
  have whole (k : Nat) : legs.flatMap (Leg.calls conversation flow) =
      (legs.take k).flatMap (Leg.calls conversation flow) ++
        (legs.drop k).flatMap (Leg.calls conversation flow) := by
    rw [← List.flatMap_append, List.take_append_drop]
  obtain ⟨k, _, rfl | ⟨leg, found, rfl⟩⟩ := exists_of_isPrefix ⟨request :: rest, split⟩
  · rw [whole k] at split
    exact (entered?_of_flatMap_eq_cons (List.append_cancel_left split).symm moves).elim
  · refine ⟨k, leg, found, ?_, rfl⟩
    obtain ⟨inside, same⟩ := List.getElem?_eq_some_iff.mp found
    rw [whole k, List.append_assoc, List.drop_eq_getElem_cons inside, same] at split
    have split := List.append_cancel_left split
    rw [List.flatMap_cons, Leg.calls, List.singleton_append, List.cons_append, List.cons.injEq]
      at split
    cases call : leg.exit.call? conversation flow with
    | none =>
        rw [call] at split
        exact (entered?_of_flatMap_eq_cons split.2.symm moves).elim
    | some other =>
        rw [call, Option.toList_some, List.singleton_append, List.cons.injEq] at split
        rw [split.2.1]

end
end ChatFlow
