import ChatFlow.Proofs.Condition.Resolution
import ChatFlow.Proofs.Flow.Loading

/-!
# Which flow a message starts

Of the bindings of a device, the first one whose trigger is the message is chosen, else the first
one without a trigger.  A library that is loaded knows the flow of every binding, so the choice
never fails, and it depends on the bindings of the device and their order alone.
-/

namespace ChatFlow
namespace Flow

/-- The binding belongs to the device, and its trigger is the message but for blanks around them and
the case of ASCII letters. -/
def Fires (device input : String) (binding : Binding) : Prop :=
  binding.device = device ∧ ∃ trigger, binding.trigger = some trigger ∧
    Text.lowerAscii (Text.trim trigger) = Text.lowerAscii (Text.trim input)

/-- The binding belongs to the device and starts its flow on any message. -/
def CatchesAll (device : String) (binding : Binding) : Prop :=
  binding.device = device ∧ binding.trigger = none

/-- The binding that a message to a device chooses, if there is one. -/
inductive Chooses (bindings : List Binding) (device input : String) : Option Binding → Prop
  /-- The first binding whose trigger is the message. -/
  | triggered {binding : Binding}
      (first : Condition.IsFirst (Fires device input) bindings binding) :
      Chooses bindings device input (some binding)
  /-- The first binding without a trigger, when no trigger is the message. -/
  | caught {binding : Binding} (silent : ∀ other ∈ bindings, ¬ Fires device input other)
      (first : Condition.IsFirst (CatchesAll device) bindings binding) :
      Chooses bindings device input (some binding)
  /-- None, when no trigger is the message and every binding has one. -/
  | nothing (silent : ∀ other ∈ bindings, ¬ Fires device input other)
      (uncaught : ∀ other ∈ bindings, ¬ CatchesAll device other) :
      Chooses bindings device input none

/-- The flow that a message to a device starts, if there is one. -/
inductive Starts (graphs : List Graph) (bindings : List Binding) (device input : String) :
    Option Graph → Prop
  /-- The last flow with the id that the chosen binding gives. -/
  | served {binding : Binding} {earlier later : List Graph} {graph : Graph}
      (chosen : Chooses bindings device input (some binding))
      (stored : graphs = earlier ++ graph :: later) (named : graph.id = binding.flow)
      (last : ∀ other ∈ later, other.id ≠ binding.flow) :
      Starts graphs bindings device input (some graph)
  /-- None, when no binding is chosen. -/
  | nothing (unchosen : Chooses bindings device input none) :
      Starts graphs bindings device input none

/-- The binding that is chosen is one of the bindings. -/
theorem Chooses.mem
    {bindings : List Binding}
    {device input : String}
    {binding : Binding}
    (chosen : Chooses bindings device input (some binding)) :
    binding ∈ bindings := by
  obtain ⟨before, after, rfl, -⟩ | ⟨-, before, after, rfl, -⟩ := chosen <;> simp

namespace Library

variable {library after other : Library} {directory device input : String}
  {bindings others : List Binding}

/-! ## The choice -/

/-- The first choice looks for a binding whose trigger is the message. -/
theorem fires_iff {binding : Binding} :
    decide ((binding.device == device) = true ∧ isTriggered binding input = true) = true ↔
      Fires device input binding := by
  cases given : binding.trigger with
  | none => simp [isTriggered, Fires, given]
  | some trigger => simp [isTriggered, Fires, given, Text.equalIgnoringAsciiCase]

/-- The second choice looks for a binding without a trigger. -/
theorem catchesAll_iff {binding : Binding} :
    decide ((binding.device == device) = true ∧ binding.trigger.isNone = true) = true ↔
      CatchesAll device binding := by
  simp [CatchesAll]

/-- A library chooses one of its bindings as it should. -/
theorem chooses_bindingFor? (library : Library) (device input : String) :
    Chooses library.bindings device input (library.bindingFor? device input) := by
  simp only [bindingFor?, List.find?_filter]
  cases triggered : library.bindings.find? fun binding =>
      decide ((binding.device == device) = true ∧ isTriggered binding input = true) with
  | some binding =>
      exact .triggered ((Condition.find?_eq_some_iff_isFirst fun _ => fires_iff).mp triggered)
  | none =>
      have silent : ∀ other ∈ library.bindings, ¬ Fires device input other := by
        intro other member fires
        exact List.find?_eq_none.mp triggered other member (fires_iff.mpr fires)
      rw [Option.none_or]
      cases caught : library.bindings.find? fun binding =>
          decide ((binding.device == device) = true ∧ binding.trigger.isNone = true) with
      | some binding =>
          exact .caught silent
            ((Condition.find?_eq_some_iff_isFirst fun _ => catchesAll_iff).mp caught)
      | none =>
          refine .nothing silent ?_
          intro other member catches
          exact List.find?_eq_none.mp caught other member (catchesAll_iff.mpr catches)

/-- Libraries with the same flows and the same bindings of a device start the same flows there. -/
theorem resolve_congr
    (sameFlows : other.flows = library.flows)
    (sameBindings : other.bindings.filter (fun binding => binding.device == device) =
      library.bindings.filter fun binding => binding.device == device) :
    other.resolve device input = library.resolve device input := by
  have sameGet : other.get = library.get := by
    funext id
    rw [get, get, sameFlows]
  rw [resolve, resolve, bindingFor?, bindingFor?, sameBindings, sameGet]

/-! ## The flows of bindings -/

/-- Bindings are added when their flows are known. -/
theorem exists_get_of_addBindings
    (added : bindings.foldlM addBinding library = .ok after) :
    ∀ binding ∈ bindings, ∃ graph, after.get binding.flow = .ok graph := by
  induction bindings generalizing library with
  | nil => simp
  | cons binding bindings inductionHypothesis =>
      rw [List.foldlM_cons, addBinding] at added
      cases known : library.get binding.flow with
      | error error =>
          rw [known] at added
          cases added
      | ok graph =>
          rw [known] at added
          intro other member
          rcases List.mem_cons.mp member with rfl | member
          · exact ⟨graph, by rw [eq_of_addBindings added, ← known]; rfl⟩
          · exact inductionHypothesis added other member

/-- A library that is loaded knows the flows of its bindings. -/
theorem exists_get_of_load
    {files : Files}
    (loaded : load files directory bindings = .ok library) :
    ∀ binding ∈ bindings, ∃ graph, library.get binding.flow = .ok graph := by
  obtain ⟨_, _, -, -, bound⟩ := exists_flows_of_load loaded
  exact exists_get_of_addBindings bound

/-- Whatever bindings are loaded with them, the flows in a directory are the same. -/
theorem flows_eq_of_load
    {files : Files}
    (loaded : load files directory bindings = .ok library)
    (reloaded : load files directory others = .ok other) :
    other.flows = library.flows := by
  obtain ⟨names, flows, listed, added, bound⟩ := exists_flows_of_load loaded
  obtain ⟨again, same, relisted, readded, rebound⟩ := exists_flows_of_load reloaded
  obtain rfl := Except.ok.inj (listed.symm.trans relisted)
  obtain rfl := Except.ok.inj (added.symm.trans readded)
  rw [eq_of_addBindings bound, eq_of_addBindings rebound]

/-- A library that is loaded starts, for any message to any device, the flow of the binding that the
message chooses, or none when it chooses none; this never fails.  Bindings of other devices make no
difference, and neither does where they stand. -/
theorem resolves_of_load
    {files : Files}
    (loaded : load files directory bindings = .ok library)
    (device input : String) :
    ∃ graphs, Stores files directory graphs ∧
      (∃ flow, library.resolve device input = .ok flow ∧
        Starts graphs bindings device input flow) ∧
      ∀ others other, load files directory others = .ok other →
        others.filter (fun binding => binding.device == device) =
          bindings.filter (fun binding => binding.device == device) →
        other.resolve device input = library.resolve device input := by
  obtain ⟨graphs, stores, rfl⟩ := exists_of_load loaded
  refine ⟨graphs, stores, ?_, ?_⟩
  · have chosen := chooses_bindingFor? (ofFlows graphs bindings) device input
    rw [resolve]
    cases choice : (ofFlows graphs bindings).bindingFor? device input with
    | none =>
        rw [choice] at chosen
        exact ⟨none, rfl, .nothing chosen⟩
    | some binding =>
        rw [choice] at chosen
        obtain ⟨graph, served⟩ := exists_get_of_load loaded binding chosen.mem
        obtain ⟨earlier, later, stored, named, last⟩ := get_ofFlows_iff.mp served
        exact ⟨some graph, congrArg (Except.map some) served, .served chosen stored named last⟩
  · intro others other reloaded same
    obtain ⟨again, -, rfl⟩ := exists_of_load reloaded
    exact resolve_congr (flows_eq_of_load loaded reloaded) same

/-- A flow that a device starts on any message and one that it starts on a word, with the binding of
another device in between. -/
def promotion : List Binding :=
  [⟨"dev-1", "hi", none⟩, ⟨"dev-2", "hi", some "promo"⟩, ⟨"dev-1", "bye", some "PROMO"⟩]

/-- The word starts its flow although the other binding stands before it, and the binding of the
other device makes no difference. -/
theorem resolves_of_load_promotion :
    ∃ library alone graphs flow, load (idleFiles "hi" "bye") "flows" promotion = .ok library ∧
      load (idleFiles "hi" "bye") "flows"
        [⟨"dev-1", "hi", none⟩, ⟨"dev-1", "bye", some "PROMO"⟩] = .ok alone ∧
      Stores (idleFiles "hi" "bye") "flows" graphs ∧
      library.resolve "dev-1" " promo " = .ok (some flow) ∧ flow.id = "bye" ∧
      Starts graphs promotion "dev-1" " promo " (some flow) ∧
      alone.resolve "dev-1" " promo " = .ok (some flow) := by
  have evaluated : (load (idleFiles "hi" "bye") "flows" promotion).toOption.map
      (fun library => (library.resolve "dev-1" " promo ").toOption.map (Option.map Graph.id)) =
        some (some (some "bye")) := by
    rw [load_idleFiles]
    decide +kernel
  have loads : (load (idleFiles "hi" "bye") "flows"
      [⟨"dev-1", "hi", none⟩, ⟨"dev-1", "bye", some "PROMO"⟩]).toOption.map (fun _ => ()) =
        some () := by
    rw [load_idleFiles]
    decide +kernel
  obtain ⟨library, loaded, told⟩ := exists_of_map_toOption evaluated
  obtain ⟨alone, reloaded, -⟩ := exists_of_map_toOption loads
  obtain ⟨graphs, stores, ⟨flow, resolved, starts⟩, alike⟩ :=
    resolves_of_load loaded "dev-1" " promo "
  rw [resolved] at told
  cases starts with
  | nothing _ => cases told
  | served chosen stored named last =>
      refine ⟨library, alone, graphs, _, loaded, reloaded, stores, resolved,
        Option.some.inj (Option.some.inj told), .served chosen stored named last, ?_⟩
      rw [alike _ _ reloaded (by decide), resolved]

end Library
end Flow
end ChatFlow
