import ChatFlow.Flow.Graph
import ChatFlow.Settings

/-!
# Libraries of flows

A library holds flows by their ids and says which device runs which flow.  Of the bindings of a
device, one whose trigger is the message comes before one without a trigger, and of several such
bindings the first counts.  Adding a flow replaces the flow that has the same id.
-/

namespace ChatFlow
namespace Flow

/-- Flows by their ids, and the bindings of devices. -/
structure Library where
  /-- The flows. -/
  flows : Keyed Graph := []
  /-- The bindings, in order. -/
  bindings : List Binding := []

namespace Library

/-- The library without flows. -/
def empty : Library := {}

/-- Adds a graph under its id. -/
def insert (library : Library) (graph : Graph) : Library :=
  { library with flows := Keyed.insert graph.id graph library.flows }

/-- Adds a binding after the others. -/
def bind (library : Library) (binding : Binding) : Library :=
  { library with bindings := library.bindings ++ [binding] }

/-- The ids of the flows, in order. -/
def ids (library : Library) : List String :=
  Keyed.keys library.flows

/-- The flow with an id. -/
def get (library : Library) (id : String) : Except Error Graph :=
  match Keyed.get? id library.flows with
  | some graph => .ok graph
  | none => .error (.flowNotFound id)

/-- Whether the trigger of a binding is the message, up to blanks around them and the case of
ASCII letters. -/
def isTriggered (binding : Binding) (input : String) : Bool :=
  match binding.trigger with
  | some trigger => Text.equalIgnoringAsciiCase (Text.trim trigger) (Text.trim input)
  | none => false

/-- The binding that a message to a device starts. -/
def bindingFor? (library : Library) (device input : String) : Option Binding :=
  let ofDevice := library.bindings.filter fun binding => binding.device == device
  (ofDevice.find? fun binding => isTriggered binding input).or
    (ofDevice.find? fun binding => binding.trigger.isNone)

/-- The flow that a message to a device starts, if there is one. -/
def resolve (library : Library) (device input : String) : Except Error (Option Graph) :=
  match library.bindingFor? device input with
  | some binding => (library.get binding.flow).map some
  | none => .ok none

/-- A flow that was added is found. -/
theorem get_insert_self (library : Library) (graph : Graph) :
    (library.insert graph).get graph.id = .ok graph := by
  simp [get, insert, Keyed.get?_insert_self]

/-- Adding a flow does not touch the flows with other ids. -/
theorem get_insert_of_ne
    (library : Library) (graph : Graph) (id : String) (different : id ≠ graph.id) :
    (library.insert graph).get id = library.get id := by
  simp [get, insert, Keyed.get?_insert_of_ne _ _ _ _ different]

end Library
end Flow
end ChatFlow
