/-!
# Errors

What can go wrong, by cause, and the one text of each cause.  A call that goes wrong returns an
error, or gives up all of its work.
-/

namespace ChatFlow

/-- What can go wrong. -/
inductive Error where
  /-- No flow has this id. -/
  | flowNotFound (flow : String)
  /-- A flow breaks a rule of flows. -/
  | invalidFlow (flow message : String)
  /-- A flow has no node with this id. -/
  | nodeNotFound (flow node : String)
  /-- The store failed. -/
  | database (message : String)
  /-- No execution is active where one is needed. -/
  | executionNotFound (conversation : String)
  /-- A message could not be delivered over a channel. -/
  | dispatch (channel message : String)
  /-- A media address does not lead to usable media. -/
  | mediaValidation (url message : String)
  /-- The text generator could not be asked. -/
  | aiRequest (message : String)
  /-- The text generator's answer makes no sense. -/
  | aiParse (message : String)
  /-- The delay queue failed. -/
  | scheduler (message : String)
  /-- No slot is free for a message. -/
  | queueFull
  /-- The pool of workers takes no more messages. -/
  | poolClosed
  /-- A setting is wrong. -/
  | config (message : String)
  /-- There is no settings file at this path. -/
  | configNotFound (path : String)
  /-- A file could not be read. -/
  | io (message : String)
  /-- A text is not the JSON that was expected. -/
  | json (message : String)
deriving DecidableEq, Inhabited, Repr

namespace Error

/-- The text of an error. -/
def message : Error → String
  | .flowNotFound flow => "Flow not found: " ++ flow
  | .invalidFlow flow message => "Invalid flow " ++ flow ++ ": " ++ message
  | .nodeNotFound flow node => "Node '" ++ node ++ "' not found in flow " ++ flow
  | .database message => "Database error: " ++ message
  | .executionNotFound conversation => "Execution not found: " ++ conversation
  | .dispatch channel message => "Dispatch failed: " ++ channel ++ ": " ++ message
  | .mediaValidation url message => "Media validation failed for " ++ url ++ ": " ++ message
  | .aiRequest message => "AI request failed: " ++ message
  | .aiParse message => "AI response parse error: " ++ message
  | .scheduler message => "Scheduler error: " ++ message
  | .queueFull => "Ingress queue is full"
  | .poolClosed => "Ingress pool is shut down"
  | .config message => "Config error: " ++ message
  | .configNotFound path => "Config file not found: " ++ path
  | .io message => "I/O error: " ++ message
  | .json message => "JSON error: " ++ message

end Error

/-- How a call fails. -/
inductive Fault where
  /-- The call returns an error. -/
  | error (error : Error)
  /-- The callee gives up all of its work, saying why. -/
  | panic (message : String)
deriving DecidableEq, Inhabited, Repr

end ChatFlow
