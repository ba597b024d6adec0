import ChatFlow.Decimal.Reading
import ChatFlow.Json.Value
import ChatFlow.Media.Kind
import ChatFlow.Text.Ascii
import ChatFlow.Text.Blank

/-!
# Nodes

A node is one step of a flow: an id, a kind, and the free-form data that its kind reads.  Kinds
are written in several spellings; an unknown kind keeps its text and is walked through.
-/

namespace ChatFlow
namespace Flow

/-- The kinds of nodes. -/
inductive NodeKind where
  /-- Where every execution begins. -/
  | start
  /-- Sends a text. -/
  | message
  /-- Sends an image. -/
  | image
  /-- Sends a sound. -/
  | audio
  /-- Sends a film. -/
  | video
  /-- Records a stage and captures fields. -/
  | stage
  /-- Waits for a time. -/
  | delay
  /-- Branches on the user's text. -/
  | condition
  /-- Waits for the user's reply. -/
  | userReply
  /-- Waits for the user's reply, under another name. -/
  | waitingReplyTimes
  /-- Lets the text generator answer. -/
  | aiPrompt
  /-- Lets the text generator answer, under another name. -/
  | advancedAiPrompt
  /-- Lets the text generator answer, under a third name. -/
  | prompt
  /-- Does nothing. -/
  | manual
  /-- Ends the execution. -/
  | end
  /-- A kind this library does not know, as it was written. -/
  | unknown (text : String)
deriving DecidableEq, Inhabited, Repr

namespace NodeKind

/-- A text with every hyphen made an underscore. -/
def underscored (text : String) : String :=
  String.ofList (text.toList.map fun c => if c = '-' then '_' else c)

/-- Reads a kind: blanks around it, the case of its letters and the difference between a hyphen
and an underscore do not matter. -/
def ofText (text : String) : NodeKind :=
  match underscored (Text.lowerAscii (Text.trim text)) with
  | "start" => .start
  | "message" | "text" => .message
  | "image" => .image
  | "audio" => .audio
  | "video" => .video
  | "stage" => .stage
  | "delay" => .delay
  | "condition" => .condition
  | "user_reply" | "userreply" => .userReply
  | "waiting_reply_times" => .waitingReplyTimes
  | "ai_prompt" | "aiprompt" => .aiPrompt
  | "advanced_ai_prompt" => .advancedAiPrompt
  | "prompt" => .prompt
  | "manual" => .manual
  | "end" => .end
  | _ => .unknown text

/-- The canonical spelling of a kind; an unknown kind is spelt as it was written. -/
def text : NodeKind → String
  | .start => "start"
  | .message => "message"
  | .image => "image"
  | .audio => "audio"
  | .video => "video"
  | .stage => "stage"
  | .delay => "delay"
  | .condition => "condition"
  | .userReply => "user_reply"
  | .waitingReplyTimes => "waiting_reply_times"
  | .aiPrompt => "ai_prompt"
  | .advancedAiPrompt => "advanced_ai_prompt"
  | .prompt => "prompt"
  | .manual => "manual"
  | .end => "end"
  | .unknown text => text

/-- Whether a node of this kind waits for the user's reply. -/
def awaitsReply : NodeKind → Bool
  | .userReply | .waitingReplyTimes => true
  | _ => false

/-- Whether a node of this kind lets the text generator answer. -/
def isAi : NodeKind → Bool
  | .aiPrompt | .advancedAiPrompt | .prompt => true
  | _ => false

/-- The kind of media that a node of this kind sends. -/
def media? : NodeKind → Option Media.Kind
  | .image => some .image
  | .audio => some .audio
  | .video => some .video
  | _ => none

end NodeKind

/-- A step of a flow. -/
structure Node where
  /-- The id, by which edges and executions refer to the node. -/
  id : String
  /-- What the node does. -/
  kind : NodeKind
  /-- The free-form data that the node's kind reads. -/
  data : Json.Fields := []
deriving Inhabited, Repr

namespace Node

/-- The first text under one of the keys that is not blank. -/
def text? (node : Node) (keys : List String) : Option String :=
  (keys.filterMap fun key => (Keyed.get? key node.data).bind Json.Value.string?).find?
    fun text => !Text.isBlank text

/-- The number that a value stands for: a number, or a text that reads as one. -/
def numberOf? : Json.Value → Option Double
  | .number number => some number.toDouble
  | .string text => Decimal.double? (Text.trim text)
  | _ => none

/-- The first value under one of the keys that stands for a number. -/
def number? (node : Node) (keys : List String) : Option Double :=
  keys.findSome? fun key => (Keyed.get? key node.data).bind numberOf?

/-- The node with one more field of data. -/
def withField (node : Node) (key : String) (value : Json.Value) : Node :=
  { node with data := Keyed.insert key value node.data }

end Node

end Flow
end ChatFlow
