import ChatFlow.Flow.Node
import ChatFlow.Template

/-!
# Prompts for the text generator

What the text generator is told before it sees the user's text: the prompt of the node, for one
kind of node also reference material, the stage of the execution, and the form that the reply
must have.
-/

namespace ChatFlow
namespace Prompt

/-- The form that a reply must have. -/
def replyForm : String :=
  "Reply with a single JSON object and nothing else: " ++
    "\x7b\"Stage\": \"<stage name or empty>\", \"Response\": [\x7b\"type\": \"text\", " ++
    "\"content\": \"...\"\x7d]\x7d. " ++
    "Use type \"image\", \"video\" or \"audio\" with a URL as content to send media."

/-- The reference material that a node adds to its prompt. -/
def reference (node : Flow.Node) (context : TemplateContext) : String :=
  if node.kind = .advancedAiPrompt then
    match node.text? ["knowledge", "context"] with
    | some reference => "\n\nReference:\n" ++ Template.render context reference
    | none => ""
  else ""

/-- The stage as the prompt names it. -/
def stageName (context : TemplateContext) : String :=
  match context.stage with
  | none | some "" => "none"
  | some stage => stage

/-- The prompt of a node in a context. -/
def compose (node : Flow.Node) (context : TemplateContext) : String :=
  let base := (node.text? ["prompt", "systemPrompt", "system_prompt", "text"]).getD
    "You are a helpful assistant."
  Template.render context base ++ reference node context ++
    "\n\nCurrent stage: " ++ stageName context ++ "\n\n" ++ replyForm

/-- The key for the text generator that a node brings along. -/
def apiKey? (node : Flow.Node) : Option String :=
  node.text? ["apiKey", "api_key"]

end Prompt
end ChatFlow
