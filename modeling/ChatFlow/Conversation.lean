/-!
# Conversations

A conversation is one user's phone on one device; everything that is stored or locked belongs to
one conversation.
-/

namespace ChatFlow

/-- The two ends of a conversation. -/
structure Conversation where
  /-- The user's phone. -/
  phone : String
  /-- The device that the user talks to. -/
  device : String
deriving DecidableEq, Inhabited, Repr

namespace Conversation

/-- The text that names a conversation. -/
def address (conversation : Conversation) : String :=
  conversation.phone ++ "@" ++ conversation.device

end Conversation

end ChatFlow
