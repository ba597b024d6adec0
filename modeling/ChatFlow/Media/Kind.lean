import ChatFlow.Text.Ascii
import ChatFlow.Text.Blank

/-!
# Kinds of media

Three kinds of media can be sent.  A kind is known by its name, by the content type of what an
address leads to, or, failing both, by the ending of the address.
-/

namespace ChatFlow
namespace Media

/-- A kind of media. -/
inductive Kind where
  /-- A picture. -/
  | image
  /-- A film. -/
  | video
  /-- A sound. -/
  | audio
deriving DecidableEq, Inhabited, Repr

namespace Kind

/-- The name of a kind. -/
def name : Kind → String
  | .image => "image"
  | .video => "video"
  | .audio => "audio"

/-- Reads the name of a kind or one of its synonyms, in any case and with blanks around it. -/
def ofName? (text : String) : Option Kind :=
  match Text.lowerAscii (Text.trim text) with
  | "image" | "photo" => some .image
  | "video" => some .video
  | "audio" | "voice" => some .audio
  | _ => none

/-- The kind with a name is read back from it. -/
theorem ofName?_name (kind : Kind) : ofName? kind.name = some kind := by
  cases kind <;> decide +kernel

end Kind

/-- The characters after the last dot of an address, its query and fragment left out; none when
there is no dot. -/
def extension (url : String) : String :=
  let path := url.toList.takeWhile fun c => c != '?' && c != '#'
  if path.contains '.' then
    String.ofList (path.reverse.takeWhile (· != '.')).reverse
  else ""

/-- The kind that an address seems to lead to, judged by its ending; an image when in doubt. -/
def Kind.guess (url : String) : Kind :=
  match Text.lowerAscii (extension url) with
  | "mp4" | "mov" | "webm" | "mkv" | "3gp" => .video
  | "mp3" | "ogg" | "oga" | "opus" | "wav" | "m4a" | "aac" => .audio
  | _ => .image

end Media
end ChatFlow
