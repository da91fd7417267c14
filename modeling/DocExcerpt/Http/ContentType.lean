import DocExcerpt.Text.Blank
import DocExcerpt.Text.Utf8

/-!
# Content types

The character set of a body is named in the content type of its answer.
-/

namespace DocExcerpt.Http

def charsetParameter? (parameter : Text) : Option Text :=
  match parameter.splitAtChar? '=' with
  | some (name, value) =>
    if Text.lower (Text.trimBlanks name) = "charset".toList then
      some ((Text.trimBlanks value).trimBoth (· = '"'))
    else none
  | none => none

/-- The label of the character set that a content type names, in the first of its parameters that
does. -/
def charsetLabel? (contentType : Text) : Option Text :=
  ((contentType.splitOnChar ';').drop 1).findSome? charsetParameter?

/-- The content type that a header line gives.  A line that is no text gives none. -/
def contentTypeOf? (line : Bytes) : Option Text :=
  match (Utf8.decode? line).bind (Text.splitAtChar? ':') with
  | some (name, value) =>
    if Text.lower (Text.trimBlanks name) = "content-type".toList then some (Text.trimBlanks value)
    else none
  | none => none

end DocExcerpt.Http
