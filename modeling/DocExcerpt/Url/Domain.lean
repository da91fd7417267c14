import DocExcerpt.Text.Composition
import DocExcerpt.Text.Utf8
import DocExcerpt.Url.Idna.Direction
import DocExcerpt.Url.Idna.Joiner
import DocExcerpt.Url.Idna.Mapping
import DocExcerpt.Url.Idna.Punycode

/-!
# Domain names

A domain name is a list of labels between dots. Its characters are mapped and composed first. A
label that announces Punycode stands for the text that is written so, which must have come out of
the mapping already; every other label stands for itself. The name is fit for use if each of these
texts is, and its ASCII form has every label in ASCII.
-/

namespace DocExcerpt.Url

/-- An ASCII character that no domain name may hold: a control, the blank, and the delimiters of a
URL. -/
def isForbiddenInDomain (c : Char) : Bool :=
  c.toNat ≤ 0x20 || c = '\x7F' || "%#/:<>?@[\\]^|".toList.contains c

def isAscii (t : Text) : Bool := t.all fun c => c.toNat < 0x80

def punycodeMark : Text := "xn--".toList

/-- The longest text of a label that is read from Punycode, and that is written in it. -/
def longestRead : Nat := 2000
@[inherit_doc longestRead] def longestWritten : Nat := 1000

def mapped? (name : Text) : Option Text :=
  (name.mapM Idna.map?).map fun images => Text.composed images.flatten

/-- The text of a label that is written in Punycode: one that is not ASCII and that the mapping
leaves as it is. -/
def punycodeText? (written : Text) : Option Text :=
  if longestRead < written.length then none
  else
    match Idna.Punycode.decode? written with
    | none => none
    | some t =>
      if isAscii t ∨ punycodeMark.isPrefixOf t ∨ mapped? t ≠ some t then none else some t

/-- Whether the text of a label is fit for use: it begins with no mark, and its joiners stand where
they may. -/
def isFit (label : Text) : Bool :=
  !(label.head?.map Idna.marks.has).getD false && Idna.joinersFit [] label

def labelText? (label : Text) : Option Text :=
  (match Text.afterPhrase? punycodeMark label with
    | some written => punycodeText? written
    | none => some label).filter isFit

def asciiLabel? (label : Text) : Option Text :=
  if isAscii label then some label
  else if longestWritten < label.length then none
  else some (punycodeMark ++ Idna.Punycode.encode label)

def asciiDomain? (name : Bytes) : Option Text :=
  match (Utf8.decode? name).bind mapped? with
  | none => none
  | some mapped =>
    if mapped.any isForbiddenInDomain then none
    else
      let labels := Text.splitOnChar '.' mapped
      match labels.mapM labelText? with
      | none => none
      | some texts =>
        if Idna.directionsFit texts then
          (labels.mapM asciiLabel?).map fun labels => ['.'].intercalate labels
        else none

end DocExcerpt.Url
