import DocExcerpt.Link.Address

/-!
# Sections of a documentation page
-/

namespace DocExcerpt.Page

/-- The part of a page that is asked for: the description of the class, or that of the member
whose anchor has a given name. -/
inductive Section where
  | classDoc
  | member (name : Text)
  deriving DecidableEq, Repr

namespace Section

/-- The section that an address asks for: a fragment names a member, in upper case, and an address
without one means the class. -/
def of (address : Text) : Section :=
  match Link.fragment? address with
  | some name => .member name.upper
  | none => .classDoc

def memberMark : Text := "<A NAME=".toList

def classStart : Text := "<!-- ======== START OF CLASS DATA ======== -->".toList

def classEnd : Text := "SUMMARY ======== -->".toList

/-- What the first line of a section contains once it is in upper case. -/
def startMark : Section → Text
  | .classDoc => classStart
  | .member name => memberMark ++ ['"'] ++ name ++ ['"']

/-- What the line after a section contains, letter case included. -/
def endMark : Section → Text
  | .classDoc => classEnd
  | .member _ => memberMark

end Section

end DocExcerpt.Page
