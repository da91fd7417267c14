import DocExcerpt.Page.Reading
import DocExcerpt.Page.Section

/-!
# Cutting a section out of a page

A section is cut out of the lines of a page as they are read. The description of a class is put
together anew: the definitions that follow its heading are moved before the details, and the body
follows. A reader that meets an error before the section is complete has no section to give, so an
excerpt is whole or there is none.
-/

namespace DocExcerpt.Page

/-- A reader of the lines of a page: what it makes of them, and the lines that it has left. -/
abbrev Reader := StateT Reading (Except FetchError)

/-- The next line; none at the end of the page. -/
def nextLine : Reader (Option Text) := fun reading =>
  match reading.lines, reading.error with
  | line :: lines, error => .ok (some line, ⟨lines, error⟩)
  | [], some error => .error error
  | [], none => .ok (none, reading)

/-- Reads the lines before the first one that satisfies `stop`, and that line; up to the end of
the page if there is none. Returns the lines before, and whether the line was found. -/
def linesUntil (stop : Text → Bool) : Reader (List Text × Option Text) := fun reading =>
  go reading.error reading.lines
where
  go (error : Option FetchError) : List Text → Except FetchError ((List Text × Option Text) × Reading)
    | [] =>
      match error with
      | some error => .error error
      | none => .ok (([], none), ⟨[], none⟩)
    | line :: lines =>
      if stop line then .ok (([], some line), ⟨lines, error⟩)
      else
        match go error lines with
        | .ok ((before, found), rest) => .ok ((line :: before, found), rest)
        | .error error => .error error

/-- Whether a line is a given tag and nothing else, in any letter case. -/
def isTag (tag : Text) (line : Text) : Bool := line.upper = tag

def hasTag (tag : Text) (line : Text) : Bool := Text.hasPhrase tag line.upper

/-- The heading of a class description. From the first line that closes a heading of the second
level on, only the closing tags remain, one for each line that has one. -/
def titleText (lines : List Text) : Text :=
  let close := "</H2>".toList
  (lines.takeWhile (!hasTag close ·)).flatten ++
    ((lines.dropWhile (!hasTag close ·)).filter (hasTag close)).flatMap fun _ => close

def definitionsText (lines : List Text) : Text :=
  lines.flatMap (Text.replaceAll "<DT>".toList "<DT><BR>".toList)

/-- The text of a class description up to its body: heading, definitions, details. -/
def classSummary : Reader Text := do
  let (title, _) ← linesUntil (isTag "<DL>".toList)
  let (details, _) ← linesUntil (isTag "<HR>".toList)
  let (definitions, _) ← linesUntil (isTag "<P>".toList)
  return titleText title ++ "<DL>".toList ++ definitionsText definitions ++ details.flatten
    ++ "<P>".toList

/-- The body of a section: its lines but for those with a rule. -/
def bodyText (lines : List Text) : Text := (lines.filter (!hasTag "<HR>".toList ·)).flatten

/-- Cuts out a section; the text is empty if the page does not have it. -/
def excerpt (part : Section) : Reader Text := do
  match ← linesUntil (hasTag part.startMark) with
  | (_, none) => return []
  | (_, some first) =>
    let summary ← if part = .classDoc then classSummary else pure []
    let (body, _) ← linesUntil (Text.hasPhrase part.endMark)
    return "<HTML>".toList ++ first ++ summary ++ bodyText body ++ "</HTML>".toList

def Reading.excerpt (reading : Reading) (part : Section) : Except FetchError Text :=
  (Page.excerpt part reading).map (·.1)

def excerptOfText (page : Text) (part : Section) : Text :=
  ((Reading.ofBytes .none (Utf8.encode page)).excerpt part).toOption.getD []

end DocExcerpt.Page
