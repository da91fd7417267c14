import DocExcerpt.Text.Digit
import DocExcerpt.Toml.Value

/-!
# Strings, numbers and dates of TOML

Each reader takes a text and gives what it has read together with the rest of the text, or nothing.
-/

namespace DocExcerpt.Toml

abbrev Parser (α : Type) := Text → Option (α × Text)

/-! ## Blanks, line ends, comments -/

/-- A blank within a line. -/
def isBlank (c : Char) : Bool := c = ' ' || c = '\t'

def skipBlanks (t : Text) : Text := t.dropWhile isBlank

/-- A character that may stand in a comment or, apart from delimiters, in a string: the tab, and
everything but controls. -/
def isPlain (c : Char) : Bool := c = '\t' || (0x20 ≤ c.toNat && c.toNat ≠ 0x7F)

def afterNewline? : Text → Option Text
  | '\n' :: t => some t
  | '\r' :: '\n' :: t => some t
  | _ => none

/-- The text behind the end of an expression: blanks, perhaps a comment, and the end of the line
or of the document. -/
def afterExpression? (t : Text) : Option Text :=
  let t := skipBlanks t
  let t := if t.head? = some '#' then t.dropWhile isPlain else t
  if t.isEmpty then some [] else afterNewline? t

/-- A text without the blanks, line ends and comments at its head; `inComment` says whether it
begins inside a comment. -/
def skipFiller (inComment : Bool) : Text → Text
  | [] => []
  | '\r' :: '\n' :: t => skipFiller false t
  | '\n' :: t => skipFiller false t
  | c :: t =>
    if inComment ∧ isPlain c then skipFiller true t
    else if !inComment ∧ isBlank c then skipFiller false t
    else if !inComment ∧ c = '#' then skipFiller true t
    else c :: t

/-! ## Strings -/

def hexChar? (digits : Text) : Option Char :=
  (Text.number? 16 digits).bind fun n => if n.isValidChar then some (Char.ofNat n) else none

def simpleEscape? (letter : Char) : Option Char :=
  if letter = 'b' then some '\x08'
  else if letter = 't' then some '\t'
  else if letter = 'n' then some '\n'
  else if letter = 'f' then some '\x0C'
  else if letter = 'r' then some '\r'
  else if letter = '"' ∨ letter = '\\' then some letter
  else none

/-- The rest of a string in double quotes, behind its opening quote. -/
def basicString : Parser Text
  | '"' :: t => some ([], t)
  | '\\' :: 'u' :: a :: b :: c :: d :: t => do
    let char ← hexChar? [a, b, c, d]
    let (content, rest) ← basicString t
    some (char :: content, rest)
  | '\\' :: 'U' :: a :: b :: c :: d :: e :: f :: g :: h :: t => do
    let char ← hexChar? [a, b, c, d, e, f, g, h]
    let (content, rest) ← basicString t
    some (char :: content, rest)
  | '\\' :: letter :: t => do
    let char ← simpleEscape? letter
    let (content, rest) ← basicString t
    some (char :: content, rest)
  | c :: t => do
    if !isPlain c then none
    let (content, rest) ← basicString t
    some (c :: content, rest)
  | [] => none

/-- The rest of a string in single quotes, behind its opening quote. -/
def literalString : Parser Text
  | '\'' :: t => some ([], t)
  | c :: t => do
    if !isPlain c then none
    let (content, rest) ← literalString t
    some (c :: content, rest)
  | [] => none

/-- Whether a text goes on with blanks and a line end, so that a backslash before it joins two
lines. -/
def joinsLines (t : Text) : Bool := (afterNewline? (skipBlanks t)).isSome

/-- The end of a string of several lines: three of its quotes. One or two more before them belong
to the content. -/
def closing? (quote : Char) (t : Text) : Option (Text × Text) :=
  let run := (t.takeWhile (· = quote)).length
  if run < 3 then none
  else some (List.replicate (min (run - 3) 2) quote, t.drop (3 + min (run - 3) 2))

/-- The rest of a string of several lines in double quotes. While `joining`, blanks and line ends
are passed over. -/
def multilineBasic (joining : Bool) (t : Text) : Option (Text × Text) :=
  match closing? '"' t with
  | some (content, rest) => some (content, rest)
  | none =>
    match t with
    | '\\' :: 'u' :: a :: b :: c :: d :: t => do
      let char ← hexChar? [a, b, c, d]
      let (content, rest) ← multilineBasic false t
      some (char :: content, rest)
    | '\\' :: 'U' :: a :: b :: c :: d :: e :: f :: g :: h :: t => do
      let char ← hexChar? [a, b, c, d, e, f, g, h]
      let (content, rest) ← multilineBasic false t
      some (char :: content, rest)
    | '\\' :: letter :: t =>
      if joinsLines (letter :: t) then multilineBasic true (letter :: t)
      else do
        let char ← simpleEscape? letter
        let (content, rest) ← multilineBasic false t
        some (char :: content, rest)
    | '\r' :: '\n' :: t =>
      if joining then multilineBasic true t
      else (multilineBasic false t).map fun (content, rest) => ('\n' :: content, rest)
    | c :: t =>
      if joining ∧ (isBlank c ∨ c = '\n') then multilineBasic true t
      else if isPlain c ∨ c = '\n' then
        (multilineBasic false t).map fun (content, rest) => (c :: content, rest)
      else none
    | [] => none
termination_by t.length

def multilineLiteral (t : Text) : Option (Text × Text) :=
  match closing? '\'' t with
  | some (content, rest) => some (content, rest)
  | none =>
    match t with
    | '\r' :: '\n' :: t =>
      (multilineLiteral t).map fun (content, rest) => ('\n' :: content, rest)
    | c :: t =>
      if isPlain c ∨ c = '\n' then
        (multilineLiteral t).map fun (content, rest) => (c :: content, rest)
      else none
    | [] => none
termination_by t.length

def lineString : Parser Text
  | '"' :: t => basicString t
  | '\'' :: t => literalString t
  | _ => none

/-- A string. A line end right behind three opening quotes does not count. -/
def string : Parser Text
  | '"' :: '"' :: '"' :: t => multilineBasic false ((afterNewline? t).getD t)
  | '\'' :: '\'' :: '\'' :: t => multilineLiteral ((afterNewline? t).getD t)
  | t => lineString t

/-! ## Numbers -/

/-- A run of digits of a base in which single underscores may stand between digits. -/
def digitRun (base : Nat) : Parser Text
  | [] => none
  | [c] => (digitOfBase? base c).map fun _ => ([c], [])
  | c :: d :: t => do
    let _ ← digitOfBase? base c
    if d = '_' then
      let (digits, rest) ← digitRun base t
      some (c :: digits, rest)
    else if (digitOfBase? base d).isSome then
      let (digits, rest) ← digitRun base (d :: t)
      some (c :: digits, rest)
    else some ([c], d :: t)

/-- The sign of a number: whether it is a minus, and what follows. -/
def cutSign : Text → Bool × Text
  | '-' :: t => (true, t)
  | '+' :: t => (false, t)
  | t => (false, t)

/-- The digits of a decimal integer: a zero alone, or a run that begins with another digit. -/
def decimalDigits : Parser Text
  | '0' :: t => some (['0'], t)
  | t => digitRun 10 t

def inRange (n : Int) : Bool := -0x8000000000000000 ≤ n && n < 0x8000000000000000

/-- An integer: decimal with an optional sign, or in base sixteen, eight or two without one. -/
def integer (t : Text) : Option (Int × Text) := do
  let (n, rest) ←
    match t with
    | '0' :: 'x' :: t => do
      let (digits, rest) ← digitRun 16 t
      some (((Text.number? 16 digits).getD 0 : Int), rest)
    | '0' :: 'o' :: t => do
      let (digits, rest) ← digitRun 8 t
      some (((Text.number? 8 digits).getD 0 : Int), rest)
    | '0' :: 'b' :: t => do
      let (digits, rest) ← digitRun 2 t
      some (((Text.number? 2 digits).getD 0 : Int), rest)
    | t => do
      let (minus, t) := cutSign t
      let (digits, rest) ← decimalDigits t
      let n : Int := (Text.number? 10 digits).getD 0
      some (if minus then -n else n, rest)
  if inRange n then some (n, rest) else none

def nearestFloat (mantissa : Nat) (exponent : Int) : Float :=
  let magnitude : Int := (Nat.toDigits 10 mantissa).length + exponent
  if mantissa = 0 ∨ magnitude < -400 then 0
  else if 400 < magnitude then 1 / 0
  else Float.ofScientific mantissa (exponent < 0) exponent.natAbs

def fraction : Parser Text
  | '.' :: t => digitRun 10 t
  | _ => none

def exponent : Parser Int
  | 'e' :: t | 'E' :: t => do
    let (minus, t) := cutSign t
    let (digits, rest) ← digitRun 10 t
    let n : Int := (Text.number? 10 digits).getD 0
    some (if minus then -n else n, rest)
  | _ => none

/-- A float: a decimal integer with a fraction, an exponent, or both, or one of the words `inf`
and `nan`. A number too large for a float is refused if it is positive. -/
def float (t : Text) : Option (Float × Text) := do
  let (minus, t) := cutSign t
  match t with
  | 'i' :: 'n' :: 'f' :: rest => some (if minus then -(1 / 0) else 1 / 0, rest)
  | 'n' :: 'a' :: 'n' :: rest => some (0 / 0, rest)
  | t =>
    let (whole, t) ← decimalDigits t
    let (places, scale, rest) ←
      match fraction t with
      | some (places, t) =>
        match exponent t with
        | some (scale, rest) => some (places, scale, rest)
        | none => some (places, 0, t)
      | none => (exponent t).map fun (scale, rest) => ([], scale, rest)
    let mantissa := (Text.number? 10 (whole ++ places)).getD 0
    let x := nearestFloat mantissa (scale - places.length)
    if !minus ∧ x == 1 / 0 then none
    some (if minus then -x else x, rest)

/-! ## Dates and times -/

def fixedDigits (count : Nat) (t : Text) : Option (Nat × Text) :=
  if (t.take count).length = count ∧ (t.take count).all Char.isDigit then
    (Text.number? 10 (t.take count)).map fun n => (n, t.drop count)
  else none

def afterChar? (c : Char) : Text → Option Text
  | d :: t => if c = d then some t else none
  | [] => none

def daysIn (year month : Nat) : Nat :=
  if month = 2 then
    if year % 4 = 0 ∧ (year % 100 ≠ 0 ∨ year % 400 = 0) then 29 else 28
  else if month = 4 ∨ month = 6 ∨ month = 9 ∨ month = 11 then 30
  else 31

def afterDate? (t : Text) : Option Text := do
  let (year, t) ← fixedDigits 4 t
  let (month, t) ← fixedDigits 2 (← afterChar? '-' t)
  let (day, t) ← fixedDigits 2 (← afterChar? '-' t)
  if 1 ≤ month ∧ month ≤ 12 ∧ 1 ≤ day ∧ day ≤ daysIn year month then some t else none

def afterHourMinute? (t : Text) : Option Text := do
  let (hour, t) ← fixedDigits 2 t
  let (minute, t) ← fixedDigits 2 (← afterChar? ':' t)
  if hour ≤ 23 ∧ minute ≤ 59 then some t else none

/-- The text behind a time of day, with a fraction of a second if there is one. -/
def afterTime? (t : Text) : Option Text := do
  let (second, t) ← fixedDigits 2 (← afterChar? ':' (← afterHourMinute? t))
  if 60 < second then none
  match t with
  | '.' :: c :: t => if c.isDigit then some (t.dropWhile Char.isDigit) else none
  | ['.'] => none
  | t => some t

/-- The text behind an offset from universal time, or the whole text if it begins with none. -/
def afterOffset? : Text → Option Text
  | 'Z' :: t | 'z' :: t => some t
  | '+' :: t | '-' :: t => afterHourMinute? t
  | t => some t

def afterDateTime? (t : Text) : Option Text :=
  match afterDate? t with
  | some (mark :: rest) =>
    if mark = 'T' ∨ mark = 't' ∨ mark = ' ' then
      match afterTime? rest with
      | some rest => afterOffset? rest
      | none => some (mark :: rest)
    else some (mark :: rest)
  | some [] => some []
  | none => afterTime? t

end DocExcerpt.Toml
