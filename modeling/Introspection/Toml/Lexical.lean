/-!
# Blanks, names and texts

The small parts of a configuration text.  Each function reads from the front of what is left, and
returns what it has read with what is left after it, or nothing if there is no such part.
-/

namespace Introspection.Toml

/-- Whether a character is a blank or a tab. -/
def isSpace (c : Char) : Bool :=
  c == ' ' || c == '\t'

/-- Whether a character may stand in a comment: anything but controls, the tab excepted. -/
def isPlain (c : Char) : Bool :=
  c == '\t' || (0x20 ≤ c.toNat && c.toNat != 0x7F)

/-- What is left after blanks and tabs. -/
def skipSpace (s : List Char) : List Char :=
  s.dropWhile isSpace

/-- What is left after a line break. -/
def newline? : List Char → Option (List Char)
  | '\n' :: rest => some rest
  | '\r' :: '\n' :: rest => some rest
  | _ => none

/-- What is left after a comment, if there is one. -/
def skipComment : List Char → List Char
  | '#' :: rest => rest.dropWhile isPlain
  | s => s

/-- What is left after the rest of a line, which may hold blanks and a comment and ends in a line
break or with the text. -/
def lineEnd? (s : List Char) : Option (List Char) :=
  match skipComment (skipSpace s) with
  | [] => some []
  | rest => newline? rest

/-- What is left after blanks, line breaks and comments that end in a line break. -/
def skipLines : (fuel : Nat) → List Char → Option (List Char)
  | 0, s => some s
  | fuel + 1, s =>
    match skipSpace s with
    | '#' :: rest => (newline? (rest.dropWhile isPlain)).bind (skipLines fuel)
    | '\n' :: rest => skipLines fuel rest
    | '\r' :: rest => (newline? ('\r' :: rest)).bind (skipLines fuel)
    | rest => some rest

/-! ### Texts -/

/-- The value of a hexadecimal digit. -/
def hexDigit? (c : Char) : Option Nat :=
  if '0' ≤ c && c ≤ '9' then some (c.toNat - 48)
  else if 'a' ≤ c && c ≤ 'f' then some (c.toNat - 87)
  else if 'A' ≤ c && c ≤ 'F' then some (c.toNat - 55)
  else none

/-- The value of a given number of hexadecimal digits. -/
def hexNumber? : (count value : Nat) → List Char → Option (Nat × List Char)
  | 0, value, s => some (value, s)
  | _ + 1, _, [] => none
  | count + 1, value, c :: rest =>
    (hexDigit? c).bind fun d => hexNumber? count (value * 16 + d) rest

/-- The character with a code point, if it has one. -/
def charAt? (code : Nat) : Option Char :=
  if code < 0xD800 || (0xDFFF < code && code < 0x110000) then some (Char.ofNat code) else none

/-- The character that an escape stands for, behind the backslash. -/
def escape? : List Char → Option (Char × List Char)
  | 'b' :: rest => some ('\x08', rest)
  | 't' :: rest => some ('\t', rest)
  | 'n' :: rest => some ('\n', rest)
  | 'f' :: rest => some ('\x0C', rest)
  | 'r' :: rest => some ('\r', rest)
  | '"' :: rest => some ('"', rest)
  | '\\' :: rest => some ('\\', rest)
  | 'u' :: rest => do
    let (code, rest) ← hexNumber? 4 0 rest
    return (← charAt? code, rest)
  | 'U' :: rest => do
    let (code, rest) ← hexNumber? 8 0 rest
    return (← charAt? code, rest)
  | _ => none

/-- The rest of a text between double quotes. -/
def basicRest? : (fuel : Nat) → List Char → Option (List Char × List Char)
  | 0, _ => none
  | _, [] => none
  | _, '"' :: rest => some ([], rest)
  | fuel + 1, '\\' :: rest => do
    let (c, rest) ← escape? rest
    let (cs, rest) ← basicRest? fuel rest
    return (c :: cs, rest)
  | fuel + 1, c :: rest =>
    if isPlain c then (basicRest? fuel rest).map fun (cs, rest) => (c :: cs, rest) else none

/-- The rest of a text between single quotes. -/
def literalRest? : List Char → Option (List Char × List Char)
  | [] => none
  | c :: rest =>
    if c = '\'' then some ([], rest)
    else if isPlain c then (literalRest? rest).map fun (cs, rest) => (c :: cs, rest)
    else none

/-- What is left after a backslash at the end of a line: the blanks and line breaks that follow do
not count. -/
def continuation? (s : List Char) : Option (List Char) :=
  (newline? (skipSpace s)).map skipBlankLines
where
  /-- What is left after blanks and line breaks. -/
  skipBlankLines : List Char → List Char
    | '\r' :: '\n' :: rest => skipBlankLines rest
    | c :: rest => if isSpace c || c = '\n' then skipBlankLines rest else c :: rest
    | [] => []

/-- The rest of a text over several lines.  It ends in three quotes, before which up to two more
may stand; `quote` is the quote, and only between double ones are there escapes. -/
def linesRest? (quote : Char) : (fuel : Nat) → List Char → Option (List Char × List Char)
  | 0, _ => none
  | _, [] => none
  | fuel + 1, c :: rest =>
    if c = quote then
      let quotes := ((c :: rest).takeWhile (· = quote)).length
      let rest := (c :: rest).dropWhile (· = quote)
      if quotes ≤ 2 then
        (linesRest? quote fuel rest).map fun (cs, rest) => (List.replicate quotes quote ++ cs, rest)
      else if quotes ≤ 5 then some (List.replicate (quotes - 3) quote, rest)
      else none
    else if c = '\\' && quote = '"' then
      match continuation? rest with
      | some rest => linesRest? quote fuel rest
      | none => do
        let (c, rest) ← escape? rest
        let (cs, rest) ← linesRest? quote fuel rest
        return (c :: cs, rest)
    else
      match newline? (c :: rest) with
      | some rest => (linesRest? quote fuel rest).map fun (cs, rest) => ('\n' :: cs, rest)
      | none =>
        if isPlain c then
          (linesRest? quote fuel rest).map fun (cs, rest) => (c :: cs, rest)
        else none

/-- A text over several lines behind its opening quotes; a line break right behind them does not
count. -/
def lines? (quote : Char) (s : List Char) : Option (String × List Char) :=
  (linesRest? quote (s.length + 1) ((newline? s).getD s)).map fun (cs, rest) =>
    (String.ofList cs, rest)

/-- A text on one line. -/
def line? : List Char → Option (String × List Char)
  | '"' :: rest =>
    (basicRest? (rest.length + 1) rest).map fun (cs, rest) => (String.ofList cs, rest)
  | '\'' :: rest => (literalRest? rest).map fun (cs, rest) => (String.ofList cs, rest)
  | _ => none

/-- A text of any form. -/
def text? : List Char → Option (String × List Char)
  | '"' :: '"' :: '"' :: rest => lines? '"' rest
  | '\'' :: '\'' :: '\'' :: rest => lines? '\'' rest
  | s => line? s

/-! ### Names -/

/-- Whether a character may stand in a name without quotes. -/
def isNameChar (c : Char) : Bool :=
  c.isAlphanum || c == '_' || c == '-'

/-- A name without dots, in quotes or not. -/
def simpleName? (s : List Char) : Option (String × List Char) :=
  match s with
  | '"' :: _ => line? s
  | '\'' :: _ => line? s
  | _ =>
    match s.takeWhile isNameChar with
    | [] => none
    | name => some (String.ofList name, s.dropWhile isNameChar)

/-- A name with its dots, as the parts between them. -/
def nameParts? : (fuel : Nat) → List Char → Option (List String × List Char)
  | 0, _ => none
  | fuel + 1, s => do
    let (name, rest) ← simpleName? (skipSpace s)
    match skipSpace rest with
    | '.' :: rest =>
      let (names, rest) ← nameParts? fuel rest
      return (name :: names, rest)
    | rest => return ([name], rest)

/-- The first number of parts that no name has. -/
def namePartsBelow : Nat := 80

/-- A name with its dots, as what stands before the last dot and the last part. -/
def name? (s : List Char) : Option ((List String × String) × List Char) := do
  let (names, rest) ← nameParts? (s.length + 1) s
  if names.length < namePartsBelow then
    return ((names.dropLast, ← names.getLast?), rest)
  else none

end Introspection.Toml
