import Introspection.Toml.Lexical

/-!
# Numbers, dates and times

Numbers in all their notations, and dates and times.  A number need not be kept, but it has to be
one: an integer has to fit into 64 bits, and a number with a point or an exponent may not be too
large.  Dates and times are brought into their usual form.
-/

namespace Introspection.Toml

/-! ### Digits -/

/-- Digits behind a digit, where a single underscore may stand between two digits. -/
def moreDigits (isDigit : Char → Bool) : List Char → List Char × List Char
  | '_' :: c :: rest =>
    if isDigit c then
      let (digits, rest) := moreDigits isDigit rest
      (c :: digits, rest)
    else ([], '_' :: c :: rest)
  | c :: rest =>
    if isDigit c then
      let (digits, rest) := moreDigits isDigit rest
      (c :: digits, rest)
    else ([], c :: rest)
  | [] => ([], [])

/-- At least one digit. -/
def digits? (isDigit : Char → Bool) : List Char → Option (List Char × List Char)
  | c :: rest =>
    if isDigit c then
      let (digits, rest) := moreDigits isDigit rest
      some (c :: digits, rest)
    else none
  | [] => none

/-- The value of digits. -/
def valueOf (base : Nat) (digits : List Char) : Nat :=
  digits.foldl (fun value c => value * base + (hexDigit? c).getD 0) 0

/-- Whether a sign stands in front, `true` for a minus, and what is left after it. -/
def sign : List Char → Bool × List Char
  | '-' :: rest => (true, rest)
  | '+' :: rest => (false, rest)
  | s => (false, s)

/-- The digits before a point: a zero stands alone. -/
def wholeDigits? (s : List Char) : Option (List Char × List Char) :=
  match s with
  | '0' :: rest => some (['0'], rest)
  | _ => digits? Char.isDigit s

/-! ### Numbers -/

/-- What is left after an integer in some base, behind the letter of the base. -/
def basedInteger? (base : Nat) (s : List Char) : Option (List Char) := do
  let (digits, rest) ← digits? (fun c => (hexDigit? c).any (· < base)) s
  if valueOf base digits < Nat.pow 2 63 then return rest else none

/-- What is left after an integer. -/
def integer? : List Char → Option (List Char)
  | '0' :: 'x' :: rest => basedInteger? 16 rest
  | '0' :: 'o' :: rest => basedInteger? 8 rest
  | '0' :: 'b' :: rest => basedInteger? 2 rest
  | s => do
    let (negative, rest) := sign s
    let (digits, rest) ← wholeDigits? rest
    let value := valueOf 10 digits
    let limit := Nat.pow 2 63
    if value < limit || (negative && value = limit) then return rest else none

/-- The digits behind a point, none if there is no point. -/
def fraction? : List Char → Option (List Char × List Char)
  | '.' :: rest => digits? Char.isDigit rest
  | s => some ([], s)

/-- The exponent, zero if there is none. -/
def exponent? (s : List Char) : Option (Int × List Char) :=
  match s with
  | [] => some (0, [])
  | c :: rest =>
    if c = 'e' || c = 'E' then
      let (negative, rest) := sign rest
      (digits? Char.isDigit rest).map fun (digits, rest) =>
        let value : Int := valueOf 10 digits
        (if negative then -value else value, rest)
    else some (0, s)

/-- The least whole number that is rounded to infinity. -/
def overflow : Nat := Nat.pow 2 1024 - Nat.pow 2 970

/-- Whether `digits * 10 ^ exponent` is rounded to infinity. -/
def overflows (digits : Nat) (exponent : Int) : Bool :=
  if digits = 0 then false
  else
    let leading := (Nat.toDigits 10 digits).length + exponent
    if leading < 308 then false
    else if leading > 310 then true
    else if exponent ≥ 0 then overflow ≤ digits * Nat.pow 10 exponent.toNat
    else overflow * Nat.pow 10 (-exponent).toNat ≤ digits

/-- What is left after one of the words for what is no finite number. -/
def special? : List Char → Option (List Char)
  | 'i' :: 'n' :: 'f' :: rest => some rest
  | 'n' :: 'a' :: 'n' :: rest => some rest
  | _ => none

/-- What is left after a number with a point or an exponent; one that is too large is none, unless
it is negative. -/
def decimal? (s : List Char) : Option (List Char) :=
  let (negative, rest) := sign s
  (special? rest).or do
    let (whole, rest) ← wholeDigits? rest
    let (fraction, rest') ← fraction? rest
    let (exponent, rest') ← exponent? rest'
    if rest' = rest then none
    else if !negative && overflows (valueOf 10 (whole ++ fraction)) (exponent - fraction.length)
    then none
    else return rest'

/-! ### Dates and times -/

/-- A number of exactly so many digits. -/
def fixedNumber? (count : Nat) (s : List Char) : Option (Nat × List Char) :=
  let digits := s.take count
  if digits.length = count && digits.all Char.isDigit then
    some (valueOf 10 digits, s.drop count)
  else none

/-- A number of two digits within bounds. -/
def twoDigits? (low high : Nat) (s : List Char) : Option (Nat × List Char) :=
  (fixedNumber? 2 s).filter fun (value, _) => low ≤ value && value ≤ high

/-- What is left after a character that has to come next. -/
def expect? (c : Char) : List Char → Option (List Char)
  | d :: rest => if c = d then some rest else none
  | [] => none

/-- The number of days in a month. -/
def daysIn (year month : Nat) : Nat :=
  if month = 2 then
    if (year % 4 = 0 && year % 100 ≠ 0) || year % 400 = 0 then 29 else 28
  else if month = 4 || month = 6 || month = 9 || month = 11 then 30
  else 31

/-- A number with zeros in front up to a width. -/
def padded (width n : Nat) : List Char :=
  let digits := Nat.toDigits 10 n
  List.replicate (width - digits.length) '0' ++ digits

/-- A date. -/
def date? (s : List Char) : Option (List Char × List Char) := do
  let (year, rest) ← fixedNumber? 4 s
  let (month, rest) ← twoDigits? 1 12 (← expect? '-' rest)
  let (day, rest) ← twoDigits? 1 (daysIn year month) (← expect? '-' rest)
  return (padded 4 year ++ ['-'] ++ padded 2 month ++ ['-'] ++ padded 2 day, rest)

/-- The fraction of a second: at most nine digits count, and zeros at the end do not show. -/
def secondFraction? : List Char → Option (List Char × List Char)
  | '.' :: rest =>
    match rest.takeWhile Char.isDigit with
    | [] => none
    | digits =>
      let shown := ((digits.take 9).reverse.dropWhile (· = '0')).reverse
      some (if shown.isEmpty then [] else '.' :: shown, rest.dropWhile Char.isDigit)
  | s => some ([], s)

/-- A time of day. -/
def time? (s : List Char) : Option (List Char × List Char) := do
  let (hour, rest) ← twoDigits? 0 23 s
  let (minute, rest) ← twoDigits? 0 59 (← expect? ':' rest)
  let (second, rest) ← twoDigits? 0 60 (← expect? ':' rest)
  let (fraction, rest) ← secondFraction? rest
  return (padded 2 hour ++ [':'] ++ padded 2 minute ++ [':'] ++ padded 2 second ++ fraction, rest)

/-- The distance of a time from the standard one, if it is given. -/
def offset? (s : List Char) : Option (List Char × List Char) :=
  match s with
  | [] => some ([], [])
  | c :: rest =>
    if c = 'Z' || c = 'z' then some (['Z'], rest)
    else if c = '+' || c = '-' then do
      let (hour, rest) ← twoDigits? 0 23 rest
      let (minute, rest) ← twoDigits? 0 59 (← expect? ':' rest)
      let shown := if hour = 0 && minute = 0 then '+' else c
      return (shown :: (padded 2 hour ++ [':'] ++ padded 2 minute), rest)
    else some ([], s)

/-- A time of day behind a date, and its distance from the standard one. -/
def timeAfterDate? (s : List Char) : Option (List Char × List Char) :=
  match s with
  | c :: rest =>
    if c = 'T' || c = 't' || c = ' ' then do
      let (time, rest) ← time? rest
      let (offset, rest) ← offset? rest
      return ('T' :: (time ++ offset), rest)
    else none
  | [] => none

/-- A date, a time, or both. -/
def moment? (s : List Char) : Option (String × List Char) :=
  let dated := (date? s).map fun (date, rest) =>
    match timeAfterDate? rest with
    | some (time, rest) => (date ++ time, rest)
    | none => (date, rest)
  (dated.or (time? s)).map fun (form, rest) => (String.ofList form, rest)

end Introspection.Toml
