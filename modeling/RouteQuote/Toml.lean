import RouteQuote.Json.Value
import RouteQuote.Text.Basic
import RouteQuote.Text.Bytes

namespace RouteQuote.Toml

inductive Definition where
  | passed
  | header
  | dotted
  deriving DecidableEq, Repr

inductive Item where
  | value (j : Json)
  | table (definition : Definition) (members : List (String × Item))
  | tables (elements : List (List (String × Item)))

abbrev Members := List (String × Item)

namespace Item

mutual

def toJson : Item → Json
  | .value j => j
  | .table _ members => .object (membersToJson members)
  | .tables elements => .array (elementsToJson elements)

def membersToJson : List (String × Item) → List (String × Json)
  | [] => []
  | (key, item) :: rest => (key, item.toJson) :: membersToJson rest

def elementsToJson : List (List (String × Item)) → List Json
  | [] => []
  | members :: rest => .object (membersToJson members) :: elementsToJson rest

end

end Item

namespace Members

-- Puts a member in place of the one of its name, or at the end.
def put (key : String) (item : Item) : Members → Members
  | [] => [(key, item)]
  | (k, i) :: rest => if k = key then (k, item) :: rest else (k, i) :: put key item rest

-- Adds a value under a dotted key; none when the key is taken or leads through something else.
def addValue (j : Json) : List String → Members → Option Members
  | [], _ => none
  | [key], members =>
    match members.lookup key with
    | none => some (members.put key (.value j))
    | some _ => none
  | key :: rest, members =>
    match members.lookup key with
    | none => (addValue j rest []).map fun inner => members.put key (.table .dotted inner)
    | some (.table .dotted inner) => (addValue j rest inner).map fun inner => members.put key (.table .dotted inner)
    | some _ => none

-- Changes the table that a key leads to on the way to another; of several tables in an array it is the last.
def passing (f : Members → Option Members) (key : String) (members : Members) : Option Members :=
  match members.lookup key with
  | none => (f []).map fun inner => members.put key (.table .passed inner)
  | some (.table definition inner) => (f inner).map fun inner => members.put key (.table definition inner)
  | some (.tables elements) =>
    (f (elements.getLast?.getD [])).map fun inner => members.put key (.tables (elements.dropLast ++ [inner]))
  | some (.value _) => none

def addHeader : List String → Members → Option Members
  | [], _ => none
  | [key], members =>
    match members.lookup key with
    | none => some (members.put key (.table .header []))
    | some (.table .passed inner) => some (members.put key (.table .header inner))
    | some _ => none
  | key :: rest, members => passing (addHeader rest) key members

-- Begins one more table of an array.
def addElement : List String → Members → Option Members
  | [], _ => none
  | [key], members =>
    match members.lookup key with
    | none => some (members.put key (.tables [[]]))
    | some (.tables elements) => some (members.put key (.tables (elements ++ [[]])))
    | some _ => none
  | key :: rest, members => passing (addElement rest) key members

def within (f : Members → Option Members) : List String → Members → Option Members
  | [], members => f members
  | key :: rest, members => passing (within f rest) key members

end Members

abbrev Reader (α : Type) := StateT (List Char) Option α

namespace Reader

def isBlank (c : Char) : Bool := c == ' ' || c == '\t'

def skipBlanks : Reader Unit := modify (·.dropWhile isBlank)

def peek : Reader (Option Char) := return (← get).head?

def expect (c : Char) : Reader Unit := do
  match ← get with
  | d :: rest => if d = c then set rest else failure
  | [] => failure

-- Takes the character that is next, if it is that one.
def accept (c : Char) : Reader Bool := do
  match ← get with
  | d :: rest => if d = c then set rest; return true else return false
  | [] => return false

def isControl (c : Char) : Bool := (c.toNat < 0x20 && c != '\t') || c.toNat == 0x7F

def lineEnd : Reader Unit := do
  match ← get with
  | [] => return ()
  | '\n' :: rest => set rest
  | '\r' :: '\n' :: rest => set rest
  | _ => failure

def skipComment : Reader Unit := do
  if ← accept '#' then
    let s ← get
    let comment := s.takeWhile fun c => c != '\n'
    let comment := if comment.getLast? = some '\r' then comment.dropLast else comment
    if comment.any isControl then failure
    set (s.drop comment.length)

-- Blanks, comments and line ends, as between the items of an array.
def skipLines : Nat → Reader Unit
  | 0 => return ()
  | fuel + 1 => do
    skipBlanks
    skipComment
    match ← get with
    | '\n' :: rest => set rest; skipLines fuel
    | '\r' :: '\n' :: rest => set rest; skipLines fuel
    | _ => return ()

def literalString : Reader (List Char) := do
  let s ← get
  let body := s.takeWhile (· != '\'')
  if body.any isControl then failure
  set (s.drop body.length)
  expect '\''
  return body

-- Three quotes end a string of several lines; up to two more before them are part of it.
def closing? (quote : Char) (s : List Char) : Option (List Char × List Char) :=
  let quotes := s.takeWhile (· == quote)
  if quotes.length < 3 then none
  else
    let extra := min (quotes.length - 3) 2
    some (quotes.take extra, s.drop (extra + 3))

-- The line end right behind the quotes that open a string of several lines is no part of it.
def skipFirstLineEnd : Reader Unit := do
  match ← get with
  | '\n' :: rest => set rest
  | '\r' :: '\n' :: rest => set rest
  | _ => return ()

def literalLines : Nat → Reader (List Char)
  | 0 => failure
  | fuel + 1 => do
    let s ← get
    match closing? '\'' s with
    | some (extra, rest) => set rest; return extra
    | none =>
      match s with
      | [] => failure
      | '\n' :: rest => set rest; return '\n' :: (← literalLines fuel)
      | '\r' :: '\n' :: rest => set rest; return '\n' :: (← literalLines fuel)
      | c :: rest =>
        if isControl c then failure
        set rest
        return c :: (← literalLines fuel)

def hexEscape (digits : Nat) : Reader Char := do
  let s ← get
  let body := s.take digits
  if body.length < digits then failure
  let values ← body.mapM fun c => (Text.hexValue? c : Option Nat)
  let n := values.foldl (fun n d => 16 * n + d) 0
  set (s.drop digits)
  if n < 0xD800 ∨ (0xDFFF < n ∧ n < 0x110000) then return Char.ofNat n else failure

def escape : Reader Char := do
  match ← get with
  | [] => failure
  | c :: rest =>
    set rest
    match c with
    | 'b' => return '\x08'
    | 't' => return '\t'
    | 'n' => return '\n'
    | 'f' => return '\x0c'
    | 'r' => return '\r'
    | '"' => return '"'
    | '\\' => return '\\'
    | 'u' => hexEscape 4
    | 'U' => hexEscape 8
    | _ => failure

-- The body of a string between double quotes, the first of which was taken.
def basicString : Nat → Reader (List Char)
  | 0 => failure
  | fuel + 1 => do
    match ← get with
    | [] => failure
    | '"' :: rest => set rest; return []
    | '\\' :: rest =>
      set rest
      let c ← escape
      return c :: (← basicString fuel)
    | c :: rest =>
      if isControl c then failure
      set rest
      return c :: (← basicString fuel)

-- What follows a backslash at the end of a line: blanks and line ends, the first of which ends this one.
def continued? (s : List Char) : Option (List Char) :=
  match s.dropWhile isBlank with
  | '\n' :: rest | '\r' :: '\n' :: rest =>
    some (rest.dropWhile fun c => isBlank c || c == '\n' || c == '\r')
  | _ => none

def basicLines : Nat → Reader (List Char)
  | 0 => failure
  | fuel + 1 => do
    let s ← get
    match closing? '"' s with
    | some (extra, rest) => set rest; return extra
    | none =>
      match s with
      | [] => failure
      | '\n' :: rest => set rest; return '\n' :: (← basicLines fuel)
      | '\r' :: '\n' :: rest => set rest; return '\n' :: (← basicLines fuel)
      | '\\' :: rest =>
        match continued? rest with
        | some rest => set rest; basicLines fuel
        | none =>
          set rest
          let c ← escape
          return c :: (← basicLines fuel)
      | c :: rest =>
        if isControl c then failure
        set rest
        return c :: (← basicLines fuel)

-- A string on one line.
def shortString : Reader String := do
  match ← get with
  | '"' :: rest => set rest; return String.ofList (← basicString (rest.length + 1))
  | '\'' :: rest => set rest; return String.ofList (← literalString)
  | _ => failure

-- A string; three quotes open one of several lines.
def string : Reader String := do
  match ← get with
  | '"' :: '"' :: '"' :: rest =>
    set rest
    skipFirstLineEnd
    return String.ofList (← basicLines (rest.length + 1))
  | '\'' :: '\'' :: '\'' :: rest =>
    set rest
    skipFirstLineEnd
    return String.ofList (← literalLines (rest.length + 1))
  | _ => shortString

def isBareKeyChar (c : Char) : Bool := c.isAlphanum || c == '_' || c == '-'

def simpleKey : Reader String := do
  let c ← peek
  if c = some '"' ∨ c = some '\'' then shortString
  else
    let s ← get
    let name := s.takeWhile isBareKeyChar
    if name.isEmpty then failure
    set (s.drop name.length)
    return String.ofList name

def dottedKey : Nat → Reader (List String)
  | 0 => failure
  | fuel + 1 => do
    skipBlanks
    let key ← simpleKey
    skipBlanks
    if ← accept '.' then return key :: (← dottedKey fuel) else return [key]

def key : Reader (List String) := do dottedKey (← get).length

-- Digits with single underscores between them.
def isDigits (isDigit : Char → Bool) (s : List Char) : Bool :=
  (Text.split '_' s).all fun run => !run.isEmpty && run.all isDigit

def valueIn (radix : Nat) (s : List Char) : Nat :=
  (s.filter (· != '_')).foldl (fun n c => radix * n + (Text.hexValue? c).getD 0) 0

def signed (negative : Bool) (n : Nat) : Reader Json :=
  if negative then if n ≤ Nat.pow 2 63 then return .int (-n) else failure
  else if n < Nat.pow 2 63 then return .int n else failure

def inRadix (radix : Nat) (s : List Char) : Reader Json :=
  let isDigit (c : Char) : Bool := match Text.hexValue? c with
    | some d => d < radix
    | none => false
  if isDigits isDigit s then signed false (valueIn radix s) else failure

-- The number of significant digits, fraction digits and exponent. Far below the least number it is zero, and far above
-- the greatest there is none.
def float (negative : Bool) (whole fraction exponent : List Char) (isDown : Bool) : Reader Json := do
  let digits := valueIn 10 (whole ++ fraction)
  let e : Int := valueIn 10 exponent
  let e := (if isDown then -e else e) - (fraction.filter (· != '_')).length
  let length : Int := whole.length + fraction.length
  if digits = 0 ∨ e + length < -400 then return .float (Binary64.zero negative)
  if 400 < e then failure
  let x ← if 0 ≤ e then Binary64.ofRatio? negative (digits * Nat.pow 10 e.toNat) 1
    else Binary64.ofRatio? negative digits (Nat.pow 10 (-e).toNat)
  return .float x

-- A decimal integer or a floating-point number, after its sign.
def decimal (negative : Bool) (s : List Char) : Reader Json := do
  let whole := s.takeWhile fun c => c != '.' && c != 'e' && c != 'E'
  if !isDigits Char.isDigit whole || (whole.head? = some '0' && 1 < whole.length) then failure
  let rest := s.drop whole.length
  if rest.isEmpty then signed negative (valueIn 10 whole)
  else
    let fraction := if rest.head? = some '.' then (rest.drop 1).takeWhile fun c => c != 'e' && c != 'E' else []
    let tail := if rest.head? = some '.' then rest.drop (fraction.length + 1) else rest
    if rest.head? = some '.' && !isDigits Char.isDigit fraction then failure
    let exponent := tail.drop 1
    let isSigned := exponent.head? = some '-' || exponent.head? = some '+'
    let digits := if isSigned then exponent.drop 1 else exponent
    if !tail.isEmpty && !isDigits Char.isDigit digits then failure
    float negative whole fraction digits (exponent.head? = some '-')

def isNumberChar (c : Char) : Bool := c.isAlphanum || c == '_' || c == '.' || c == '+' || c == '-'

def number : Reader Json := do
  let s ← get
  let token := s.takeWhile isNumberChar
  set (s.drop token.length)
  match String.ofList token with
  | "inf" | "+inf" => return .float (Binary64.infinity false)
  | "-inf" => return .float (Binary64.infinity true)
  | "nan" | "+nan" => return .float (Binary64.notNumber false)
  | "-nan" => return .float (Binary64.notNumber true)
  | _ =>
  match token with
  | '0' :: 'x' :: digits => inRadix 16 digits
  | '0' :: 'o' :: digits => inRadix 8 digits
  | '0' :: 'b' :: digits => inRadix 2 digits
  | '+' :: digits => decimal false digits
  | '-' :: digits => decimal true digits
  | digits => decimal false digits

-- That many digits as a number.
def digits (count : Nat) : Reader Nat := do
  let s ← get
  let body := s.take count
  if body.length < count || !body.all Char.isDigit then failure
  set (s.drop count)
  return valueIn 10 body

def within (least greatest : Nat) (n : Nat) : Reader Unit := if least ≤ n ∧ n ≤ greatest then return () else failure

def daysIn (year month : Nat) : Nat :=
  if month = 2 then if year % 4 = 0 ∧ (year % 100 ≠ 0 ∨ year % 400 = 0) then 29 else 28
  else if month = 4 ∨ month = 6 ∨ month = 9 ∨ month = 11 then 30
  else 31

-- A number in two digits.
def twoDigits (n : Nat) : List Char := [Text.hexDigit (n / 10), Text.hexDigit (n % 10)]

def date : Reader (List Char) := do
  let written := (← get).take 10
  let year ← digits 4
  expect '-'
  let month ← digits 2
  within 1 12 month
  expect '-'
  let day ← digits 2
  within 1 (daysIn year month) day
  return written

-- Hours and minutes.
def clock : Reader (List Char) := do
  let hour ← digits 2
  within 0 23 hour
  expect ':'
  let minute ← digits 2
  within 0 59 minute
  return twoDigits hour ++ ':' :: twoDigits minute

-- Of a fraction of a second nine digits count, and zeros at the end are left out.
def fraction : Reader (List Char) := do
  if ← accept '.' then
    let s ← get
    let digits := s.takeWhile Char.isDigit
    if digits.isEmpty then failure
    set (s.drop digits.length)
    let counted := ((digits.take 9).reverse.dropWhile (· == '0')).reverse
    return if counted.isEmpty then [] else '.' :: counted
  else return []

def time : Reader (List Char) := do
  let minutes ← clock
  expect ':'
  let second ← digits 2
  within 0 60 second
  return minutes ++ ':' :: twoDigits second ++ (← fraction)

def offset : Reader (List Char) := do
  match ← get with
  | 'Z' :: rest | 'z' :: rest => set rest; return ['Z']
  | '+' :: rest => set rest; return '+' :: (← clock)
  | '-' :: rest =>
    set rest
    let away ← clock
    return (if away = ['0', '0', ':', '0', '0'] then '+' else '-') :: away
  | _ => return []

-- A date, a time, or both in one with a letter or a blank between them, in the usual spelling.
def moment : Reader Json := do
  match (← get)[2]? with
  | some ':' => return .string (String.ofList (← time))
  | _ =>
    let day ← date
    match ← get with
    | 'T' :: rest | 't' :: rest => set rest
    | ' ' :: c :: rest => if c.isDigit then set (c :: rest) else return .string (String.ofList day)
    | _ => return .string (String.ofList day)
    let hour ← time
    return .string (String.ofList (day ++ 'T' :: hour ++ (← offset)))

def startsMoment (s : List Char) : Bool :=
  ((s.take 4).all Char.isDigit && s[4]? == some '-') || ((s.take 2).all Char.isDigit && s[2]? == some ':')

def word (s : String) : Reader Bool := do
  let rest ← get
  if s.toList.isPrefixOf rest then set (rest.drop s.length); return true else return false

mutual

def value : Nat → Reader Json
  | 0 => failure
  | fuel + 1 => do
    match ← peek with
    | some '"' => return .string (← string)
    | some '\'' => return .string (← string)
    | some '[' => expect '['; return .array (← items fuel)
    | some '\x7b' => expect '\x7b'; return (Item.table .dotted (← inlineMembers fuel)).toJson
    | _ =>
      if ← word "true" then return .bool true
      else if ← word "false" then return .bool false
      else if startsMoment (← get) then moment
      else number

-- The items of an array up to its bracket; a comma may follow the last.
def items : Nat → Reader (List Json)
  | 0 => failure
  | fuel + 1 => do
    skipLines (← get).length
    if ← accept ']' then return []
    let item ← value fuel
    skipLines (← get).length
    if ← accept ',' then return item :: (← items fuel)
    else
      expect ']'
      return [item]

def inlineMembers : Nat → Reader Members
  | 0 => failure
  | fuel + 1 => do
    skipBlanks
    if ← accept '\x7d' then return []
    inlineRest fuel []

def inlineRest : Nat → Members → Reader Members
  | 0, _ => failure
  | fuel + 1, members => do
    let path ← key
    expect '='
    skipBlanks
    let j ← value fuel
    let members ← members.addValue j path
    skipBlanks
    if ← accept ',' then inlineRest fuel members
    else
      expect '\x7d'
      return members

end

-- One line: nothing, a header, or a key with its value.
def line (current : List String) (document : Members) : Reader (List String × Members) := do
  skipBlanks
  match ← get with
  | [] => return (current, document)
  | '\n' :: _ => return (current, document)
  | '\r' :: '\n' :: _ => return (current, document)
  | '#' :: _ => return (current, document)
  | '[' :: '[' :: rest =>
    set rest
    let path ← key
    expect ']'
    expect ']'
    return (path, ← document.addElement path)
  | '[' :: rest =>
    set rest
    let path ← key
    expect ']'
    return (path, ← document.addHeader path)
  | s =>
    let path ← key
    expect '='
    skipBlanks
    let j ← value s.length
    return (current, ← document.within (Members.addValue j path) current)

def lines (current : List String) (document : Members) : Nat → Reader Members
  | 0 => failure
  | fuel + 1 => do
    let (current, document) ← line current document
    skipBlanks
    skipComment
    lineEnd
    if (← get).isEmpty then return document else lines current document fuel

end Reader

-- The table that a document writes; none when it is malformed.
def parse? (text : String) : Option Json := do
  let s := text.toList
  let (document, _) ← (Reader.lines [] [] (s.length + 1)).run s
  return (Item.table .header document).toJson

end RouteQuote.Toml
