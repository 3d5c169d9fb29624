import RouteQuote.Text.Basic
import RouteQuote.Text.Bytes
import RouteQuote.Text.Lowercase
import RouteQuote.Text.Printing

namespace RouteQuote.Url

inductive Fault where
  | noScheme
  | emptyHost
  | badPort
  | badIpv4
  | badIpv6
  | badDomain
  | badHostCharacter
deriving DecidableEq, Repr

def Fault.message : Fault → String
  | .noScheme => "relative URL without a base"
  | .emptyHost => "empty host"
  | .badPort => "invalid port number"
  | .badIpv4 => "invalid IPv4 address"
  | .badIpv6 => "invalid IPv6 address"
  | .badDomain => "invalid international domain name"
  | .badHostCharacter => "invalid domain character"

end RouteQuote.Url

namespace RouteQuote.Url.Punycode

def digit? (c : Char) : Option Nat :=
  if 'a' ≤ c ∧ c ≤ 'z' then some (c.toNat - 97)
  else if 'A' ≤ c ∧ c ≤ 'Z' then some (c.toNat - 65)
  else if '0' ≤ c ∧ c ≤ '9' then some (c.toNat - 22)
  else none

-- Divides a step by 35 until it is small, counting how often.
def biasFrom (delta : Nat) (k : Nat) : Nat :=
  if 455 < delta then biasFrom (delta / 35) (k + 36) else k + 36 * delta / (delta + 38)
termination_by delta
decreasing_by omega

-- The thresholds after a step, which the first step shortens more.
def adapt (delta count : Nat) (first : Bool) : Nat :=
  let delta := if first then delta / 700 else delta / 2
  biasFrom (delta + delta / count) 0

def threshold (bias k : Nat) : Nat := if k ≤ bias then 1 else min (k - bias) 26

-- A numeral added to a value, and the digits after it.
def numeral (bias value weight k : Nat) : List Char → Option (Nat × List Char)
  | [] => none
  | c :: rest =>
    match digit? c with
    | none => none
    | some d =>
      let value := value + d * weight
      let t := threshold bias k
      if UInt32.size ≤ value then none
      else if d < t then some (value, rest)
      else numeral bias value (weight * (36 - t)) (k + 36) rest

def charOf? (n : Nat) : Option Char := if h : n.isValidChar then some (Char.ofNatAux n h) else none

-- Puts the characters that the numerals tell of between those that are there.
def insertAll (point position bias : Nat) (first : Bool) (output : List Char) : Nat → List Char → Option (List Char)
  | _, [] => some output
  | 0, _ => none
  | fuel + 1, digits => do
    let (next, rest) ← numeral bias position 1 36 digits
    let size := output.length + 1
    let point := point + next / size
    let c ← charOf? point
    let place := next % size
    insertAll point (place + 1) (adapt (next - position) size first) false (output.insertIdx place c) fuel rest

def decode? (s : List Char) : Option (List Char) :=
  let tail := (s.reverse.takeWhile (· != '-')).reverse
  let head := s.take (s.length - tail.length - 1)
  let digits := if tail.length = s.length then s else tail
  insertAll 128 0 72 true (if tail.length = s.length then [] else head) digits.length digits

end RouteQuote.Url.Punycode

namespace RouteQuote.Url

def isHexDigit (c : Char) : Bool := (Text.hexValue? c).isSome

def isOctalDigit (c : Char) : Bool := '0' ≤ c && c ≤ '7'

-- The value in a radix of digits that are known to belong.
def valueIn (radix : Nat) (digits : List Char) : Nat :=
  digits.foldl (fun n c => radix * n + (Text.hexValue? c).getD 0) 0

-- One part of a four-part address: hexadecimal behind a mark, octal behind a zero, else decimal. A mark
-- alone is zero.
def ipv4Part? : List Char → Option Nat
  | [] => none
  | '0' :: 'x' :: digits | '0' :: 'X' :: digits => if digits.all isHexDigit then some (valueIn 16 digits) else none
  | '0' :: d :: digits => if (d :: digits).all isOctalDigit then some (valueIn 8 (d :: digits)) else none
  | digits => if digits.all Char.isDigit then some (valueIn 10 digits) else none

def ipv4Parts (host : List Char) : List (List Char) :=
  let parts := Text.split '.' host
  if parts.getLast? == some [] && 1 < parts.length then parts.dropLast else parts

-- A host whose last part is a number is taken for a four-part address.
def endsInNumber (host : List Char) : Bool :=
  match (ipv4Parts host).getLast? with
  | some part => (!part.isEmpty && part.all Char.isDigit) || (ipv4Part? part).isSome
  | none => false

-- At most four parts; each but the last is a byte, and the last fills the bytes that are left.
def isIpv4 (host : List Char) : Bool :=
  let parts := ipv4Parts host
  match parts.mapM ipv4Part? with
  | none => false
  | some numbers =>
    match numbers.getLast? with
    | none => false
    | some last =>
      let before := numbers.dropLast
      numbers.length ≤ 4 && before.all (· ≤ 255) && last < Nat.pow 256 (4 - before.length)

-- A byte in decimal, without leading zeros.
def isByteText (s : List Char) : Bool :=
  !s.isEmpty && s.all Char.isDigit && s.length ≤ 3 && valueIn 10 s ≤ 255 && (s.head? != some '0' || s.length == 1)

-- The tail of an eight-group address that is written as four bytes.
def isIpv4Tail (s : List Char) : Bool :=
  let parts := Text.split '.' s
  parts.length == 4 && parts.all isByteText

-- Reads on after so many groups, and perhaps the double colon that stands for the groups left out.
def ipv6From (groups : Nat) (compressed : Bool) : Nat → List Char → Bool
  | 0, _ => false
  | _ + 1, [] => compressed || groups == 8
  | fuel + 1, s@(c :: rest) =>
    if groups = 8 then false
    else if c = ':' then !compressed && ipv6From (groups + 1) true fuel rest
    else
      let digits := (s.take 4).takeWhile isHexDigit
      match s.drop digits.length with
      | [] => ipv6From (groups + 1) compressed fuel []
      | '.' :: _ => !digits.isEmpty && groups ≤ 6 && isIpv4Tail s && (compressed || groups == 6)
      | ':' :: more => !more.isEmpty && ipv6From (groups + 1) compressed fuel more
      | _ => false

def isIpv6 (s : List Char) : Bool :=
  match s with
  | ':' :: ':' :: rest => ipv6From 1 true (rest.length + 2) rest
  | ':' :: _ => false
  | _ => 2 ≤ s.length && ipv6From 0 false (s.length + 2) s

-- ASCII characters that no domain name has.
def isForbiddenInDomain (c : Char) : Bool :=
  c.toNat ≤ 0x20 || c.toNat == 0x7F || "#%/:<>?@[\\]^|".toList.contains c

def isIgnoredInDomain (c : Char) : Bool :=
  let n := c.toNat
  n == 0xAD || n == 0x34F || (0x180B ≤ n && n ≤ 0x180F) || n == 0x200B || n == 0x2060 || n == 0x2064 ||
    (0xFE00 ≤ n && n ≤ 0xFE0F) || n == 0xFEFF || (0xE0100 ≤ n && n ≤ 0xE01EF)

def isDot (c : Char) : Bool := c.toNat == 0x3002 || c.toNat == 0xFF0E || c.toNat == 0xFF61

-- Characters that stand for others in a domain name. Of the many that there are in Unicode these are the ones known
-- here: numbers and letters in circles, raised and lowered digits, ligatures, and what stands for a character that no
-- domain name has.
def compatible? (c : Char) : Option String :=
  let n := c.toNat
  if 0x2460 ≤ n ∧ n ≤ 0x2473 then some (toString (n - 0x245F))
  else if 0x24B6 ≤ n ∧ n ≤ 0x24E9 then some (String.singleton (Char.ofNat (97 + (n - 0x24B6) % 26)))
  else if 0x2080 ≤ n ∧ n ≤ 0x2089 then some (toString (n - 0x2080))
  else if n = 0x2070 ∨ (0x2074 ≤ n ∧ n ≤ 0x2079) then some (toString (n - 0x2070))
  else [(0xB9, "1"), (0xB2, "2"), (0xB3, "3"), (0x24EA, "0"), (0x2100, "a/c"), (0x2101, "a/s"), (0x2105, "c/o"),
    (0x2106, "c/u"), (0xFB00, "ff"), (0xFB01, "fi"), (0xFB02, "fl"), (0xFB03, "ffi"), (0xFB04, "ffl"), (0xFB05, "st"),
    (0xFB06, "st"), (0xFE55, ":"), (0xFE56, "?"), (0xFE5F, "#"), (0xFE64, "<"), (0xFE65, ">"), (0xFE68, "\\"),
    (0xFE6A, "%"), (0xFE6B, "@")].lookup n

def domainChars (c : Char) : List Char :=
  let n := c.toNat
  if isIgnoredInDomain c then []
  else if let some others := compatible? c then others.toList
  else if isDot c then ['.']
  else if 0xFF01 ≤ n ∧ n ≤ 0xFF5E then [(Char.ofNat (n - 0xFEE0)).toLower]
  else [Text.lowercaseChar c]

-- Marks, which print only on the letter before them, may stand after the first character.
def isMark (c : Char) : Bool :=
  let n := c.toNat
  (0x300 ≤ n && n ≤ 0x36F) || (0x483 ≤ n && n ≤ 0x487) || (0x591 ≤ n && n ≤ 0x5C7) || (0x610 ≤ n && n ≤ 0x6ED) ||
    (0x900 ≤ n && n ≤ 0x1CFF) || (0x1DC0 ≤ n && n ≤ 0x1DFF) || (0x20D0 ≤ n && n ≤ 0x20F0) ||
    (0x302A ≤ n && n ≤ 0x309A) || (0xA66F ≤ n && n ≤ 0xABED) || (0xFE20 ≤ n && n ≤ 0xFE2F)

def isDomainChar (c : Char) : Bool :=
  if c.toNat < 0x80 then !isForbiddenInDomain c
  else c != Text.replacement && (Text.prints c || isMark c)

-- The signs that take the vowel from a consonant.
def isVirama (c : Char) : Bool :=
  [0x94D, 0x9CD, 0xA4D, 0xACD, 0xB4D, 0xBCD, 0xC4D, 0xCCD, 0xD3B, 0xD3C, 0xD4D, 0xDCA, 0xE3A, 0xEBA, 0xF84, 0x1039,
    0x103A, 0x1714, 0x1734, 0x17D2, 0x1A60, 0x1B44, 0x1BAA, 0x1BAB, 0x1BF2, 0x1BF3, 0x2D7F, 0xA806, 0xA8C4, 0xA953,
    0xA9C0, 0xAAF6, 0xABED].contains c.toNat

-- A joiner, or what keeps from joining, stands behind such a sign only.
def charsFit (previous : Option Char) : List Char → Bool
  | [] => true
  | c :: rest =>
    let joins := (c.toNat == 0x200C || c.toNat == 0x200D) && previous.any isVirama
    (joins || isDomainChar c) && charsFit (some c) rest

def isPlainLabel (label : List Char) : Bool :=
  charsFit none label && match label.head? with
    | some c => Text.prints c
    | none => true

-- What stands behind the mark of a label in ASCII form writes a label that is not ASCII alone and counts
-- as it is.
def isEncodedLabel (s : List Char) : Bool :=
  match Punycode.decode? s with
  | some label => label.any (0x80 ≤ ·.toNat) && label.flatMap domainChars == label && isPlainLabel label
  | none => false

def isLabel (label : List Char) : Bool :=
  match label with
  | 'x' :: 'n' :: '-' :: '-' :: rest => label.all (·.toNat < 0x80) && isEncodedLabel rest
  | _ => isPlainLabel label

-- The characters that count of a name given in bytes; none when it is no domain name.
def domain? (bytes : List UInt8) : Option (List Char) :=
  let name := (Text.utf8Lossy bytes).toList.flatMap domainChars
  if (Text.split '.' name).all isLabel then some name else none

inductive Scheme where
  | web
  | file
  | other
deriving DecidableEq

def Scheme.ofName (name : List Char) : Scheme :=
  let name := String.ofList (name.map Char.toLower)
  if name == "file" then .file
  else if ["http", "https", "ws", "wss", "ftp"].contains name then .web
  else .other

def isSchemeChar (c : Char) : Bool := c.isAlphanum || c == '+' || c == '-' || c == '.'

-- The name before the first colon, and what follows it.
def scheme? (s : List Char) : Option (Scheme × List Char) :=
  let name := s.takeWhile isSchemeChar
  match name.head?, s.drop name.length with
  | some first, ':' :: rest => if first.isAlpha then some (.ofName name, rest) else none
  | _, _ => none

def endsAuthority (scheme : Scheme) (c : Char) : Bool :=
  c == '/' || c == '?' || c == '#' || (c == '\\' && scheme != .other)

-- The host of a URL whose scheme is known: bracketed groups, a four-part number, or a domain name.
def checkKnownHost (host : List Char) : Except Fault Unit :=
  match host with
  | '[' :: inner =>
    if inner.getLast? == some ']' && isIpv6 inner.dropLast then .ok () else .error .badIpv6
  | _ =>
    match domain? (Text.percentDecode (Text.utf8Bytes (String.ofList host))) with
    | none => .error .badDomain
    | some name =>
      if name.isEmpty then .error .emptyHost
      else if endsInNumber name && !isIpv4 name then .error .badIpv4
      else .ok ()

def isForbiddenInHost (c : Char) : Bool := c.toNat == 0 || "\t\n\r #/:<>?@[\\]^|".toList.contains c

-- The host of any other URL, which is not looked into.
def checkOtherHost (host : List Char) : Except Fault Unit :=
  match host with
  | '[' :: inner =>
    if inner.getLast? == some ']' && isIpv6 inner.dropLast then .ok () else .error .badIpv6
  | _ => if host.any isForbiddenInHost then .error .badHostCharacter else .ok ()

-- The characters of the host: to a colon outside brackets.
def hostOf (scheme : Scheme) (bracketed : Bool) : List Char → List Char
  | [] => []
  | c :: rest =>
    if (c == ':' && !bracketed) || endsAuthority scheme c then []
    else c :: hostOf scheme (if c = '[' then true else if c = ']' then false else bracketed) rest

-- Digits below 2 ^ 16, up to the path.
def checkPort (port : Nat) : List Char → Except Fault Unit
  | [] => .ok ()
  | c :: rest =>
    if c.isDigit then
      let port := 10 * port + (c.toNat - 48)
      if port < UInt16.size then checkPort port rest else .error .badPort
    else if c = '/' ∨ c = '\\' ∨ c = '?' ∨ c = '#' then .ok ()
    else .error .badPort

-- What stands before the last at sign of the authority, if there is one, and what comes after it.
def credentials (scheme : Scheme) (s : List Char) : Option (List Char) × List Char :=
  match (Text.split '@' (s.takeWhile (!endsAuthority scheme ·))).dropLast with
  | [] => (none, s)
  | parts =>
    let before := (parts.intersperse ['@']).flatten
    (some before, s.drop (before.length + 1))

-- A host may be missing in a scheme that nothing is known of, unless there are credentials or a port.
def mayLackHost (scheme : Scheme) (before : Option (List Char)) (after : List Char) : Bool :=
  scheme == .other && after.head? != some ':' && match before with
    | none => true
    | some [] => after.isEmpty
    | some before => before == [':']

def checkAuthority (scheme : Scheme) (s : List Char) : Except Fault Unit := do
  let (before, rest) := credentials scheme s
  let host := hostOf scheme false rest
  let after := rest.drop host.length
  if host.isEmpty then
    if !mayLackHost scheme before after then throw .emptyHost
  else if scheme = .other then checkOtherHost host
  else checkKnownHost host
  match after with
  | ':' :: port => checkPort 0 port
  | _ => return ()

def isSlash (c : Char) : Bool := c == '/' || c == '\\'

-- A drive letter is part of the path.
def isDriveLetter (s : List Char) : Bool :=
  match s with
  | [letter, mark] => letter.isAlpha && (mark == ':' || mark == '|')
  | _ => false

def checkFile (s : List Char) : Except Fault Unit :=
  match s with
  | a :: b :: rest =>
    let host := rest.takeWhile (!endsAuthority .file ·)
    if isSlash a && isSlash b && !host.isEmpty && !isDriveLetter host then checkKnownHost host else .ok ()
  | _ => .ok ()

def isTrimmed (c : Char) : Bool := c.toNat ≤ 0x20

-- Says of a text that it is a URL. Names of hosts outside ASCII are looked at with the characters above only.
def check (text : String) : Except Fault Unit :=
  let s := ((text.toList.dropWhile isTrimmed).reverse.dropWhile isTrimmed).reverse
  match scheme? (s.filter fun c => c != '\t' && c != '\n' && c != '\r') with
  | none => .error .noScheme
  | some (.web, rest) => checkAuthority .web (rest.dropWhile isSlash)
  | some (.file, rest) => checkFile rest
  | some (.other, '/' :: '/' :: rest) => checkAuthority .other rest
  | some (.other, _) => .ok ()

def rule (text : String) : Except String Unit := (check text).mapError Fault.message

end RouteQuote.Url
