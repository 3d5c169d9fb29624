import RouteQuote.Error
import RouteQuote.Http.Service
import RouteQuote.Text.Basic
import RouteQuote.Text.Bytes

namespace RouteQuote.Http

-- The characters of a path that need no escape, and some that senders leave as they are.
def isPathChar (c : Char) : Bool :=
  let n := c.toNat
  n == 0x21 || n == 0x22 || (0x24 ≤ n && n ≤ 0x3B) || n == 0x3D || (0x40 ≤ n && n ≤ 0x5F) || 0x61 ≤ n

def isQueryChar (c : Char) : Bool :=
  let n := c.toNat
  n == 0x21 || (0x24 ≤ n && n ≤ 0x3B) || n == 0x3D || 0x3F ≤ n

def isAuthorityChar (c : Char) : Bool := c.isAlphanum || "!$&'()*+,-.:;=@[]_~".toList.contains c

def endsPath (c : Char) : Bool := c == '?' || c == '#'

-- The path of a text that begins with one, when path and query hold what they may.
def pathOf? (s : List Char) : Option (List Char) :=
  let path := s.takeWhile (!endsPath ·)
  let query := match s.drop path.length with
    | '?' :: rest => rest.takeWhile (· != '#')
    | _ => []
  if path.all isPathChar && query.all isQueryChar then some (if path.isEmpty then ['/'] else path) else none

-- What was met of an authority: colons since the last bracket or at sign, whether an escape stands there
-- too, the brackets, and whether the last character is an at sign.
structure AuthorityScan where
  colons : Nat := 0
  hasEscape : Bool := false
  isOpened : Bool := false
  isClosed : Bool := false
  endsInAt : Bool := false

def AuthorityScan.next? (a : AuthorityScan) (c : Char) : Option AuthorityScan :=
  if c = ':' then if a.colons < 8 then some { a with colons := a.colons + 1, endsInAt := false } else none
  else if c = '[' then if a.hasEscape || a.isOpened then none else some { a with isOpened := true, endsInAt := false }
  else if c = ']' then
    if a.isOpened && !a.isClosed then
      some { a with isClosed := true, colons := 0, hasEscape := false, endsInAt := false }
    else none
  else if c = '@' then some { a with colons := 0, hasEscape := false, endsInAt := true }
  else if c = '%' then some { a with hasEscape := true, endsInAt := false }
  else if isAuthorityChar c then some { a with endsInAt := false }
  else none

def isAuthority (s : List Char) : Bool :=
  match s.foldlM AuthorityScan.next? {} with
  | some a => a.isOpened == a.isClosed && a.colons ≤ 1 && !a.endsInAt && !a.hasEscape
  | none => false

def isSchemeChar (c : Char) : Bool := c.isAlphanum || c == '+' || c == '-' || c == '.' || c == '~'

-- What follows the scheme and the mark of an authority.
def afterScheme? (s : List Char) : Option (List Char) :=
  let scheme := s.takeWhile isSchemeChar
  match s.drop scheme.length with
  | ':' :: '/' :: '/' :: rest => if scheme.length ≤ 64 then some rest else none
  | _ => none

def fullPath? (s : List Char) : Option (List Char) :=
  match afterScheme? s with
  | none => if isAuthority s then some [] else none
  | some rest =>
    let authority := rest.takeWhile fun c => c != '/' && !endsPath c
    if !authority.isEmpty && isAuthority authority then pathOf? (rest.drop authority.length) else none

def maxTargetLength : Nat := UInt16.size - 2

def targetPath? (target : String) : Option (List Char) :=
  if maxTargetLength < target.utf8ByteSize then none
  else match target.toList with
    | [] => none
    | ['*'] => some ['*']
    | '/' :: rest => pathOf? ('/' :: rest)
    | s => fullPath? s

def splitLast (separator : Char) (s : List Char) : Option (List Char × List Char) :=
  (Text.splitOnce separator s.reverse).map fun (after, before) => (before.reverse, after.reverse)

def bindAddress (target : String) : Except ConfigFault (String × UInt16) :=
  match splitLast ':' target.toList with
  | none => .error (.bind target "invalid socket address")
  | some (host, port) =>
    match Text.unsigned? UInt16.size port with
    | some n => .ok (String.ofList host, UInt16.ofNat n)
    | none => .error (.bind target "invalid port value")

-- The head and what follows the empty line after it.
def splitHead : List UInt8 → Option (List UInt8 × List UInt8)
  | 13 :: 10 :: 13 :: 10 :: rest => some ([], rest)
  | b :: rest => (splitHead rest).map fun (head, body) => (b :: head, body)
  | [] => none

def headLines (head : List UInt8) : List (List Char) :=
  (Text.split '\n' (Text.utf8Lossy head).toList).map (·.filter (· != '\r'))

-- The value of a header, whose name is in lower case.
def header? (name : String) (lines : List (List Char)) : Option String :=
  lines.findSome? fun line =>
    match Text.splitOnce ':' line with
    | some (key, value) =>
      if key.map Char.toLower = name.toList then some (String.ofList (value.filter (· != ' '))) else none
    | none => none

-- Chunks, each behind its length in hexadecimal digits; the empty one is the last.
def chunks : Nat → List UInt8 → Option (List UInt8)
  | 0, _ => none
  | fuel + 1, bytes =>
    let line := bytes.takeWhile (· != 13)
    let digits := line.map fun b => Char.ofNat b.toNat
    match digits.mapM Text.hexValue? with
    | none => none
    | some values =>
      let size := values.foldl (fun n d => 16 * n + d) 0
      let rest := bytes.drop (line.length + 2)
      if line.isEmpty || rest.length < size then none
      else if size = 0 then some []
      else (chunks fuel (rest.drop (size + 2))).map (rest.take size ++ ·)

-- The body of a message that was received to its end.
def body? (message : List UInt8) : Option (List UInt8) := do
  let (head, rest) ← splitHead message
  if header? "transfer-encoding" (headLines head) = some "chunked" then chunks (rest.length + 1) rest else some rest

-- Whether all of a message that tells its length was received.
def isComplete (message : List UInt8) : Bool :=
  match splitHead message with
  | none => false
  | some (head, rest) =>
    match (header? "content-length" (headLines head)).bind fun n => Text.unsigned? UInt64.size n.toList with
    | some length => length ≤ rest.length
    | none => false

def postText (host path text : String) : String :=
  let length := text.utf8ByteSize
  String.intercalate "\r\n" [s!"POST {path} HTTP/1.1", s!"host: {host}", "content-type: application/json",
    "accept: */*", s!"content-length: {length}", "connection: close", "", text]

def requestLine? (message : List UInt8) : Option (String × String) := do
  let (head, _) ← splitHead message
  let line ← (headLines head).head?
  match Text.split ' ' line with
  | [method, target, _] => some (String.ofList method, String.ofList target)
  | _ => none

def reason : Nat → String
  | 200 => "OK"
  | 400 => "Bad Request"
  | 404 => "Not Found"
  | 405 => "Method Not Allowed"
  | 502 => "Bad Gateway"
  | _ => "Internal Server Error"

def Response.text (r : Response) : String :=
  let optional (name : String) : Option String → List String
    | some value => [s!"{name}: {value}"]
    | none => []
  String.intercalate "\r\n" ([s!"HTTP/1.1 {r.status} {reason r.status}"] ++ optional "content-type" r.contentType ++
    optional "allow" r.allow ++ [s!"content-length: {r.body.utf8ByteSize}", "connection: close", "", r.body])

-- Where a plain URL leads: host, port, and path with query.
def locate? (url : String) : Option (String × UInt16 × String) := do
  let rest ← afterScheme? url.toList
  if (url.toList.take 5).map Char.toLower ≠ "http:".toList then none
  let authority := rest.takeWhile fun c => c != '/' && !endsPath c
  let path := (rest.drop authority.length).takeWhile (· != '#')
  let path := if path.head? = some '/' then path else '/' :: path
  match Text.splitOnce ':' authority with
  | some (host, port) => return (String.ofList host, UInt16.ofNat (← Text.unsigned? UInt16.size port), String.ofList path)
  | none => return (String.ofList authority, 80, String.ofList path)

end RouteQuote.Http
