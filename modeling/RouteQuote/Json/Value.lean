import RouteQuote.Binary64
import RouteQuote.Text.Bytes

namespace RouteQuote

inductive Json where
  | null
  | bool (b : Bool)
  | int (n : Int)
  | float (x : Binary64)
  | string (s : String)
  | array (items : List Json)
  | object (members : List (String × Json))
deriving Inhabited

namespace Json

-- The value of the last member of that name.
def get? : Json → String → Option Json
  | .object members, key => (members.reverse.find? fun member => member.1 == key).map Prod.snd
  | _, _ => none

def ofNat (n : Nat) : Json := .int n

def ofOption (encode : α → Json) : Option α → Json
  | some a => encode a
  | none => .null

mutual

def same : Json → Json → Bool
  | .null, .null => true
  | .bool a, .bool b => decide (a = b)
  | .int a, .int b => decide (a = b)
  | .float a, .float b => decide (a = b)
  | .string a, .string b => decide (a = b)
  | .array items, .array others => sameItems items others
  | .object members, .object others => sameMembers members others
  | _, _ => false

def sameItems : List Json → List Json → Bool
  | [], [] => true
  | item :: rest, other :: others => same item other && sameItems rest others
  | _, _ => false

def sameMembers : List (String × Json) → List (String × Json) → Bool
  | [], [] => true
  | (key, value) :: rest, (name, other) :: others => decide (key = name) && same value other && sameMembers rest others
  | _, _ => false

end

mutual

theorem same_iff : (one two : Json) → (same one two = true ↔ one = two)
  | .null, two | .bool _, two | .int _, two | .float _, two | .string _, two => by cases two <;> simp [same]
  | .array items, two => by cases two <;> simp [same, sameItems_iff items]
  | .object members, two => by cases two <;> simp [same, sameMembers_iff members]

theorem sameItems_iff : (items others : List Json) → (sameItems items others = true ↔ items = others)
  | [], others => by cases others <;> simp [sameItems]
  | item :: rest, others => by cases others <;> simp [sameItems, same_iff item, sameItems_iff rest]

theorem sameMembers_iff : (members others : List (String × Json)) →
    (sameMembers members others = true ↔ members = others)
  | [], others => by cases others <;> simp [sameMembers]
  | (key, value) :: rest, others => by
    cases others <;> simp [sameMembers, same_iff value, sameMembers_iff rest, Prod.ext_iff]

end

instance : DecidableEq Json := fun one two => decidable_of_iff _ (same_iff one two)

end Json

end RouteQuote

namespace RouteQuote.Json

def escapeChar (c : Char) : List Char :=
  match c with
  | '"' => ['\\', '"']
  | '\\' => ['\\', '\\']
  | '\x08' => ['\\', 'b']
  | '\x0c' => ['\\', 'f']
  | '\n' => ['\\', 'n']
  | '\r' => ['\\', 'r']
  | '\t' => ['\\', 't']
  | _ =>
    if c.toNat < 0x20 then
      ['\\', 'u', '0', '0', Text.hexDigit (c.toNat / 16), Text.hexDigit (c.toNat % 16)]
    else [c]

def stringText (s : String) : List Char := '"' :: s.toList.flatMap escapeChar ++ ['"']

def intText (n : Int) : List Char := (toString n).toList

mutual

def text : Json → List Char
  | .null => ['n', 'u', 'l', 'l']
  | .bool true => ['t', 'r', 'u', 'e']
  | .bool false => ['f', 'a', 'l', 's', 'e']
  | .int n => intText n
  | .float x => x.compactText.toList
  | .string s => stringText s
  | .array items => '[' :: itemsText items ++ [']']
  | .object members => '\x7b' :: membersText members ++ ['\x7d']

def itemsText : List Json → List Char
  | [] => []
  | [item] => text item
  | item :: next :: rest => text item ++ ',' :: itemsText (next :: rest)

def membersText : List (String × Json) → List Char
  | [] => []
  | [(key, value)] => stringText key ++ ':' :: text value
  | (key, value) :: next :: rest => stringText key ++ ':' :: text value ++ ',' :: membersText (next :: rest)

end

def render (j : Json) : String := String.ofList j.text

def newline (level : Nat) : List Char := '\n' :: List.replicate (2 * level) ' '

mutual

def prettyText (level : Nat) : Json → List Char
  | .array [] => ['[', ']']
  | .array items => '[' :: prettyItems (level + 1) items ++ newline level ++ [']']
  | .object [] => ['\x7b', '\x7d']
  | .object members => '\x7b' :: prettyMembers (level + 1) members ++ newline level ++ ['\x7d']
  | j => text j

def prettyItems (level : Nat) : List Json → List Char
  | [] => []
  | [item] => newline level ++ prettyText level item
  | item :: next :: rest => newline level ++ prettyText level item ++ ',' :: prettyItems level (next :: rest)

def prettyMembers (level : Nat) : List (String × Json) → List Char
  | [] => []
  | [(key, value)] => newline level ++ stringText key ++ ':' :: ' ' :: prettyText level value
  | (key, value) :: next :: rest =>
    newline level ++ stringText key ++ ':' :: ' ' :: prettyText level value ++ ',' :: prettyMembers level (next :: rest)

end

def renderPretty (j : Json) : String := String.ofList (prettyText 0 j)

end RouteQuote.Json
