import RouteQuote.Error
import RouteQuote.Text.Basic

namespace RouteQuote.Input

open Text

-- A switch; none when the word is not one for on or off.
def switch? (raw : String) : Option Bool :=
  let word := String.ofList (asciiLower (trim raw.toList))
  if ["1", "true", "yes", "on"].contains word then some true
  else if ["0", "false", "no", "off"].contains word then some false
  else none

def withoutMark (s : String) : String := String.ofList (withoutHexMark s.toList)

-- An address; a second mark after the first is taken too.
def address (raw : String) : Except Error Address :=
  let s := trim raw.toList
  match Address.read (withoutHexMark s) with
  | .ok a => .ok a
  | .error _ => .error (.invalidAddress (String.ofList s))

def amount (field raw : String) : Except Error Amount :=
  let s := trim raw.toList
  match Amount.readMarked s with
  | .ok a => .ok a
  | .error fault => .error (.validation field (.amount (String.ofList s) fault))

def chainId (field raw : String) : Except Error ChainId :=
  let s := trim raw.toList
  match unsigned? UInt64.size s with
  | some n => .ok (UInt64.ofNat n)
  | none => .error (.validation field (.chainId (String.ofList s)))

def separatesChains (c : Char) : Bool := c == ',' || isBlank c

def chainOfWord (word : List Char) : Except ConfigFault ChainId :=
  match unsigned? UInt64.size word with
  | some n => .ok (UInt64.ofNat n)
  | none => .error (.chainList (String.ofList word))

-- Chain identifiers between commas and blanks, in order.
def chainList (raw : String) : Except ConfigFault (List ChainId) :=
  (wordsBy separatesChains raw.toList).mapM chainOfWord

end RouteQuote.Input
