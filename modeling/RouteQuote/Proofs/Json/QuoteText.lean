import RouteQuote.Json.Forms
import RouteQuote.Proofs.Address.Digits
import RouteQuote.Proofs.Amount.Numerals
import RouteQuote.Proofs.Json.Grammar

namespace RouteQuote

namespace Text

-- So many digits of a number in base sixteen, the most significant first.
def hexText (count n : Nat) : List Char :=
  (List.range count).map fun i => Nat.digitChar (n / Nat.pow 16 (count - 1 - i) % 16)

theorem hexText_succ (count n : Nat) : hexText (count + 1) n = hexText count (n / 16) ++ [Nat.digitChar (n % 16)] := by
  have last : Nat.digitChar (n / Nat.pow 16 (count + 1 - 1 - count) % 16) = Nat.digitChar (n % 16) := by
    rw [Nat.add_sub_cancel, Nat.sub_self]
    exact congrArg (fun high => Nat.digitChar (high % 16)) (Nat.div_one n)
  have before : ∀ i ∈ List.range count, Nat.digitChar (n / Nat.pow 16 (count + 1 - 1 - i) % 16) =
      Nat.digitChar (n / 16 / Nat.pow 16 (count - 1 - i) % 16) := by
    intro i member
    have below := List.mem_range.mp member
    have next : count + 1 - 1 - i = count - 1 - i + 1 := by omega
    rw [next, Nat.div_div_eq_div_mul, Nat.mul_comm]
    rfl
  rw [hexText, List.range_succ, List.map_append, List.map_congr_left before, List.map_singleton, last, hexText]

theorem hexDigit_eq {n : Nat} (small : n < 16) : hexDigit n = Nat.digitChar n := by
  have table : ∀ k : Fin 16, hexDigit k = Nat.digitChar k := by decide
  exact table ⟨n, small⟩

theorem hexOfByte_eq (b : UInt8) : hexOfByte b = hexText 2 b.toNat := by
  have bound := b.toNat_lt
  have high : b.toNat / 16 % 16 = b.toNat / 16 := Nat.mod_eq_of_lt (by omega)
  rw [hexText_succ, hexText_succ, high, hexOfByte, hexDigit_eq (by omega), hexDigit_eq (by omega)]
  rfl

-- By induction on the number of bytes, two digits for the last one.
theorem hexOfBytes_bytesOfNat (count n : Nat) : hexOfBytes (Address.bytesOfNat count n) = hexText (2 * count) n := by
  induction count generalizing n with
  | zero => rfl
  | succ count ih =>
    have last : (UInt8.ofNat n).toNat = n % 256 := rfl
    have high : n % 256 / 16 % 16 = n / 16 % 16 := by omega
    have low : n % 256 % 16 = n % 16 := by omega
    have front : n / 256 = n / 16 / 16 := by omega
    have two : hexText 2 (n % 256) = [Nat.digitChar (n / 16 % 16), Nat.digitChar (n % 16)] := by
      rw [hexText_succ, hexText_succ, high, low]
      rfl
    have ahead := ih (n / 256)
    unfold hexOfBytes at ahead ⊢
    rw [Address.bytesOfNat, List.flatMap_append, ahead, List.flatMap_singleton, hexOfByte_eq, last, two, Nat.mul_succ,
      hexText_succ, hexText_succ, ← front, List.append_assoc]
    rfl

end Text

namespace Json

-- A text that needs no escapes, in quotes.
def inQuotes (s : List Char) : List Char := '"' :: s ++ ['"']

def amountText (a : Amount) : List Char := inQuotes (toString a.val).toList

def addressText (a : Address) : List Char := inQuotes ('0' :: 'x' :: Text.hexText 40 a.value.val)

def dataText (bytes : List UInt8) : List Char :=
  inQuotes ('0' :: 'x' :: bytes.flatMap fun b => Text.hexText 2 b.toNat)

def orNull (write : α → List Char) : Option α → List Char
  | some a => write a
  | none => "null".toList

-- The members in braces, each behind its name, with commas between them and no blanks.
def objectText (members : List (String × List Char)) : List Char :=
  '\x7b' :: [','].intercalate (members.map fun (name, value) => inQuotes name.toList ++ ':' :: value) ++ ['\x7d']

def queryText (q : Query) : List Char := objectText [
  ("swapAdapter", addressText q.swapAdapter), ("tokenOut", addressText q.tokenOut),
  ("minAmountOut", amountText q.minAmountOut), ("deadline", amountText q.deadline), ("rawParams", dataText q.rawParams)]

def feeConfigText (f : FeeConfig) : List Char := objectText [
  ("bridgeFee", amountText f.bridgeFee), ("minFee", amountText f.minFee), ("maxFee", amountText f.maxFee)]

def swapQuoteText (q : SwapQuote) : List Char := objectText [
  ("routerAddress", addressText q.routerAddress), ("maxAmountOut", amountText q.maxAmountOut),
  ("query", queryText q.query)]

def bridgeQuoteText (q : BridgeQuote) : List Char := objectText [
  ("feeAmount", orNull amountText q.feeAmount), ("feeConfig", orNull feeConfigText q.feeConfig),
  ("routerAddress", addressText q.routerAddress), ("maxAmountOut", amountText q.maxAmountOut),
  ("originQuery", orNull queryText q.originQuery), ("destQuery", orNull queryText q.destQuery)]

-- Whether no character of a text is escaped.
def unescaped (s : List Char) : Bool := s.all fun c => c != '"' && c != '\\' && 0x20 ≤ c.toNat

theorem letter_escapeChar (c : Char) : Letter Numbered (escapeChar c) c := by
  unfold escapeChar
  split
  case h_8 noQuote noEscape _ _ _ _ _ =>
    split
    · rename_i control
      have zero : Text.hexValue? '0' = some 0 := rfl
      have unit : HexUnit _ _ := .digits zero zero (Text.hexValue?_hexDigit (c.toNat / 16) (by omega))
        (Text.hexValue?_hexDigit (c.toNat % 16) (by omega))
      have whole : ((0 * 16 + 0) * 16 + c.toNat / 16) * 16 + c.toNat % 16 = c.toNat := by omega
      rw [whole] at unit
      have number := Numbered.single unit (.inl (by omega))
      rw [Char.ofNat_toNat] at number
      exact .numbered number
    · rename_i noControl
      exact .plain noQuote noEscape (Nat.le_of_not_lt noControl)
  all_goals exact .short (by decide)

theorem letters_escaped (cs : List Char) : Letters Numbered (cs.flatMap escapeChar) cs := by
  induction cs with
  | nil => exact .done
  | cons c cs ih => exact .next (letter_escapeChar c) ih

theorem quoted_stringText (s : String) : Quoted (stringText s) s :=
  ⟨_, rfl, _, rfl, letters_escaped s.toList⟩

theorem escapeChar_plain {c : Char} (noQuote : c ≠ '"') (noEscape : c ≠ '\\') (noControl : 0x20 ≤ c.toNat) :
    escapeChar c = [c] := by
  unfold escapeChar
  split
  case h_8 => exact if_neg (Nat.not_lt.mpr noControl)
  all_goals revert noQuote noEscape noControl; decide

theorem stringText_plain {s : String} (plain : unescaped s.toList = true) : stringText s = inQuotes s.toList := by
  have same : s.toList.flatMap escapeChar = s.toList.flatMap fun c => [c] := by
    refine List.flatMap_congr fun c member => ?_
    have here := List.all_eq_true.mp plain c member
    simp only [Bool.and_eq_true, bne_iff_ne, decide_eq_true_eq] at here
    exact escapeChar_plain here.1.1 here.1.2 here.2
  rw [stringText, same, List.flatMap_singleton']
  rfl

theorem membersText_plain {members : List (String × Json)} (plain : members.all (unescaped ·.1.toList) = true) :
    membersText members = [','].intercalate (members.map fun m => inQuotes m.1.toList ++ ':' :: m.2.text) := by
  induction members with
  | nil => rfl
  | cons m rest ih =>
    obtain ⟨key, value⟩ := m
    rw [List.all_cons, Bool.and_eq_true] at plain
    cases rest with
    | nil => simp [membersText, stringText_plain plain.1, List.intercalate]
    | cons next rest =>
      rw [membersText, ih plain.2, stringText_plain plain.1]
      simp [List.intercalate]

theorem text_object {members : List (String × Json)} (plain : members.all (unescaped ·.1.toList) = true) :
    text (.object members) = objectText (members.map fun m => (m.1, m.2.text)) := by
  rw [text, membersText_plain plain, objectText, List.map_map]
  rfl

theorem unescaped_digit {c : Char} {d : Nat} (known : Text.hexValue? c = some d) :
    (c != '"' && c != '\\' && decide (0x20 ≤ c.toNat)) = true := by
  have range := Text.hexValue?_range known
  have other : ∀ e : Char, Text.hexValue? e = none → c ≠ e := by
    rintro e none rfl
    rw [none] at known
    cases known
  have small : 0x20 ≤ c.toNat := by omega
  simp only [Bool.and_eq_true, bne_iff_ne, decide_eq_true_eq]
  exact ⟨⟨other _ rfl, other _ rfl⟩, small⟩

theorem text_ofAmount (a : Amount) : (ofAmount a).text = amountText a := by
  have plain : unescaped a.text.toList = true := by
    refine List.all_eq_true.mpr fun c digit => ?_
    have known : Text.hexValue? c = some (c.toNat - 48) := if_pos (Text.digit_range (a.isDigit_text c digit))
    exact unescaped_digit known
  rw [ofAmount, text, stringText_plain plain, Amount.text, amountText]

theorem unescaped_marked (bytes : List UInt8) : unescaped ('0' :: 'x' :: Text.hexOfBytes bytes) = true := by
  refine List.all_eq_true.mpr fun c member => ?_
  rw [List.mem_cons, List.mem_cons] at member
  rcases member with rfl | rfl | digit
  · decide
  · decide
  · obtain ⟨n, small, rfl⟩ := Text.mem_hexOfBytes digit
    exact unescaped_digit (Text.hexValue?_hexDigit n small)

theorem text_ofAddress (a : Address) : (ofAddress a).text = addressText a := by
  have digits : a.digits = Text.hexText 40 a.value.val := Text.hexOfBytes_bytesOfNat 20 a.value.val
  have plain : unescaped a.text.toList = true := by
    rw [Address.text, String.toList_ofList]
    exact unescaped_marked a.bytes
  rw [ofAddress, text, stringText_plain plain, Address.text, String.toList_ofList, digits, addressText]

theorem text_ofBytes (bytes : List UInt8) : (ofBytes bytes).text = dataText bytes := by
  have digits : Text.hexOfBytes bytes = bytes.flatMap fun b => Text.hexText 2 b.toNat :=
    List.flatMap_congr fun b _ => Text.hexOfByte_eq b
  have plain : unescaped (bytesText bytes).toList = true := by
    rw [bytesText, String.toList_ofList]
    exact unescaped_marked bytes
  rw [ofBytes, text, stringText_plain plain, bytesText, String.toList_ofList, digits, dataText]

theorem text_ofOption {encode : α → Json} {write : α → List Char} (writes : ∀ a, (encode a).text = write a)
    (value : Option α) : (ofOption encode value).text = orNull write value := by
  cases value with
  | none => rfl
  | some a => exact writes a

theorem text_ofQuery (q : Query) : (ofQuery q).text = queryText q := by
  rw [ofQuery, text_object (by simp only [List.all_cons, List.all_nil]; decide)]
  simp only [List.map_cons, List.map_nil, text_ofAddress, text_ofAmount, text_ofBytes]
  rfl

theorem text_ofFeeConfig (f : FeeConfig) : (ofFeeConfig f).text = feeConfigText f := by
  rw [ofFeeConfig, text_object (by simp only [List.all_cons, List.all_nil]; decide)]
  simp only [List.map_cons, List.map_nil, text_ofAmount]
  rfl

theorem text_ofSwapQuote (q : SwapQuote) : (ofSwapQuote q).text = swapQuoteText q := by
  rw [ofSwapQuote, text_object (by simp only [List.all_cons, List.all_nil]; decide)]
  simp only [List.map_cons, List.map_nil, text_ofAddress, text_ofAmount, text_ofQuery]
  rfl

theorem text_ofBridgeQuote (q : BridgeQuote) : (ofBridgeQuote q).text = bridgeQuoteText q := by
  rw [ofBridgeQuote, text_object (by simp only [List.all_cons, List.all_nil]; decide)]
  simp only [List.map_cons, List.map_nil, text_ofAddress, text_ofAmount, text_ofOption text_ofAmount,
    text_ofOption text_ofFeeConfig, text_ofOption text_ofQuery]
  rfl

end Json

end RouteQuote
