import RouteQuote.Json.Forms

namespace RouteQuote.Json

namespace Reader

theorem bind_ok {value : Reader α} {a : α} {s rest : List Char} (said : value s = .ok (a, rest)) (next : α → Reader β) :
    (value >>= next) s = next a rest := by
  simp only [bind, StateT.bind, said, Except.bind]

theorem get_ok {s : List Char} : (get : Reader (List Char)) s = .ok (s, s) := rfl

theorem hexUnit_control {n : Nat} (small : n < 0x20) (rest : List Char) :
    hexUnit ('0' :: '0' :: Text.hexDigit (n / 16) :: Text.hexDigit (n % 16) :: rest) = .ok (n, rest) := by
  have high : Text.hexValue? (Text.hexDigit (n / 16)) = some (n / 16) := Text.hexValue?_hexDigit _ (by omega)
  have low : Text.hexValue? (Text.hexDigit (n % 16)) = some (n % 16) := Text.hexValue?_hexDigit _ (by omega)
  have zero : Text.hexValue? '0' = some 0 := by decide
  have whole : ((0 * 16 + 0) * 16 + n / 16) * 16 + n % 16 = n := by omega
  rw [hexUnit, bind_ok get_ok]
  simp only [high, low, zero, whole]
  rfl

theorem escapedUnit_control {n : Nat} (small : n < 0x20) (rest : List Char) :
    escapedUnit ('0' :: '0' :: Text.hexDigit (n / 16) :: Text.hexDigit (n % 16) :: rest) = .ok (Char.ofNat n, rest) := by
  have noTrailing : isTrailing n = false := by simp [isTrailing]; omega
  have noLeading : isLeading n = false := by simp [isLeading]; omega
  rw [escapedUnit, bind_ok (hexUnit_control small rest)]
  simp only [noTrailing, noLeading]
  rfl

theorem stringStep_plain {c : Char} (noQuote : c ≠ '"') (noEscape : c ≠ '\\') (noControl : ¬ c.toNat < 0x20)
    (unit : Reader Char) (rest : List Char) : stringStep unit (c :: rest) = .ok (some c, rest) := by
  rw [stringStep, bind_ok get_ok]
  simp [noEscape, noControl]
  rfl

-- Split as the writer does: the characters with a short escape, the other controls, and the rest.
theorem stringStep_escaped (c : Char) (rest : List Char) :
    stringStep escapedUnit (escapeChar c ++ rest) = .ok (some c, rest) := by
  unfold escapeChar
  split
  case h_8 noQuote noEscape _ _ _ _ _ =>
    split
    · rename_i control
      have escape : stringStep escapedUnit ('\\' :: 'u' :: '0' :: '0' :: Text.hexDigit (c.toNat / 16) ::
          Text.hexDigit (c.toNat % 16) :: rest) = .ok (some (Char.ofNat c.toNat), rest) := by
        have unit := bind_ok (escapedUnit_control control rest) fun d => pure (some d)
        exact unit
      rw [Char.ofNat_toNat] at escape
      exact escape
    · rename_i noControl
      exact stringStep_plain noQuote noEscape noControl _ _
  all_goals rfl

theorem stringRest_escaped (cs rest : List Char) (fuel : Nat) (enough : cs.length < fuel) :
    stringRest escapedUnit fuel (cs.flatMap escapeChar ++ '"' :: rest) = .ok (cs, rest) := by
  induction cs generalizing fuel with
  | nil =>
    obtain ⟨fuel, rfl⟩ := Nat.exists_eq_succ_of_ne_zero (Nat.ne_zero_of_lt enough)
    rfl
  | cons c cs ih =>
    obtain ⟨fuel, rfl⟩ := Nat.exists_eq_succ_of_ne_zero (Nat.ne_zero_of_lt enough)
    have step := stringStep_escaped c (cs.flatMap escapeChar ++ '"' :: rest)
    rw [List.flatMap_cons, List.append_assoc, stringRest, bind_ok step]
    dsimp only
    rw [bind_ok (ih fuel (Nat.lt_of_succ_lt_succ enough))]
    rfl

theorem length_escapeChar_pos (c : Char) : 0 < (escapeChar c).length := by
  unfold escapeChar
  split
  case h_8 => split <;> simp
  all_goals decide

theorem length_le_escaped (cs : List Char) : cs.length ≤ (cs.flatMap escapeChar).length := by
  induction cs with
  | nil => exact Nat.le_refl 0
  | cons c cs ih =>
    have := length_escapeChar_pos c
    simp only [List.flatMap_cons, List.length_append, List.length_cons]
    omega

theorem stringBody_escaped (cs rest : List Char) :
    stringBody (cs.flatMap escapeChar ++ '"' :: rest) = .ok (String.ofList cs, rest) := by
  have enough : cs.length < (cs.flatMap escapeChar ++ '"' :: rest).length + 1 := by
    have := length_le_escaped cs
    rw [List.length_append]
    omega
  have whole := stringRest_escaped cs rest _ enough
  rw [stringBody, bind_ok get_ok, bind_ok whole]
  rfl

theorem stringText_append (s : String) (rest : List Char) :
    stringText s ++ rest = '"' :: (s.toList.flatMap escapeChar ++ '"' :: rest) := by
  simp [stringText]

theorem memberName_stringText (key : String) (rest : List Char) :
    memberName (stringText key ++ rest) = .ok (key, rest) := by
  have body := stringBody_escaped key.toList rest
  rw [String.ofList_toList] at body
  rw [stringText_append]
  exact body

theorem text_stringText (s : String) (rest : List Char) : text (stringText s ++ rest) = .ok (s, rest) := by
  have body := memberName_stringText s rest
  rw [stringText_append] at body ⊢
  exact body

theorem withoutHexMark_mark (s : List Char) : Text.withoutHexMark ('0' :: 'x' :: s) = s := rfl

theorem bytes_stringText (data : List UInt8) (rest : List Char) :
    bytes (stringText (bytesText data) ++ rest) = .ok (data, rest) := by
  have quoted : opening (stringText (bytesText data) ++ rest) = .ok ('"', stringText (bytesText data) ++ rest) := rfl
  rw [bytes, bind_ok quoted, if_pos rfl, bind_ok (text_stringText _ rest), bytesText, String.toList_ofList,
    withoutHexMark_mark, Text.bytesOfHex?_hexOfBytes]
  rfl

theorem whole_bytes (data : List UInt8) : whole bytes (ofBytes data).render = .ok data := by
  have read := bytes_stringText data []
  rw [List.append_nil] at read
  rw [render, ofBytes, Json.text, whole, String.toList_ofList, read]
  rfl

end Reader

end RouteQuote.Json
