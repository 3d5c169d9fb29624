import Mathlib.Data.List.Forall2
import RouteQuote.Proofs.Json.Scalars

namespace RouteQuote.Json

variable {first : Bool} {s rest : List Char}

theorem Between.append {lead gap : List Char} (between : Between first lead) (blank : Blank gap) :
    Between first (lead ++ gap) := by
  cases between with
  | start before => exact .start (before.append blank)
  | comma before after =>
    rw [List.append_assoc]
    exact .comma before (after.append blank)

namespace Reader

inductive ItemAhead (first : Bool) : List Char → Bool → List Char → Prop where
  | close {tail u : List Char} (blank : Blank tail) : ItemAhead first (tail ++ ']' :: u) false (']' :: u)
  | item {lead u : List Char} {c : Char} (between : Between first lead) (visible : isSpace c = false)
      (bracket : c ≠ ']') : ItemAhead first (lead ++ c :: u) true (c :: u)

theorem hasItem_eq_ok {more : Bool} (said : hasItem first s = .ok (more, rest)) : ItemAhead first s more rest := by
  rw [hasItem, peek_bind_eq_ok] at said
  obtain ⟨d, state, ahead, said⟩ := said
  split at said
  · cases said
  · cases ahead with
    | some blank _ =>
      cases said
      exact .close blank
  · rename_i c bracket
    cases ahead with
    | some blank visible =>
      split at said
      · rename_i start
        subst start
        cases said
        exact .item (.start blank) visible bracket
      · rename_i later
        obtain rfl := Bool.eq_false_iff.mpr later
        dsimp only at said
        split at said
        · cases said
        · rename_i comma
          obtain rfl := Decidable.not_not.mp comma
          rw [bind_ok (advance_ok _ _), peek_bind_eq_ok] at said
          obtain ⟨d, state, ahead, said⟩ := said
          split at said
          · cases said
          · cases said
          · rename_i c bracket
            cases ahead with
            | @some gap tail _ after visible =>
              cases said
              rw [← List.cons_append, ← List.append_assoc]
              exact .item (.comma blank after) visible bracket

theorem hasItem_ahead {more : Bool} (ahead : ItemAhead first s more rest) : hasItem first s = .ok (more, rest) := by
  cases ahead with
  | close blank => exact hasItem_close blank first _
  | @item lead u c between visible bracket =>
    cases between with
    | start blank =>
      rw [hasItem, bind_eq_ok]
      refine ⟨some c, c :: u, peek_blank blank visible u, ?_⟩
      generalize same : some c = d
      split
      · cases same
      · cases same
        exact absurd rfl bracket
      · rfl
    | comma before after =>
      rw [List.append_assoc, List.cons_append, hasItem, bind_ok (peek_blank before rfl _)]
      refine (bind_ok (advance_ok _ _) _).trans ?_
      rw [bind_eq_ok]
      refine ⟨some c, c :: u, peek_blank after visible u, ?_⟩
      generalize same : some c = d
      split
      · cases same
      · cases same
        exact absurd rfl bracket
      · rfl

theorem hasItem_iff {more : Bool} : hasItem first s = .ok (more, rest) ↔ ItemAhead first s more rest :=
  ⟨hasItem_eq_ok, hasItem_ahead⟩

variable {item : Reader α} {form : List Char → α → Prop}

theorem items_eq_ok (exact : Exact item form) {fuel : Nat} {as : List α}
    (said : items item first fuel s = .ok (as, rest)) :
    ∃ u ts, s = u ++ rest ∧ Elements false first u ts ∧ List.Forall₂ form ts as := by
  induction fuel generalizing first s as with
  | zero => cases said
  | succ fuel ih =>
    rw [items, bind_eq_ok] at said
    obtain ⟨more, mid, ran, said⟩ := said
    cases hasItem_iff.mp ran with
    | @close tail u blank =>
      cases said
      exact ⟨tail ++ [']'], [], by simp, .close blank, .nil⟩
    | item between visible bracket =>
      rw [if_pos rfl, bind_eq_ok] at said
      obtain ⟨a, after, read, said⟩ := said
      obtain ⟨others, last, remaining, made⟩ := bind_eq_ok.mp said
      cases made
      obtain ⟨gap, t, blank, front, fits⟩ := exact.sound read
      obtain ⟨u, ts, rfl, listed, all⟩ := ih remaining
      rw [front]
      exact ⟨_, t :: ts, by simp, .next (between.append blank) listed, .cons fits all⟩

theorem items_elements (exact : Exact item form) {ts : List (List Char)} {as : List α} (all : List.Forall₂ form ts as)
    {u : List Char} (listed : Elements false first u ts) {fuel : Nat} (enough : ts.length < fuel) (rest : List Char) :
    items item first fuel (u ++ rest) = .ok (as, rest) := by
  induction all generalizing first u fuel with
  | nil =>
    obtain ⟨fuel, rfl⟩ := Nat.exists_eq_succ_of_ne_zero (Nat.ne_zero_of_lt enough)
    cases listed with
    | close blank =>
      rw [List.append_assoc, List.singleton_append, items, bind_ok (hasItem_ahead (.close blank))]
      rfl
    | spare allowed => cases allowed
  | @cons t a ts as fits all ih =>
    obtain ⟨fuel, rfl⟩ := Nat.exists_eq_succ_of_ne_zero (Nat.ne_zero_of_lt enough)
    cases listed with
    | @next _ lead _ v _ between others =>
      obtain ⟨c, w, shape, visible, bracket⟩ := (exact.formed fits).head
      have read := exact.complete blank_nil fits (others.apart rest).ended
      have remaining := ih others (Nat.lt_of_succ_lt_succ enough)
      subst shape
      rw [List.nil_append, List.cons_append] at read
      rw [List.append_assoc, List.append_assoc, List.cons_append, items,
        bind_ok (hasItem_ahead (.item between visible bracket)), if_pos rfl, bind_ok read, bind_ok remaining]
      rfl

end Reader

-- The text of an array whose items have the form.
def Listed (form : List Char → α → Prop) (t : List Char) (as : List α) : Prop :=
  ∃ u ts, t = '[' :: u ∧ Elements false true u ts ∧ List.Forall₂ form ts as

theorem formed_items {form : List Char → α → Prop} (formed : ∀ {t a}, form t a → Formed true t) {ts : List (List Char)}
    {as : List α} (all : List.Forall₂ form ts as) : ∀ t ∈ ts, Formed true t := by
  induction all with
  | nil => exact nofun
  | cons fits _ ih => exact List.forall_mem_cons.mpr ⟨formed fits, ih⟩

namespace Reader

variable {item : Reader α} {form : List Char → α → Prop}

theorem exact_arrayOf (exact : Exact item form) : Exact (arrayOf item) (Listed form) where
  formed := by
    rintro t as ⟨u, ts, rfl, listed, all⟩
    exact .array listed.loosen (formed_items exact.formed all)
  sound := by
    intro s as rest said
    rw [arrayOf, opening_bind_eq_ok] at said
    obtain ⟨gap, c, tail, blank, visible, rfl, said⟩ := said
    split at said
    · rename_i bracket
      subst bracket
      rw [bind_ok (advance_ok _ _), bind_ok get_ok] at said
      obtain ⟨u, ts, rfl, listed, all⟩ := items_eq_ok exact said
      exact ⟨gap, '[' :: u, blank, rfl, u, ts, rfl, listed, all⟩
    · obtain ⟨_, _, _, said⟩ := bind_eq_ok.mp said
      cases said
  complete := by
    rintro gap t as rest blank ⟨u, ts, rfl, listed, all⟩ -
    have enough : ts.length < (u ++ rest).length + 1 := by
      have := listed.length
      rw [List.length_append]
      omega
    rw [List.cons_append, arrayOf, bind_ok (opening_blank blank rfl _), if_pos rfl, bind_ok (advance_ok _ _),
      bind_ok get_ok]
    exact items_elements exact all listed enough rest

end Reader

def OctetText (t : List Char) (b : UInt8) : Prop := ByteText t b.toNat

theorem ByteText.octet {t : List Char} {n : Nat} (fits : ByteText t n) : OctetText t (UInt8.ofNat n) := by
  rwa [OctetText, UInt8.toNat_ofNat_of_lt' fits.2.2]

def BytesText (t : List Char) (bs : List UInt8) : Prop :=
  (∃ s, Quoted t s ∧ Text.bytesOfHex? (Text.withoutHexMark s.toList) = some bs) ∨ Listed OctetText t bs

namespace Reader

theorem exact_bytes : Exact bytes BytesText where
  formed := by
    rintro t bs (⟨s, quoted, _⟩ | ⟨u, ts, rfl, listed, all⟩)
    · exact exact_text.formed quoted
    · exact .array listed.loosen (formed_items exact_byte.formed all)
  sound := by
    intro s bs rest said
    rw [bytes, opening_bind_eq_ok] at said
    obtain ⟨gap, c, tail, blank, visible, rfl, said⟩ := said
    split at said
    · obtain ⟨v, after, read, said⟩ := bind_eq_ok.mp said
      obtain ⟨between, t, none, front, quoted⟩ := exact_text.sound read
      cases hex : Text.bytesOfHex? (Text.withoutHexMark v.toList) with
      | some data =>
        rw [hex] at said
        cases said
        exact ⟨gap ++ between, t, blank.append none, by rw [front, List.append_assoc], .inl ⟨v, quoted, hex⟩⟩
      | none =>
        rw [hex] at said
        cases said
    split at said
    · obtain ⟨ns, after, read, made⟩ := bind_eq_ok.mp said
      cases made
      obtain ⟨between, t, none, front, u, ts, rfl, listed, all⟩ := (exact_arrayOf exact_byte).sound read
      have octets := List.forall₂_map_right_iff.mpr (all.imp fun _ _ fits => fits.octet)
      exact ⟨gap ++ between, '[' :: u, blank.append none, by rw [front, List.append_assoc],
        .inr ⟨u, ts, rfl, listed, octets⟩⟩
    · obtain ⟨_, _, _, said⟩ := bind_eq_ok.mp said
      cases said
  complete := by
    rintro gap t bs rest blank (⟨s, quoted, hex⟩ | ⟨u, ts, rfl, listed, all⟩) ended
    · have read := exact_text.front quoted ended
      obtain ⟨u, rfl, -⟩ := quoted
      rw [List.cons_append] at read ⊢
      rw [bytes, bind_ok (opening_blank blank rfl _), if_pos rfl, bind_ok read, hex]
      rfl
    · have numbers : List.Forall₂ ByteText ts (bs.map UInt8.toNat) := List.forall₂_map_right_iff.mpr all
      have read := (exact_arrayOf exact_byte).front ⟨u, ts, rfl, listed, numbers⟩ ended
      have same : (bs.map UInt8.toNat).map UInt8.ofNat = bs := by simp [Function.comp_def]
      rw [List.cons_append] at read ⊢
      rw [bytes, bind_ok (opening_blank blank rfl _), if_neg (by decide), if_pos rfl, bind_ok read, same]
      rfl

end Reader

theorem Scalar.noBracket {c : Char} {u : List Char} (plain : Scalar (c :: u)) : ¬ (c = ']' ∨ c = '[' ∨ c = '\x7b') := by
  rintro (rfl | rfl | rfl)
  all_goals
    cases plain with
    | string quoted => cases quoted.loosen.quote
    | number numeral => cases numeral.starts

-- The items of an array, and behind them nothing, a spare comma, or one scalar that is no byte.
inductive Beyond (first : Bool) (u : List Char) (ts : List (List Char)) : Prop where
  | nothing (listed : Elements true first u ts)
  | scalar {t : List Char} (listed : Elements false first u (ts ++ [t])) (plain : Scalar t)
      (noByte : ∀ n, ¬ ByteText t n)

def AddressText (t : List Char) (a : Address) : Prop :=
  (∃ s, Quoted t s ∧ Address.read s.toList = .ok a) ∨
  ∃ u ts bs, t = '[' :: u ∧ Beyond true u ts ∧ List.Forall₂ OctetText ts bs ∧ bs.length = 20 ∧ Address.ofBytes bs = a

namespace Reader

theorem byteItems_succ {n : Nat} {bs : List UInt8} (said : byteItems first (n + 1) s = .ok (bs, rest)) :
    ∃ lead t b others mid, s = lead ++ (t ++ mid) ∧ Between first lead ∧ OctetText t b ∧ bs = b :: others ∧
      byteItems false n mid = .ok (others, rest) := by
  rw [byteItems, bind_eq_ok] at said
  obtain ⟨more, mid, ran, said⟩ := said
  cases hasItem_iff.mp ran with
  | close => cases said
  | item between visible bracket =>
    rw [if_pos rfl, bind_eq_ok] at said
    obtain ⟨b, after, read, said⟩ := said
    obtain ⟨others, last, remaining, made⟩ := bind_eq_ok.mp said
    cases made
    obtain ⟨gap, t, blank, front, fits⟩ := exact_byte.sound read
    rw [front]
    exact ⟨_, t, _, others, after, (List.append_assoc ..).symm, between.append blank, fits.octet, rfl, remaining⟩

-- The bytes stand in front of what is left.
theorem byteItems_eq_ok {n : Nat} {bs : List UInt8} (said : byteItems false n s = .ok (bs, rest)) : bs.length = n ∧
    ∃ ts, List.Forall₂ OctetText ts bs ∧ ∀ {spare v others after}, rest = v ++ after → Elements spare false v others →
      ∃ u, s = u ++ after ∧ Elements spare false u (ts ++ others) := by
  induction n generalizing s bs with
  | zero =>
    cases said
    exact ⟨rfl, [], .nil, fun front listed => ⟨_, front, listed⟩⟩
  | succ n ih =>
    obtain ⟨lead, t, b, others, mid, rfl, between, fits, rfl, remaining⟩ := byteItems_succ said
    obtain ⟨length, ts, all, front⟩ := ih remaining
    refine ⟨congrArg (· + 1) length, t :: ts, .cons fits all, ?_⟩
    intro spare v more after left listed
    obtain ⟨u, rfl, listed⟩ := front left listed
    exact ⟨lead ++ (t ++ u), by simp, .next between listed⟩

theorem byteItems_next {n : Nat} {lead t mid : List Char} {b : UInt8} {others : List UInt8}
    (between : Between first lead)
    (fits : OctetText t b) (apart : Apart mid) (remaining : byteItems false n mid = .ok (others, rest)) :
    byteItems first (n + 1) (lead ++ (t ++ mid)) = .ok (b :: others, rest) := by
  have read := exact_byte.front fits apart.ended
  obtain ⟨c, w, rfl, visible, bracket⟩ := (exact_byte.formed fits).head
  rw [List.cons_append] at read ⊢
  rw [byteItems, bind_ok (hasItem_ahead (.item between visible bracket)), if_pos rfl, bind_ok read, bind_ok remaining,
    UInt8.ofNat_toNat]
  rfl

theorem byteItems_elements {spare : Bool} {bs : List UInt8} {ts others : List (List Char)} {u : List Char}
    (all : List.Forall₂ OctetText ts bs) (listed : Elements spare false u (ts ++ others)) (rest : List Char) :
    ∃ v, Elements spare false v others ∧ byteItems false bs.length (u ++ rest) = .ok (bs, v ++ rest) := by
  induction all generalizing u with
  | nil => exact ⟨u, listed, rfl⟩
  | @cons t b ts bs fits _ ih =>
    cases listed with
    | @next _ lead _ u _ between listed =>
      obtain ⟨v, left, remaining⟩ := ih listed
      rw [List.append_assoc, List.append_assoc]
      exact ⟨v, left, byteItems_next between fits (listed.apart rest) remaining⟩

theorem closeArray_eq_ok (said : closeArray s = .ok ((), rest)) : ∃ tail, Blank tail ∧ s = tail ++ ']' :: rest := by
  rw [closeArray, peek_bind_eq_ok] at said
  obtain ⟨d, state, ahead, said⟩ := said
  split at said
  · cases said
  · cases ahead with
    | some blank _ =>
      cases said
      exact ⟨_, blank, rfl⟩
  · cases said

theorem closeArray_blank {tail : List Char} (blank : Blank tail) (rest : List Char) :
    closeArray (tail ++ ']' :: rest) = .ok ((), rest) := by
  rw [closeArray, bind_ok (peek_blank blank rfl rest)]
  rfl

-- Behind a comma that is not a spare one stands a scalar, which is passed over once it is known to be no byte.
theorem beyondBytes_eq_ok {after : List Char} (said : beyondBytes s = .ok ((), after))
    (closed : closeArray after = .ok ((), rest)) : ∃ v, s = v ++ rest ∧ Beyond false v [] := by
  obtain ⟨last, ending, rfl⟩ := closeArray_eq_ok closed
  rw [beyondBytes, peek_bind_eq_ok] at said
  obtain ⟨d, state, ahead, said⟩ := said
  split at said
  · cases ahead with
    | @some gap tail _ before _ =>
      rw [bind_ok (advance_ok _ _), peek_bind_eq_ok] at said
      obtain ⟨d, state, ahead, said⟩ := said
      split at said
      · cases ahead with
        | none =>
          obtain ⟨-, empty⟩ := pure_eq_ok.mp said
          cases last <;> cases empty
      · rename_i c
        cases ahead with
        | @some inner w _ behind visible =>
          split at said
          · obtain ⟨-, same⟩ := pure_eq_ok.mp said
            obtain rfl := blank_eq_nil ending visible same.symm
            cases same
            exact ⟨gap ++ ',' :: (inner ++ [']']), by simp, .nothing (.spare rfl before behind)⟩
          · rename_i plain
            obtain ⟨-, noBracket, noBrace⟩ : c ≠ ']' ∧ c ≠ '[' ∧ c ≠ '\x7b' := by simpa using plain
            rw [bind_ok get_ok] at said
            cases read : byte (c :: w) with
            | ok outcome =>
              rw [read] at said
              cases said
            | error fault =>
              rw [read] at said
              obtain ⟨t, front, scalar⟩ := passScalar_eq_ok visible noBracket noBrace said
              have listed : Elements false false (last ++ [']']) [] := .close ending
              have apart : Apart (last ++ ']' :: rest) := apart_blank ending rfl rest
              rw [front]
              refine ⟨gap ++ ',' :: inner ++ (t ++ (last ++ [']'])), by simp,
                .scalar (.next (.comma before behind) listed) scalar ?_⟩
              intro n fits
              rw [front, exact_byte.front fits apart.ended] at read
              cases read
  · obtain ⟨-, same⟩ := pure_eq_ok.mp said
    cases ahead with
    | none => cases last <;> cases same
    | @some gap tail c blank visible =>
      obtain rfl := blank_eq_nil ending visible same.symm
      cases same
      exact ⟨gap ++ [']'], by simp, .nothing (.close blank)⟩

theorem beyondBytes_beyond {v : List Char} (beyond : Beyond false v []) (rest : List Char) : ∃ after,
    beyondBytes (v ++ rest) = .ok ((), after) ∧ closeArray after = .ok ((), rest) := by
  cases beyond with
  | nothing listed =>
    refine ⟨']' :: rest, ?_, closeArray_blank blank_nil rest⟩
    cases listed with
    | close blank =>
      rw [List.append_assoc, List.singleton_append, beyondBytes, bind_ok (peek_blank blank rfl rest)]
      rfl
    | spare _ before behind =>
      simp only [List.append_assoc, List.cons_append, List.nil_append]
      rw [beyondBytes, bind_ok (peek_blank before rfl _)]
      refine (bind_ok (advance_ok _ _) _).trans ?_
      rw [bind_ok (peek_blank behind rfl rest)]
      rfl
  | @scalar t listed plain noByte =>
    cases listed with
    | next between others =>
      cases between with
      | comma before behind =>
        cases others with
        | spare allowed => cases allowed
        | @close _ tail blank =>
          have apart : Apart (tail ++ ']' :: rest) := apart_blank blank rfl rest
          have passed := passScalar_scalar plain apart.ended
          have noRead : ∀ outcome, byte (t ++ (tail ++ ']' :: rest)) ≠ .ok outcome :=
            fun (n, after) said => noByte n (byte_scalar plain apart.ended said)
          obtain ⟨c, w, rfl, visible, bracket⟩ := (plain.formed : Formed true t).head
          refine ⟨tail ++ ']' :: rest, ?_, closeArray_blank blank rest⟩
          simp only [List.append_assoc, List.cons_append, List.nil_append] at passed noRead ⊢
          rw [beyondBytes, bind_ok (peek_blank before rfl _)]
          refine (bind_ok (advance_ok _ _) _).trans ?_
          rw [bind_ok (peek_blank behind visible _)]
          dsimp only
          rw [if_neg plain.noBracket, bind_ok get_ok]
          cases read : byte (c :: (w ++ (tail ++ ']' :: rest))) with
          | ok outcome => exact absurd read (noRead outcome)
          | error fault => exact passed

theorem byteItems_sound {n : Nat} {bs : List UInt8} {v : List Char}
    (said : byteItems first (n + 1) s = .ok (bs, v ++ rest)) (beyond : Beyond false v []) :
    ∃ u ts, s = u ++ rest ∧ Beyond first u ts ∧ List.Forall₂ OctetText ts bs ∧ bs.length = n + 1 := by
  obtain ⟨lead, t, b, others, mid, rfl, between, fits, rfl, remaining⟩ := byteItems_succ said
  obtain ⟨length, ts, all, front⟩ := byteItems_eq_ok remaining
  cases beyond with
  | nothing listed =>
    obtain ⟨u, rfl, listed⟩ := front rfl listed
    rw [List.append_nil] at listed
    exact ⟨_, t :: ts, by simp, .nothing (.next between listed), .cons fits all, congrArg (· + 1) length⟩
  | scalar listed plain noByte =>
    obtain ⟨u, rfl, listed⟩ := front rfl listed
    exact ⟨_, t :: ts, by simp, .scalar (.next between listed) plain noByte, .cons fits all, congrArg (· + 1) length⟩

theorem byteItems_complete {bs : List UInt8} {u : List Char} {ts : List (List Char)} (some : bs ≠ [])
    (all : List.Forall₂ OctetText ts bs) (beyond : Beyond first u ts) (rest : List Char) :
    ∃ v, Beyond false v [] ∧ byteItems first bs.length (u ++ rest) = .ok (bs, v ++ rest) := by
  cases all with
  | nil => exact absurd rfl some
  | @cons _ _ ts _ fits all =>
    cases beyond with
    | nothing listed =>
      cases listed with
      | next between listed =>
        have front : Elements true false _ (ts ++ []) := (List.append_nil ts).symm ▸ listed
        obtain ⟨v, left, remaining⟩ := byteItems_elements all front rest
        rw [List.append_assoc, List.append_assoc]
        exact ⟨v, .nothing left, byteItems_next between fits (listed.apart rest) remaining⟩
    | scalar listed plain noByte =>
      cases listed with
      | next between listed =>
        obtain ⟨v, left, remaining⟩ := byteItems_elements all listed rest
        rw [List.append_assoc, List.append_assoc]
        exact ⟨v, .scalar left plain noByte, byteItems_next between fits (listed.apart rest) remaining⟩

theorem exact_address : Exact address AddressText where
  formed := by
    rintro t a (⟨s, quoted, _⟩ | ⟨u, ts, bs, rfl, beyond, all, _⟩)
    · exact exact_text.formed quoted
    · have items := formed_items exact_byte.formed (all.imp fun _ _ fits => fits)
      cases beyond with
      | nothing listed => exact .array listed items
      | @scalar x listed plain _ =>
        refine .array listed.loosen fun t member => ?_
        obtain member | member := List.mem_append.mp member
        · exact items t member
        · obtain rfl := List.mem_singleton.mp member
          exact plain.formed
  sound := by
    intro s a rest said
    rw [address, opening_bind_eq_ok] at said
    obtain ⟨gap, c, tail, blank, visible, rfl, said⟩ := said
    split at said
    · obtain ⟨v, after, read, said⟩ := bind_eq_ok.mp said
      obtain ⟨between, t, none, front, quoted⟩ := exact_text.sound read
      cases value : Address.read v.toList with
      | ok b =>
        rw [value] at said
        cases said
        exact ⟨gap ++ between, t, blank.append none, by rw [front, List.append_assoc], .inl ⟨v, quoted, value⟩⟩
      | error fault =>
        rw [value] at said
        cases said
    split at said
    · rename_i bracket
      subst bracket
      rw [bind_ok (advance_ok _ _), bind_eq_ok] at said
      obtain ⟨bs, mid, items, said⟩ := said
      obtain ⟨⟨⟩, last, behind, said⟩ := bind_eq_ok.mp said
      obtain ⟨⟨⟩, after, closed, made⟩ := bind_eq_ok.mp said
      cases made
      obtain ⟨v, rfl, beyond⟩ := beyondBytes_eq_ok behind closed
      obtain ⟨u, ts, rfl, beyond, all, length⟩ := byteItems_sound items beyond
      exact ⟨gap, '[' :: u, blank, rfl, .inr ⟨u, ts, bs, rfl, beyond, all, length, rfl⟩⟩
    · obtain ⟨_, _, _, said⟩ := bind_eq_ok.mp said
      cases said
  complete := by
    rintro gap t a rest blank (⟨s, quoted, value⟩ | ⟨u, ts, bs, rfl, beyond, all, length, rfl⟩) ended
    · have read := exact_text.front quoted ended
      obtain ⟨u, rfl, -⟩ := quoted
      rw [List.cons_append] at read ⊢
      rw [address, bind_ok (opening_blank blank rfl _), if_pos rfl, bind_ok read, value]
      rfl
    · have some : bs ≠ [] := by
        rintro rfl
        cases length
      obtain ⟨v, left, items⟩ := byteItems_complete some all beyond rest
      obtain ⟨after, passed, closed⟩ := beyondBytes_beyond left rest
      rw [length] at items
      rw [List.cons_append, address, bind_ok (opening_blank blank rfl _), if_neg (by decide), if_pos rfl,
        bind_ok (advance_ok _ _), bind_ok items, bind_ok passed, bind_ok closed]
      rfl

end Reader

end RouteQuote.Json
