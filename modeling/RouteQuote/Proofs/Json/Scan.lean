import Mathlib.Data.List.TakeWhile
import RouteQuote.Proofs.Json.Grammar
import RouteQuote.Proofs.Json.Records

namespace RouteQuote.Json

-- The reader takes a text of the form off the front, and nothing else.
def Takes (read : Reader α) (form : List Char → α → Prop) : Prop :=
  ∀ s a rest, read s = .ok (a, rest) ↔ ∃ t, s = t ++ rest ∧ form t a

namespace Takes

variable {read : Reader α} {form : List Char → α → Prop}

theorem ok (takes : Takes read form) {t : List Char} {a : α} (fits : form t a) (rest : List Char) :
    read (t ++ rest) = .ok (a, rest) := (takes _ a rest).mpr ⟨t, rfl, fits⟩

-- Two texts of the form in front of one text are the same.
theorem unique (takes : Takes read form) {t t' r r' : List Char} {a a' : α} (fits : form t a) (fits' : form t' a')
    (same : t ++ r = t' ++ r') : t = t' ∧ a = a' := by
  have first := takes.ok fits r
  rw [same, takes.ok fits' r', Except.ok.injEq, Prod.mk.injEq] at first
  obtain ⟨rfl, rfl⟩ := first
  exact ⟨List.append_cancel_right same, rfl⟩

end Takes

namespace Reader

theorem bind_eq_ok {value : Reader α} {next : α → Reader β} {s rest : List Char} {b : β} :
    (value >>= next) s = .ok (b, rest) ↔ ∃ a mid, value s = .ok (a, mid) ∧ next a mid = .ok (b, rest) := by
  simp only [bind, StateT.bind, Except.bind]
  cases value s with
  | error fault => simp
  | ok said =>
    obtain ⟨a, mid⟩ := said
    exact ⟨fun next => ⟨a, mid, rfl, next⟩, fun ⟨_, _, same, next⟩ => by cases same; exact next⟩

theorem pure_eq_ok {s rest : List Char} {a b : α} : (pure a : Reader α) s = .ok (b, rest) ↔ a = b ∧ s = rest := by
  constructor
  · intro said
    cases said
    exact ⟨rfl, rfl⟩
  · rintro ⟨rfl, rfl⟩
    rfl

-- The state under another name, so that a case split on the text leaves it alone.
theorem get_bind_eq_ok {next : List Char → Reader α} {s : List Char} {said : α × List Char} :
    (get >>= next) s = .ok said ↔ ∃ state, state = s ∧ next s state = .ok said := by
  rw [bind_ok get_ok]
  simp

theorem set_ok (s t : List Char) : (set t : Reader Unit) s = .ok ((), t) := rfl

theorem blank_append_cons {s : List Char} :
    Blank s ∨ ∃ gap c tail, Blank gap ∧ isSpace c = false ∧ s = gap ++ c :: tail := by
  induction s with
  | nil => exact .inl rfl
  | cons d s ih =>
    cases space : isSpace d with
    | false => exact .inr ⟨[], d, s, rfl, space, rfl⟩
    | true =>
      obtain blank | ⟨gap, c, tail, blank, visible, rfl⟩ := ih
      · exact .inl (by simpa [Blank, space] using blank)
      · exact .inr ⟨d :: gap, c, tail, by simpa [Blank, space] using blank, visible, rfl⟩

theorem peek_none {s : List Char} (blank : Blank s) : peek s = .ok (none, []) := by
  have skipped : s.dropWhile isSpace = [] := List.dropWhile_eq_nil_iff.mpr (List.all_eq_true.mp blank)
  have passed : skipSpace s = .ok ((), []) := congrArg (fun s => Except.ok ((), s)) skipped
  rw [peek, bind_ok passed, bind_ok get_ok]
  rfl

-- What is next behind the blanks, and the text from there on.
inductive Ahead : List Char → Option Char → List Char → Prop where
  | none {s : List Char} (blank : Blank s) : Ahead s none []
  | some {gap tail : List Char} {c : Char} (blank : Blank gap) (visible : isSpace c = false) :
      Ahead (gap ++ c :: tail) (some c) (c :: tail)

theorem peek_iff {s rest : List Char} {c : Option Char} : peek s = .ok (c, rest) ↔ Ahead s c rest := by
  constructor
  · intro peeked
    obtain blank | ⟨gap, c, tail, blank, visible, rfl⟩ := blank_append_cons (s := s)
    · rw [peek_none blank] at peeked
      cases peeked
      exact .none blank
    · rw [peek_blank blank visible] at peeked
      cases peeked
      exact .some blank visible
  · intro ahead
    cases ahead with
    | none blank => exact peek_none blank
    | some blank visible => exact peek_blank blank visible _

-- A reader that looks ahead goes on with what is there.
theorem peek_bind_eq_ok {next : Option Char → Reader α} {s rest : List Char} {a : α} :
    (peek >>= next) s = .ok (a, rest) ↔ ∃ c state, Ahead s c state ∧ next c state = .ok (a, rest) := by
  simp only [bind_eq_ok, peek_iff]

theorem opening_eq_ok {s state : List Char} {c : Char} : opening s = .ok (c, state) ↔ Ahead s (some c) state := by
  rw [opening, peek_bind_eq_ok]
  constructor
  · rintro ⟨d, state, ahead, said⟩
    split at said
    · cases said
    · obtain ⟨rfl, rfl⟩ := pure_eq_ok.mp said
      exact ahead
  · exact fun ahead => ⟨some c, state, ahead, rfl⟩

theorem opening_bind_eq_ok {next : Char → Reader α} {s rest : List Char} {a : α} :
    (opening >>= next) s = .ok (a, rest) ↔
      ∃ gap c tail, Blank gap ∧ isSpace c = false ∧ s = gap ++ c :: tail ∧ next c (c :: tail) = .ok (a, rest) := by
  simp only [bind_eq_ok, opening_eq_ok]
  constructor
  · rintro ⟨c, state, ahead, said⟩
    cases ahead with
    | @some gap tail _ blank visible => exact ⟨gap, c, tail, blank, visible, rfl, said⟩
  · rintro ⟨gap, c, tail, blank, visible, rfl, said⟩
    exact ⟨c, c :: tail, .some blank visible, said⟩

theorem blank_cons_unique {gap gap' s s' : List Char} {c c' : Char} (blank : Blank gap) (blank' : Blank gap')
    (visible : isSpace c = false) (visible' : isSpace c' = false) (same : gap ++ c :: s = gap' ++ c' :: s') :
    gap = gap' ∧ c = c' ∧ s = s' := by
  have after := dropWhile_blank blank visible s
  rw [same, dropWhile_blank blank' visible' s', List.cons.injEq] at after
  obtain ⟨rfl, rfl⟩ := after
  exact ⟨List.append_cancel_right same, rfl, rfl⟩

theorem literal_takes (cs : List Char) : Takes (literal cs) fun t _ => t = cs := by
  induction cs with
  | nil =>
    intro s a rest
    rw [literal, pure_eq_ok]
    simp
  | cons c cs ih =>
    intro s a rest
    rw [literal, bind_ok get_ok]
    cases s with
    | nil => exact ⟨nofun, by simp⟩
    | cons d s =>
      dsimp only
      rw [bind_ok (set_ok (d :: s) s)]
      by_cases same : d = c
      · rw [if_pos same, ih s a rest]
        simp [same]
      · rw [if_neg same]
        exact ⟨nofun, by simp [same]⟩

theorem advance_literal {c : Char} {cs s rest : List Char} (said : (do advance; literal cs) (c :: s) = .ok ((), rest)) :
    c :: s = c :: cs ++ rest := by
  rw [bind_ok (advance_ok c s)] at said
  obtain ⟨t, rfl, rfl⟩ := (literal_takes _ _ _ _).mp said
  rfl

theorem advance_literal_return {c : Char} {cs s rest : List Char} {a b : α}
    (said : (do advance; literal cs; return a) (c :: s) = .ok (b, rest)) : c :: s = c :: cs ++ rest ∧ a = b := by
  rw [bind_ok (advance_ok c s), bind_eq_ok] at said
  obtain ⟨⟨⟩, mid, named, made⟩ := said
  obtain ⟨t, rfl, rfl⟩ := (literal_takes _ _ _ _).mp named
  obtain ⟨same, rfl⟩ := pure_eq_ok.mp made
  exact ⟨rfl, same⟩

theorem hexUnit_four (a b c d : Char) (s : List Char) : hexUnit (a :: b :: c :: d :: s) =
    match Text.hexValue? a, Text.hexValue? b, Text.hexValue? c, Text.hexValue? d with
    | some h, some i, some j, some k => .ok (((h * 16 + i) * 16 + j) * 16 + k, s)
    | _, _, _, _ => .error .malformed := by
  rw [hexUnit, bind_ok get_ok]
  dsimp only
  generalize Text.hexValue? a = h
  generalize Text.hexValue? b = i
  generalize Text.hexValue? c = j
  generalize Text.hexValue? d = k
  cases h <;> cases i <;> cases j <;> cases k <;> rfl

theorem hexUnit_takes : Takes hexUnit HexUnit := by
  intro s n rest
  constructor
  · intro said
    obtain _ | ⟨a, _ | ⟨b, _ | ⟨c, _ | ⟨d, s⟩⟩⟩⟩ := s
    case cons.cons.cons.cons =>
      rw [hexUnit_four] at said
      split at said
      · rename_i first second third fourth
        cases said
        exact ⟨_, rfl, .digits first second third fourth⟩
      · cases said
    all_goals
      rw [hexUnit, bind_ok get_ok] at said
      dsimp only at said
      split at said <;> cases said
  · rintro ⟨t, rfl, unit⟩
    cases unit with
    | digits first second third fourth =>
      simp only [List.cons_append, List.nil_append, hexUnit_four, first, second, third, fourth]

theorem anyUnit_takes : Takes (do let _ ← hexUnit; return ' ') AnyUnit := by
  intro s c rest
  rw [bind_eq_ok]
  constructor
  · rintro ⟨n, mid, unit, said⟩
    obtain ⟨rfl, rfl⟩ := pure_eq_ok.mp said
    obtain ⟨t, rfl, read⟩ := (hexUnit_takes _ _ _).mp unit
    exact ⟨t, rfl, rfl, n, read⟩
  · rintro ⟨t, rfl, rfl, n, unit⟩
    exact ⟨n, rest, hexUnit_takes.ok unit rest, rfl⟩

theorem isLeading_iff {n : Nat} : isLeading n = true ↔ 0xD800 ≤ n ∧ n ≤ 0xDBFF := by simp [isLeading]

theorem isTrailing_iff {n : Nat} : isTrailing n = true ↔ 0xDC00 ≤ n ∧ n ≤ 0xDFFF := by simp [isTrailing]

-- A leading unit is nothing without a trailing one behind its own escape.
theorem escapedUnit_leading {t rest : List Char} {n : Nat} (unit : HexUnit t n) (leading : isLeading n = true) :
    escapedUnit (t ++ rest) = (do
      match ← get with
      | [] => throw .unfinished
      | '\\' :: [] => throw .unfinished
      | '\\' :: 'u' :: rest =>
        set rest
        let second ← hexUnit
        if !isTrailing second then throw .malformed
        return Char.ofNat ((n - 0xD800) * 0x400 + (second - 0xDC00) + 0x10000)
      | _ => throw .malformed : Reader Char) rest := by
  have noTrailing : isTrailing n = false := by
    rw [isLeading_iff] at leading
    simp [isTrailing]
    omega
  rw [escapedUnit, bind_ok (hexUnit_takes.ok unit rest), noTrailing, leading]
  rfl

theorem escapedUnit_takes : Takes escapedUnit Numbered := by
  intro s c rest
  constructor
  · intro said
    obtain ⟨n, mid, ran, -⟩ := bind_eq_ok.mp said
    obtain ⟨t, rfl, unit⟩ := (hexUnit_takes _ _ _).mp ran
    cases leading : isLeading n with
    | false =>
      rw [escapedUnit, bind_ok (hexUnit_takes.ok unit mid)] at said
      cases trailing : isTrailing n with
      | true =>
        rw [trailing] at said
        cases said
      | false =>
        rw [trailing, leading] at said
        cases said
        refine ⟨t, rfl, .single unit ?_⟩
        have noTrailing := mt isTrailing_iff.mpr (Bool.eq_false_iff.mp trailing)
        have noLeading := mt isLeading_iff.mpr (Bool.eq_false_iff.mp leading)
        omega
    | true =>
      rw [escapedUnit_leading unit leading, get_bind_eq_ok] at said
      obtain ⟨state, -, said⟩ := said
      split at said
      · cases said
      · cases said
      · rw [bind_ok (set_ok _ _)] at said
        obtain ⟨low, after, again, made⟩ := bind_eq_ok.mp said
        obtain ⟨u, rfl, second⟩ := (hexUnit_takes _ _ _).mp again
        cases trailing : isTrailing low with
        | false =>
          rw [trailing] at made
          cases made
        | true =>
          rw [trailing] at made
          obtain ⟨rfl, rfl⟩ := pure_eq_ok.mp made
          refine ⟨t ++ '\\' :: 'u' :: u, by simp, .pair unit second ?_ ?_⟩
          · exact isLeading_iff.mp leading
          · exact isTrailing_iff.mp trailing
      · cases said
  · rintro ⟨t, rfl, number⟩
    cases number with
    | @single t n unit plane =>
      have noTrailing : isTrailing n = false := by
        simp only [isTrailing, Bool.and_eq_false_iff, decide_eq_false_iff_not]
        omega
      have noLeading : isLeading n = false := by
        simp only [isLeading, Bool.and_eq_false_iff, decide_eq_false_iff_not]
        omega
      rw [escapedUnit, bind_ok (hexUnit_takes.ok unit rest), noTrailing, noLeading]
      rfl
    | @pair t u high low leading trailing highRange lowRange =>
      have second := isTrailing_iff.mpr lowRange
      rw [List.append_assoc, escapedUnit_leading leading (isLeading_iff.mpr highRange), bind_ok get_ok]
      refine (bind_ok (set_ok _ (u ++ rest)) _).trans ?_
      rw [bind_ok (hexUnit_takes.ok trailing rest), second]
      rfl

theorem shortEscapes_known : ∀ escape ∈ shortEscapes, shortEscape? escape.1 = some escape.2 ∧ escape.1 ≠ 'u' := by
  decide

theorem shortEscape?_iff {e c : Char} : shortEscape? e = some c ↔ (e, c) ∈ shortEscapes := by
  constructor
  · intro found
    unfold shortEscape? at found
    split at found <;> cases found <;> decide
  · exact fun known => (shortEscapes_known _ known).1

variable {unit : Reader Char} {numeric : List Char → Char → Prop} {s rest : List Char}

-- What a step in a string takes: the closing quote, or one character.
inductive Step (numeric : List Char → Char → Prop) : List Char → Option Char → Prop where
  | close : Step numeric ['"'] none
  | letter {t : List Char} {c : Char} (letter : Letter numeric t c) : Step numeric t (some c)

theorem stringStep_takes (takes : Takes unit numeric) : Takes (stringStep unit) (Step numeric) := by
  intro s found rest
  constructor
  · intro said
    rw [stringStep, get_bind_eq_ok] at said
    obtain ⟨state, -, said⟩ := said
    split at said
    · cases said
    · cases said
      exact ⟨_, rfl, .close⟩
    · cases said
    · rw [bind_ok (set_ok _ _)] at said
      obtain ⟨d, mid, ran, made⟩ := bind_eq_ok.mp said
      cases made
      obtain ⟨t, rfl, number⟩ := (takes _ _ _).mp ran
      exact ⟨_, rfl, .letter (.numbered number)⟩
    · rename_i e rest _
      cases known : shortEscape? e with
      | some d =>
        rw [known] at said
        cases said
        exact ⟨_, rfl, .letter (.short (shortEscape?_iff.mp known))⟩
      | none =>
        rw [known] at said
        cases said
    · rename_i d others noQuote noEnd _ noEscape
      have plain : d ≠ '\\' := by
        intro escape
        cases others with
        | nil => exact noEnd escape rfl
        | cons e others => exact noEscape e others escape rfl
      split at said
      · cases said
      · rename_i control
        cases said
        exact ⟨_, rfl, .letter (.plain noQuote plain (Nat.le_of_not_lt control))⟩
  · rintro ⟨t, rfl, step⟩
    cases step with
    | close => rfl
    | @letter t c letter =>
      cases letter with
      | plain noQuote noEscape noControl => exact stringStep_plain noQuote noEscape (Nat.not_lt.mpr noControl) unit rest
      | @short e _ known =>
        obtain ⟨read, other⟩ : shortEscape? e = some c ∧ e ≠ 'u' := shortEscapes_known _ known
        rw [stringStep, bind_ok get_ok]
        simp only [List.cons_append, List.nil_append, read]
        rfl
      | numbered number =>
        have next := bind_ok (takes.ok number rest) fun d => pure (some d)
        exact next

theorem stringRest_eq_ok (takes : Takes unit numeric) {fuel : Nat} {cs : List Char}
    (said : stringRest unit fuel s = .ok (cs, rest)) : ∃ body, s = body ++ '"' :: rest ∧ Letters numeric body cs := by
  induction fuel generalizing s cs with
  | zero => cases said
  | succ fuel ih =>
    obtain ⟨found, mid, stepped, said⟩ := bind_eq_ok.mp said
    obtain ⟨t, rfl, step⟩ := (stringStep_takes takes _ _ _).mp stepped
    cases step with
    | close =>
      cases said
      exact ⟨[], rfl, .done⟩
    | letter letter =>
      obtain ⟨others, after, ran, made⟩ := bind_eq_ok.mp said
      cases made
      obtain ⟨body, rfl, letters⟩ := ih ran
      exact ⟨t ++ body, (List.append_assoc ..).symm, .next letter letters⟩

theorem stringRest_letters (takes : Takes unit numeric) {body cs : List Char} (letters : Letters numeric body cs)
    {fuel : Nat} (enough : cs.length < fuel) (rest : List Char) :
    stringRest unit fuel (body ++ '"' :: rest) = .ok (cs, rest) := by
  induction letters generalizing fuel with
  | done =>
    obtain ⟨fuel, rfl⟩ := Nat.exists_eq_succ_of_ne_zero (Nat.ne_zero_of_lt enough)
    rfl
  | @next t s c cs letter others ih =>
    obtain ⟨fuel, rfl⟩ := Nat.exists_eq_succ_of_ne_zero (Nat.ne_zero_of_lt enough)
    rw [List.append_assoc, stringRest, bind_ok ((stringStep_takes takes).ok (.letter letter) _)]
    dsimp only
    rw [bind_ok (ih (Nat.lt_of_succ_lt_succ enough))]
    rfl

end Reader

theorem Letter.length {numeric : List Char → Char → Prop} {t : List Char} {c : Char} (letter : Letter numeric t c) :
    0 < t.length := by
  cases letter <;> exact Nat.succ_pos _

theorem Letters.length {numeric : List Char → Char → Prop} {body cs : List Char} (letters : Letters numeric body cs) :
    cs.length ≤ body.length := by
  induction letters with
  | done => exact Nat.le_refl 0
  | next letter _ ih =>
    have := letter.length
    rw [List.length_append, List.length_cons]
    omega

namespace Reader

theorem stringRest_iff {unit : Reader Char} {numeric : List Char → Char → Prop} (takes : Takes unit numeric)
    {s cs rest : List Char} : stringRest unit (s.length + 1) s = .ok (cs, rest) ↔
      ∃ body, s = body ++ '"' :: rest ∧ Letters numeric body cs := by
  constructor
  · exact stringRest_eq_ok takes
  · rintro ⟨body, rfl, letters⟩
    refine stringRest_letters takes letters ?_ rest
    have := letters.length
    rw [List.length_append]
    omega

theorem stringBody_takes : Takes stringBody fun t s => Closed Numbered t s.toList := by
  intro s a rest
  rw [stringBody, bind_ok get_ok, bind_eq_ok]
  constructor
  · rintro ⟨cs, mid, ran, made⟩
    cases made
    obtain ⟨body, rfl, letters⟩ := (stringRest_iff escapedUnit_takes).mp ran
    exact ⟨body ++ ['"'], by simp, body, rfl, by rwa [String.toList_ofList]⟩
  · rintro ⟨t, rfl, body, rfl, letters⟩
    refine ⟨a.toList, rest, (stringRest_iff escapedUnit_takes).mpr ⟨body, by simp, letters⟩, ?_⟩
    rw [String.ofList_toList]
    rfl

theorem skipString_takes : Takes skipString fun t _ => ∃ cs, Closed AnyUnit t cs := by
  intro s a rest
  rw [skipString, bind_ok get_ok, bind_eq_ok]
  constructor
  · rintro ⟨cs, mid, ran, made⟩
    cases made
    obtain ⟨body, rfl, letters⟩ := (stringRest_iff anyUnit_takes).mp ran
    exact ⟨body ++ ['"'], by simp, cs, body, rfl, letters⟩
  · rintro ⟨t, rfl, cs, body, rfl, letters⟩
    exact ⟨cs, rest, (stringRest_iff anyUnit_takes).mpr ⟨body, by simp, letters⟩, rfl⟩

theorem skipString_closed {t cs : List Char} (closed : Closed AnyUnit t cs) (rest : List Char) :
    skipString (t ++ rest) = .ok ((), rest) := (skipString_takes _ () rest).mpr ⟨t, rfl, cs, closed⟩

end Reader

theorem Quoted.unique {t t' r r' : List Char} {s s' : String} (quoted : Quoted t s) (quoted' : Quoted t' s')
    (same : t ++ r = t' ++ r') : t = t' ∧ s = s' := by
  obtain ⟨u, rfl, closed⟩ := quoted
  obtain ⟨u', rfl, closed'⟩ := quoted'
  obtain ⟨rfl, rfl⟩ := Reader.stringBody_takes.unique closed closed' (List.cons.inj same).2
  exact ⟨rfl, rfl⟩

theorem LooselyQuoted.unique {t t' r r' : List Char} (quoted : LooselyQuoted t) (quoted' : LooselyQuoted t')
    (same : t ++ r = t' ++ r') : t = t' := by
  obtain ⟨u, cs, rfl, closed⟩ := quoted
  obtain ⟨u', cs', rfl, closed'⟩ := quoted'
  have ended : u = u' ∧ () = () := Reader.skipString_takes.unique ⟨cs, closed⟩ ⟨cs', closed'⟩ (List.cons.inj same).2
  exact congrArg _ ended.1

theorem Letters.append {numeric : List Char → Char → Prop} {t u cs ds : List Char} (front : Letters numeric t cs)
    (back : Letters numeric u ds) : Letters numeric (t ++ u) (cs ++ ds) := by
  induction front with
  | done => exact back
  | next letter _ ih =>
    rw [List.append_assoc, List.cons_append]
    exact .next letter ih

-- An escape of two units reads as two letters where nobody looks at them.
theorem Letter.loosen {t : List Char} {c : Char} (letter : Letter Numbered t c) : ∃ cs, Letters AnyUnit t cs := by
  have alone : ∀ {t c}, Letter AnyUnit t c → Letters AnyUnit t [c] := by
    intro t c letter
    have last := Letters.next letter .done
    rwa [List.append_nil] at last
  have one : ∀ {t n}, HexUnit t n → Letters AnyUnit ('\\' :: 'u' :: t) [' '] :=
    fun unit => alone (.numbered ⟨rfl, _, unit⟩)
  cases letter with
  | plain noQuote noEscape noControl => exact ⟨_, alone (.plain noQuote noEscape noControl)⟩
  | short known => exact ⟨_, alone (.short known)⟩
  | numbered number =>
    cases number with
    | single unit _ => exact ⟨_, one unit⟩
    | pair leading trailing _ _ => exact ⟨_, (one leading).append (one trailing)⟩

theorem Letters.loosen {t cs : List Char} (letters : Letters Numbered t cs) : ∃ ds, Letters AnyUnit t ds := by
  induction letters with
  | done => exact ⟨[], .done⟩
  | next letter _ ih =>
    obtain ⟨front, loose⟩ := letter.loosen
    obtain ⟨back, others⟩ := ih
    exact ⟨front ++ back, loose.append others⟩

theorem Quoted.loosen {t : List Char} {s : String} (quoted : Quoted t s) : LooselyQuoted t := by
  obtain ⟨u, rfl, body, rfl, letters⟩ := quoted
  obtain ⟨cs, loose⟩ := letters.loosen
  exact ⟨_, cs, rfl, body, rfl, loose⟩

end RouteQuote.Json
