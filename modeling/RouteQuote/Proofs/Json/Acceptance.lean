import RouteQuote.Proofs.Json.Declared

namespace RouteQuote.Json

-- A record of the domain: its fields with the forms of their values, and what is made of these.
structure Declaration (α : Type) where
  name : String
  fields : List Field
  forms : Forms fields
  make : Row fields → α
  exact : AllExact fields forms
  distinct : (fields.map Field.key).Nodup

namespace Declaration

variable (d : Declaration α)

def read : Reader α := do return d.make (← Reader.record d.name d.fields)

def keys : List String := d.fields.map Field.key

def Text (t : List Char) (v : α) : Prop := ∃ row, RecordText d.fields d.forms t row ∧ d.make row = v

theorem exact_read : Exact d.read d.Text where
  formed := by
    rintro t v ⟨row, fits, -⟩
    exact (Reader.exact_record d.name d.exact d.distinct).formed fits
  sound := by
    intro s v rest said
    obtain ⟨row, mid, read, made⟩ := Reader.bind_eq_ok.mp said
    cases made
    obtain ⟨gap, t, blank, rfl, fits⟩ := (Reader.exact_record d.name d.exact d.distinct).sound read
    exact ⟨gap, t, blank, rfl, row, fits, rfl⟩
  complete := by
    rintro gap t v rest blank ⟨row, fits, rfl⟩ ended
    exact Reader.bind_ok ((Reader.exact_record d.name d.exact d.distinct).complete blank fits ended) _

end Declaration

-- A JSON value between blanks.
def JsonText (s : String) : Prop := ∃ gap t tail, Blank gap ∧ Blank tail ∧ s.toList = gap ++ (t ++ tail) ∧ Valid t

def ObjectText (s : String) (ms : List (String × List Char)) : Prop := ∃ gap u tail, Blank gap ∧ Blank tail ∧
  s.toList = gap ++ ('\x7b' :: u ++ tail) ∧ Members Quoted true u ms ∧ ∀ m ∈ ms, Valid m.2

def ArrayText (s : String) (ts : List (List Char)) : Prop := ∃ gap u tail, Blank gap ∧ Blank tail ∧
  s.toList = gap ++ ('[' :: u ++ tail) ∧ Elements false true u ts ∧ ∀ t ∈ ts, Valid t

-- For each field as many values, and the same ones.
def SameValues : (fs : List Field) → Forms fs → (ms ms' : List (String × List Char)) → Prop
  | [], _, _, _ => True
  | f :: fs, (form, forms), ms, ms' =>
    List.Forall₂ (fun t t' => ∀ a, form t a ↔ form t' a) (valuesOf f.key ms) (valuesOf f.key ms') ∧
      SameValues fs forms ms ms'

-- The members of the fields, without the others.
def Declaration.known (d : Declaration α) (ms : List (String × List Char)) : List (String × List Char) :=
  ms.filter (·.1 ∈ d.keys)

structure Accepts (read : Reader α) (d : Declaration α) : Prop where
  only : ∀ {s v}, Reader.whole read s = .ok v ↔
    ∃ gap t tail, Blank gap ∧ Blank tail ∧ s.toList = gap ++ (t ++ tail) ∧ d.Text t v
  object : ∀ {s ms}, ObjectText s ms → ∀ v, Reader.whole read s = .ok v ↔
    ∃ row, Declares d.fields d.forms ms row ∧ d.make row = v
  array : ∀ {s ts}, ArrayText s ts → ∀ v, Reader.whole read s = .ok v ↔
    ∃ row, Holds d.fields d.forms ts row ∧ d.make row = v
  reordered : ∀ {s s' ms ms'}, ObjectText s ms → ObjectText s' ms' → (d.known ms).Perm (d.known ms') →
    ∀ v, Reader.whole read s = .ok v ↔ Reader.whole read s' = .ok v
  alike : ∀ {s s' ms ms'}, ObjectText s ms → ObjectText s' ms' → SameValues d.fields d.forms ms ms' →
    ∀ v, Reader.whole read s = .ok v ↔ Reader.whole read s' = .ok v
  corresponding : ∀ {s s' ts}, ArrayText s ts → ts.length = d.fields.length → ObjectText s' (d.keys.zip ts) →
    ∀ v, Reader.whole read s = .ok v ↔ Reader.whole read s' = .ok v
  alone : ∀ {s extra}, JsonText s ∨ (∃ v, Reader.whole read s = .ok v) → ¬ Blank extra.toList →
    ∀ v, Reader.whole read (s ++ extra) ≠ .ok v

theorem whole_iff_ok {read : Reader α} {s : String} {v : α} :
    Reader.whole read s = .ok v ↔ ∃ rest, read s.toList = .ok (v, rest) ∧ Blank rest := by
  rw [Reader.whole]
  constructor
  · intro said
    split at said
    · cases said
    · rename_i a rest read
      split at said
      · rename_i blank
        cases said
        exact ⟨rest, read, blank⟩
      · cases said
  · rintro ⟨rest, read, blank⟩
    rw [read]
    exact if_pos blank

variable {d : Declaration α}

theorem RecordText.head {fs : List Field} {forms : Forms fs} {row : Row fs} {t : List Char}
    (fits : RecordText fs forms t row) : ∃ c u, t = c :: u ∧ startsNumber c = false := by
  obtain ⟨u, _, rfl, _⟩ | ⟨u, _, rfl, _⟩ := fits
  · exact ⟨_, u, rfl, rfl⟩
  · exact ⟨_, u, rfl, rfl⟩

theorem RecordText.ended {fs : List Field} {forms : Forms fs} {row : Row fs} {t : List Char}
    (fits : RecordText fs forms t row) (tail : List Char) : Ended t tail := by
  obtain ⟨c, u, rfl, other⟩ := fits.head
  exact ended_of_head other u tail

theorem Declaration.whole_iff {s : String} {v : α} : Reader.whole d.read s = .ok v ↔
    ∃ gap t tail, Blank gap ∧ Blank tail ∧ s.toList = gap ++ (t ++ tail) ∧ d.Text t v := by
  rw [whole_iff_ok]
  constructor
  · rintro ⟨tail, read, last⟩
    obtain ⟨gap, t, blank, same, fits⟩ := d.exact_read.sound read
    exact ⟨gap, t, tail, blank, last, same, fits⟩
  · rintro ⟨gap, t, tail, blank, last, same, row, fits, made⟩
    exact ⟨tail, same ▸ d.exact_read.complete blank ⟨row, fits, made⟩ (fits.ended tail), last⟩

theorem Formed.between {spare : Bool} {gap gap' t t' tail tail' : List Char} (formed : Formed spare t)
    (formed' : Formed spare t')
    (blank : Blank gap) (blank' : Blank gap') (ended : Ended t tail) (ended' : Ended t' tail')
    (same : gap ++ (t ++ tail) = gap' ++ (t' ++ tail')) : t = t' ∧ tail = tail' := by
  obtain ⟨c, u, rfl, visible, -⟩ := formed.head
  obtain ⟨c', u', rfl, visible', -⟩ := formed'.head
  obtain ⟨rfl, -, -⟩ := Reader.blank_cons_unique blank blank' visible visible' same
  have values := List.append_cancel_left same
  have ends := formed.unique formed' ended ended' values
  rw [ends] at values ⊢
  exact ⟨rfl, List.append_cancel_left values⟩

-- The text is taken apart in one way only, so its members are the ones that were read.
theorem Declaration.text_object {u : List Char} {ms : List (String × List Char)} (listed : Members Quoted true u ms)
    (each : ∀ m ∈ ms, Valid m.2) {v : α} :
    d.Text ('\x7b' :: u) v ↔ ∃ row, Declares d.fields d.forms ms row ∧ d.make row = v := by
  constructor
  · rintro ⟨row, ⟨u', ms', same, listed', declares, others⟩ | ⟨_, _, same, _⟩, made⟩
    · obtain rfl := (List.cons.inj same).2
      have formed : ∀ m ∈ ms', Formed true m.2 := fun m member => by
        by_cases known : m.1 ∈ d.fields.map Field.key
        · exact declares.value member known d.exact
        · exact (others m member known).loosen
      obtain ⟨-, rfl⟩ := listed.unique spells_quoted listed'
        (fun m member => ⟨(each m member).loosen.unique, (each m member).loosen⟩) formed (r := []) rfl
      exact ⟨row, declares, made⟩
    · cases same
  · rintro ⟨row, declares, made⟩
    exact ⟨row, .inl ⟨u, ms, rfl, listed, declares, fun m member _ => each m member⟩, made⟩

theorem Declaration.text_array {u : List Char} {ts : List (List Char)} (listed : Elements false true u ts)
    (each : ∀ t ∈ ts, Valid t) {v : α} :
    d.Text ('[' :: u) v ↔ ∃ row, Holds d.fields d.forms ts row ∧ d.make row = v := by
  constructor
  · rintro ⟨row, ⟨_, _, same, _⟩ | ⟨u', ts', same, listed', holds⟩, made⟩
    · cases same
    · obtain rfl := (List.cons.inj same).2
      obtain ⟨-, rfl⟩ := (listed.loosen : Elements true true u ts).unique listed'.loosen
        (fun t member => ⟨(each t member).loosen.unique, (each t member).loosen⟩) (holds.values d.exact) (r := []) rfl
      exact ⟨row, holds, made⟩
  · rintro ⟨row, holds, made⟩
    exact ⟨row, .inr ⟨u, ts, rfl, listed, holds⟩, made⟩

-- What stands alone between blanks is what is read, if anything is.
theorem Declaration.whole_text {s : String} {gap t tail : List Char} (blank : Blank gap) (last : Blank tail)
    (same : s.toList = gap ++ (t ++ tail)) (formed : Formed true t) (ended : Ended t tail) {v : α} :
    Reader.whole d.read s = .ok v ↔ d.Text t v := by
  rw [d.whole_iff]
  constructor
  · rintro ⟨gap', t', tail', blank', last', same', fits⟩
    have fitsEnded : Ended t' tail' := by
      obtain ⟨row, fits, -⟩ := fits
      exact fits.ended tail'
    obtain ⟨rfl, -⟩ := formed.between (d.exact_read.formed fits) blank blank' ended fitsEnded (same.symm.trans same')
    exact fits
  · exact fun fits => ⟨gap, t, tail, blank, last, same, fits⟩

theorem Declaration.whole_object {s : String} {ms : List (String × List Char)} (text : ObjectText s ms) (v : α) :
    Reader.whole d.read s = .ok v ↔ ∃ row, Declares d.fields d.forms ms row ∧ d.make row = v := by
  obtain ⟨gap, u, tail, blank, last, same, listed, each⟩ := text
  have valid : Valid ('\x7b' :: u) := by
    refine .object (listed.map (fun _ => ()) fun _ _ spelled => spelled.loosen) fun m member => ?_
    obtain ⟨n, inside, rfl⟩ := List.mem_map.mp member
    exact each n inside
  rw [d.whole_text blank last same valid.loosen (ended_of_head rfl u tail), d.text_object listed each]

theorem Declaration.whole_array {s : String} {ts : List (List Char)} (text : ArrayText s ts) (v : α) :
    Reader.whole d.read s = .ok v ↔ ∃ row, Holds d.fields d.forms ts row ∧ d.make row = v := by
  obtain ⟨gap, u, tail, blank, last, same, listed, each⟩ := text
  have valid : Valid ('[' :: u) := .array listed each
  rw [d.whole_text blank last same valid.loosen (ended_of_head rfl u tail), d.text_array listed each]

section

variable {fs : List Field} {forms : Forms fs} {ms ms' : List (String × List Char)} {row : Row fs}

theorem SameValues.declares (same : SameValues fs forms ms ms') :
    Declares fs forms ms row ↔ Declares fs forms ms' row := by
  induction fs with
  | nil => exact Iff.rfl
  | cons f fs ih =>
    obtain ⟨form, forms⟩ := forms
    obtain ⟨a, row⟩ := row
    obtain ⟨now, same⟩ := same
    refine and_congr ?_ (ih same)
    constructor
    · rintro ⟨t, once, fits⟩
      rw [once] at now
      obtain ⟨t', rest, alike, none, shape⟩ := List.forall₂_cons_left_iff.mp now
      cases none
      exact ⟨t', shape, (alike a).mp fits⟩
    · rintro ⟨t', once, fits⟩
      rw [once] at now
      obtain ⟨t, rest, alike, none, shape⟩ := List.forall₂_cons_right_iff.mp now
      cases none
      exact ⟨t, shape, (alike a).mpr fits⟩

theorem Declares.congr (same : ∀ f ∈ fs, ∀ t, valuesOf f.key ms = [t] ↔ valuesOf f.key ms' = [t]) :
    Declares fs forms ms row ↔ Declares fs forms ms' row := by
  induction fs with
  | nil => exact Iff.rfl
  | cons f fs ih =>
    obtain ⟨form, forms⟩ := forms
    obtain ⟨a, row⟩ := row
    obtain ⟨now, same⟩ := List.forall_mem_cons.mp same
    exact and_congr (exists_congr fun t => and_congr_left fun _ => now t) (ih same)

theorem valuesOf_known {key : String} (known : key ∈ d.keys) : valuesOf key (d.known ms) = valuesOf key ms := by
  rw [valuesOf, valuesOf, Declaration.known, List.filter_filter]
  refine congrArg (List.map Prod.snd) (List.filter_congr fun m _ => ?_)
  by_cases same : m.1 = key
  · simp [same, known]
  · simp [same]

theorem valuesOf_perm {key : String} (perm : ms.Perm ms') (t : List Char) :
    valuesOf key ms = [t] ↔ valuesOf key ms' = [t] := by
  have values : (valuesOf key ms).Perm (valuesOf key ms') := (perm.filter _).map _
  constructor
  · intro once
    rw [once] at values
    exact List.perm_singleton.mp values.symm
  · intro once
    rw [once] at values
    exact List.perm_singleton.mp values

theorem Declaration.declares_perm {row : Row d.fields} (perm : (d.known ms).Perm (d.known ms')) :
    Declares d.fields d.forms ms row ↔ Declares d.fields d.forms ms' row := by
  refine Declares.congr fun f member t => ?_
  have known : f.key ∈ d.keys := List.mem_map_of_mem member
  have permuted : valuesOf f.key (d.known ms) = [t] ↔ valuesOf f.key (d.known ms') = [t] := valuesOf_perm perm t
  rwa [valuesOf_known known, valuesOf_known known] at permuted

theorem valuesOf_zip_eq_nil {key : String} {keys : List String} (unknown : key ∉ keys) (ts : List (List Char)) :
    valuesOf key (keys.zip ts) = [] := by
  rw [valuesOf, List.map_eq_nil_iff, List.filter_eq_nil_iff]
  intro m member
  have inside : m.1 ∈ keys := (List.of_mem_zip member).1
  simp only [decide_eq_true_eq]
  rintro rfl
  exact unknown inside

-- The values in their order, under the names of the fields.
theorem holds_iff_declares (distinct : (fs.map Field.key).Nodup) {ts : List (List Char)}
    (length : ts.length = fs.length) : Holds fs forms ts row ↔ Declares fs forms ((fs.map Field.key).zip ts) row := by
  induction fs generalizing ts with
  | nil => exact ⟨fun _ => trivial, fun _ => List.length_eq_zero_iff.mp length⟩
  | cons f fs ih =>
    obtain ⟨form, forms⟩ := forms
    obtain ⟨a, row⟩ := row
    obtain ⟨fresh, distinct⟩ := List.nodup_cons.mp distinct
    cases ts with
    | nil => cases length
    | cons t ts =>
      rw [List.map_cons, List.zip_cons_cons, Holds, Declares, valuesOf_same, valuesOf_zip_eq_nil fresh]
      have others : Declares fs forms ((f.key, t) :: (fs.map Field.key).zip ts) row ↔
          Declares fs forms ((fs.map Field.key).zip ts) row := by
        refine Declares.congr fun g member u => ?_
        rw [valuesOf_other]
        rintro same
        exact fresh (same ▸ List.mem_map_of_mem member)
      rw [others, ih distinct (Nat.succ.inj length)]
      simp

end

-- The whole text begins with the value that its front holds, so what is read ends where that value ends.
theorem Declaration.whole_append {s extra : String} (given : JsonText s ∨ ∃ v, Reader.whole d.read s = .ok v)
    (more : ¬ Blank extra.toList) (v : α) : Reader.whole d.read (s ++ extra) ≠ .ok v := by
  intro said
  obtain ⟨gap', t', tail', blank', last', same', row, fits, -⟩ := d.whole_iff.mp said
  have front : ∃ gap t tail, Blank gap ∧ s.toList = gap ++ (t ++ tail) ∧ Formed true t := by
    obtain ⟨gap, t, tail, blank, last, same, valid⟩ | ⟨w, said⟩ := given
    · exact ⟨gap, t, tail, blank, same, valid.loosen⟩
    · obtain ⟨gap, t, tail, blank, last, same, fits⟩ := d.whole_iff.mp said
      exact ⟨gap, t, tail, blank, same, d.exact_read.formed fits⟩
  obtain ⟨gap, t, tail, blank, same, formed⟩ := front
  have texts : gap ++ (t ++ (tail ++ extra.toList)) = gap' ++ (t' ++ tail') := by
    rw [← same', String.toList_append, same, List.append_assoc, List.append_assoc]
  have formed' := d.exact_read.formed ⟨row, fits, rfl⟩
  have ended : Ended t (tail ++ extra.toList) := by
    obtain ⟨c, u, rfl, visible, -⟩ := formed.head
    obtain ⟨c', u', rfl, other⟩ := fits.head
    obtain ⟨_, _, shape, visible', -⟩ := formed'.head
    obtain ⟨rfl, -⟩ := List.cons.inj shape
    obtain ⟨-, rfl, -⟩ := Reader.blank_cons_unique blank blank' visible visible' texts
    exact ended_of_head other u _
  obtain ⟨-, rest⟩ := formed.between formed' blank blank' ended (fits.ended tail') texts
  refine more ?_
  rw [← rest, Blank, List.all_append, Bool.and_eq_true] at last'
  exact last'.2

theorem Declaration.accepts : Accepts d.read d where
  only := d.whole_iff
  object text := d.whole_object text
  array text := d.whole_array text
  reordered text text' perm v := by
    rw [d.whole_object text, d.whole_object text']
    exact exists_congr fun row => and_congr_left fun _ => d.declares_perm perm
  alike text text' same v := by
    rw [d.whole_object text, d.whole_object text']
    exact exists_congr fun row => and_congr_left fun _ => same.declares
  corresponding text length text' v := by
    rw [d.whole_array text, d.whole_object text']
    exact exists_congr fun row => and_congr_left fun _ => holds_iff_declares d.distinct length
  alone given more := d.whole_append given more

namespace Declaration

open Reader

def query : Declaration Query where
  name := "Query"
  fields := [⟨"swapAdapter", address, none, none⟩, ⟨"tokenOut", address, none, none⟩,
    ⟨"minAmountOut", amount, none, none⟩, ⟨"deadline", amount, none, none⟩, ⟨"rawParams", bytes, none, none⟩]
  forms := (AddressText, AddressText, AmountText, AmountText, BytesText, ())
  make := fun (swapAdapter, tokenOut, minAmountOut, deadline, rawParams, _) =>
    { swapAdapter, tokenOut, minAmountOut, deadline, rawParams }
  exact := ⟨exact_address, rfl, rfl, exact_address, rfl, rfl, exact_amount, rfl, rfl, exact_amount, rfl, rfl,
    exact_bytes, rfl, rfl, trivial⟩
  distinct := by decide

def feeConfig : Declaration FeeConfig where
  name := "FeeConfig"
  fields := [⟨"bridgeFee", amount, none, none⟩, ⟨"minFee", amount, none, none⟩, ⟨"maxFee", amount, none, none⟩]
  forms := (AmountText, AmountText, AmountText, ())
  make := fun (bridgeFee, minFee, maxFee, _) => { bridgeFee, minFee, maxFee }
  exact := ⟨exact_amount, rfl, rfl, exact_amount, rfl, rfl, exact_amount, rfl, rfl, trivial⟩
  distinct := by decide

def bridgeToken : Declaration BridgeToken where
  name := "BridgeToken"
  fields := [⟨"symbol", Reader.text, none, none⟩, ⟨"token", address, none, none⟩]
  forms := (Quoted, AddressText, ())
  make := fun (symbol, token, _) => { symbol, token }
  exact := ⟨exact_text, rfl, rfl, exact_address, rfl, rfl, trivial⟩
  distinct := by decide

def destRequest : Declaration DestRequest where
  name := "DestRequest"
  fields := [⟨"symbol", Reader.text, none, none⟩, ⟨"amountIn", amount, none, none⟩]
  forms := (Quoted, AmountText, ())
  make := fun (symbol, amountIn, _) => { symbol, amountIn }
  exact := ⟨exact_text, rfl, rfl, exact_amount, rfl, rfl, trivial⟩
  distinct := by decide

def poolToken : Declaration PoolToken where
  name := "PoolToken"
  fields := [⟨"isWeth", flag, none, none⟩, ⟨"token", address, none, none⟩]
  forms := (FlagText, AddressText, ())
  make := fun (isWeth, token, _) => { isWeth, token }
  exact := ⟨exact_flag, rfl, rfl, exact_address, rfl, rfl, trivial⟩
  distinct := by decide

def poolInfo : Declaration PoolInfo where
  name := "PoolInfo"
  fields := [⟨"tokens", amount, none, none⟩, ⟨"lpToken", address, none, none⟩]
  forms := (AmountText, AddressText, ())
  make := fun (tokens, lpToken, _) => { tokens, lpToken }
  exact := ⟨exact_amount, rfl, rfl, exact_address, rfl, rfl, trivial⟩
  distinct := by decide

-- The tokens may be objects or arrays each.
def poolSummary : Declaration PoolSummary where
  name := "PoolSummary"
  fields := [⟨"poolAddress", address, none, none⟩, ⟨"tokens", arrayOf Reader.poolToken, none, none⟩,
    ⟨"lpToken", address, none, none⟩]
  forms := (AddressText, Listed poolToken.Text, AddressText, ())
  make := fun (poolAddress, tokens, lpToken, _) => { poolAddress, tokens, lpToken }
  exact := ⟨exact_address, rfl, rfl, exact_arrayOf poolToken.exact_read, rfl, rfl, exact_address, rfl, rfl, trivial⟩
  distinct := by decide

end Declaration

theorem domain_accepts : Accepts Reader.query .query ∧ Accepts Reader.feeConfig .feeConfig ∧
    Accepts Reader.bridgeToken .bridgeToken ∧ Accepts Reader.destRequest .destRequest ∧
    Accepts Reader.poolToken .poolToken ∧ Accepts Reader.poolInfo .poolInfo ∧
    Accepts Reader.poolSummary .poolSummary := by
  refine ⟨?_, ?_, ?_, ?_, ?_, ?_, ?_⟩
  · exact Declaration.query.accepts
  · exact Declaration.feeConfig.accepts
  · exact Declaration.bridgeToken.accepts
  · exact Declaration.destRequest.accepts
  · exact Declaration.poolToken.accepts
  · exact Declaration.poolInfo.accepts
  · exact Declaration.poolSummary.accepts

example : Reader.whole Reader.destRequest "\x7b\"amountIn\":\"7\",\"a\":[\x7b\"b\":[]\x7d], \"symbol\" : \"T\"\x7d" =
    .ok ⟨"T", 7⟩ := by cbv

end RouteQuote.Json
