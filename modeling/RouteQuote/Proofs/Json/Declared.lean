import RouteQuote.Proofs.Json.Arrays

namespace RouteQuote.Json

@[reducible] def Forms : List Field → Type
  | [] => Unit
  | f :: fs => (List Char → f.α → Prop) × Forms fs

-- The values of the members of that name, in the order of the text.
def valuesOf (key : String) (ms : List (String × List Char)) : List (List Char) := (ms.filter (·.1 = key)).map Prod.snd

def Declares : (fs : List Field) → Forms fs → List (String × List Char) → Row fs → Prop
  | [], _, _, _ => True
  | f :: fs, (form, forms), ms, (a, row) => (∃ t, valuesOf f.key ms = [t] ∧ form t a) ∧ Declares fs forms ms row

def Holds : (fs : List Field) → Forms fs → List (List Char) → Row fs → Prop
  | [], _, ts, _ => ts = []
  | _ :: _, _, [], _ => False
  | _ :: fs, (form, forms), t :: ts, (a, row) => form t a ∧ Holds fs forms ts row

def OthersValid (fs : List Field) (ms : List (String × List Char)) : Prop :=
    ∀ m ∈ ms, m.1 ∉ fs.map Field.key → Valid m.2

def RecordText (fs : List Field) (forms : Forms fs) (t : List Char) (row : Row fs) : Prop :=
  (∃ u ms, t = '\x7b' :: u ∧ Members Quoted true u ms ∧ Declares fs forms ms row ∧ OthersValid fs ms) ∨
  ∃ u ts, t = '[' :: u ∧ Elements false true u ts ∧ Holds fs forms ts row

-- Every field is read exactly, and none has a value of its own.
def AllExact : (fs : List Field) → Forms fs → Prop
  | [], _ => True
  | f :: fs, (form, forms) => Exact f.read form ∧ f.absent = none ∧ f.beyond = none ∧ AllExact fs forms

theorem valuesOf_same (key : String) (t : List Char) (ms : List (String × List Char)) :
    valuesOf key ((key, t) :: ms) = t :: valuesOf key ms := by simp [valuesOf]

theorem valuesOf_other {key other : String} (apart : other ≠ key) (t : List Char) (ms : List (String × List Char)) :
    valuesOf key ((other, t) :: ms) = valuesOf key ms := by simp [valuesOf, apart]

variable {fs : List Field} {forms : Forms fs} {slots after : Slots fs} {row : Row fs} {key : String} {t : List Char}
  {ms : List (String × List Char)}

theorem Declares.value (declares : Declares fs forms ms row) {m : String × List Char} (member : m ∈ ms)
    (known : m.1 ∈ fs.map Field.key) (exact : AllExact fs forms) : Formed true m.2 := by
  induction fs with
  | nil => cases known
  | cons f fs ih =>
    obtain ⟨form, forms⟩ := forms
    obtain ⟨a, row⟩ := row
    obtain ⟨⟨t, once, fits⟩, declares⟩ := declares
    obtain same | known := List.mem_cons.mp known
    · have value : m.2 ∈ valuesOf f.key ms :=
        List.mem_map.mpr ⟨m, List.mem_filter.mpr ⟨member, by simpa using same⟩, rfl⟩
      rw [once, List.mem_singleton] at value
      rw [value]
      exact exact.1.formed fits
    · exact ih declares known exact.2.2.2

theorem Holds.values {ts : List (List Char)} (holds : Holds fs forms ts row) (exact : AllExact fs forms) :
    ∀ t ∈ ts, Formed true t := by
  induction fs generalizing ts with
  | nil =>
    obtain rfl : ts = [] := holds
    exact nofun
  | cons f fs ih =>
    obtain ⟨form, forms⟩ := forms
    obtain ⟨a, row⟩ := row
    cases ts with
    | nil => cases holds
    | cons t ts => exact List.forall_mem_cons.mpr ⟨exact.1.formed holds.1, ih holds.2 exact.2.2.2⟩

-- What the members that are still to come have to be: a field whose slot is filled must not come again.
def FieldMeets (key : String) (form : List Char → α → Prop) (ms : List (String × List Char)) (a : α) : Option α → Prop
  | none => ∃ t, valuesOf key ms = [t] ∧ form t a
  | some b => valuesOf key ms = [] ∧ b = a

def Meets : (fs : List Field) → Forms fs → Slots fs → List (String × List Char) → Row fs → Prop
  | [], _, _, _, _ => True
  | f :: fs, (form, forms), (slot, slots), ms, (a, row) => FieldMeets f.key form ms a slot ∧ Meets fs forms slots ms row

theorem meets_empty : Meets fs forms (Slots.empty fs) ms row ↔ Declares fs forms ms row := by
  induction fs with
  | nil => exact Iff.rfl
  | cons f fs ih =>
    obtain ⟨form, forms⟩ := forms
    obtain ⟨a, row⟩ := row
    exact and_congr_right fun _ => ih

inductive Fill (key : String) (t : List Char) : (fs : List Field) → Forms fs → Slots fs → Slots fs → Prop where
  | here {f : Field} {fs : List Field} {form : List Char → f.α → Prop} {forms : Forms fs} {slots : Slots fs} {a : f.α}
      (named : f.key = key) (fits : form t a) : Fill key t (f :: fs) (form, forms) (none, slots) (some a, slots)
  | there {f : Field} {fs : List Field} {form : List Char → f.α → Prop} {forms : Forms fs} {slot : Option f.α}
      {slots after : Slots fs} (other : f.key ≠ key) (fill : Fill key t fs forms slots after) :
      Fill key t (f :: fs) (form, forms) (slot, slots) (slot, after)

theorem FieldMeets.other {form : List Char → α → Prop} {a : α} {slot : Option α} {other : String}
    (apart : other ≠ key) : FieldMeets key form ((other, t) :: ms) a slot ↔ FieldMeets key form ms a slot := by
  cases slot with
  | none => rw [FieldMeets, FieldMeets, valuesOf_other apart]
  | some b => rw [FieldMeets, FieldMeets, valuesOf_other apart]

theorem Meets.unknown (unknown : key ∉ fs.map Field.key) :
    Meets fs forms slots ((key, t) :: ms) row ↔ Meets fs forms slots ms row := by
  induction fs with
  | nil => exact Iff.rfl
  | cons f fs ih =>
    obtain ⟨form, forms⟩ := forms
    obtain ⟨slot, slots⟩ := slots
    obtain ⟨a, row⟩ := row
    obtain ⟨other, unknown⟩ : key ≠ f.key ∧ key ∉ fs.map Field.key := by simpa using unknown
    rw [Meets, Meets, FieldMeets.other other, ih unknown]

theorem Fill.known (fill : Fill key t fs forms slots after) : key ∈ fs.map Field.key := by
  induction fill with
  | here named _ => exact List.mem_cons.mpr (.inl named.symm)
  | there _ _ ih => exact List.mem_cons_of_mem _ ih

theorem Fill.meets (exact : AllExact fs forms) (distinct : (fs.map Field.key).Nodup)
    (fill : Fill key t fs forms slots after) :
    Meets fs forms slots ((key, t) :: ms) row ↔ Meets fs forms after ms row := by
  induction fill with
  | @here f fs form forms slots a named fits =>
    obtain ⟨b, row⟩ := row
    obtain ⟨fresh, -⟩ := List.nodup_cons.mp distinct
    subst named
    rw [Meets, Meets, Meets.unknown fresh]
    refine and_congr_left fun _ => ?_
    rw [FieldMeets, FieldMeets, valuesOf_same]
    constructor
    · rintro ⟨t', listed, fits'⟩
      obtain ⟨rfl, none⟩ := List.cons.inj listed
      exact ⟨none, exact.1.meaning fits fits'⟩
    · rintro ⟨none, rfl⟩
      exact ⟨t, by rw [none], fits⟩
  | there other _ ih =>
    obtain ⟨b, row⟩ := row
    rw [Meets, Meets, FieldMeets.other (Ne.symm other), ih exact.2.2.2 (List.nodup_cons.mp distinct).2]

theorem Meets.fill (known : key ∈ fs.map Field.key) (meets : Meets fs forms slots ((key, t) :: ms) row) :
    ∃ after, Fill key t fs forms slots after := by
  induction fs with
  | nil => cases known
  | cons f fs ih =>
    obtain ⟨form, forms⟩ := forms
    obtain ⟨slot, slots⟩ := slots
    obtain ⟨a, row⟩ := row
    by_cases named : f.key = key
    · subst named
      obtain ⟨now, -⟩ := meets
      cases slot with
      | none =>
        obtain ⟨t', listed, fits⟩ := now
        rw [valuesOf_same] at listed
        obtain ⟨rfl, -⟩ := List.cons.inj listed
        exact ⟨_, .here rfl fits⟩
      | some b =>
        rw [FieldMeets, valuesOf_same] at now
        cases now.1
    · obtain ⟨after, fill⟩ := ih ((List.mem_cons.mp known).resolve_left (Ne.symm named)) meets.2
      exact ⟨_, .there named fill⟩

namespace Slots

open Reader

theorem complete_iff (exact : AllExact fs forms) {s rest : List Char} :
    complete fs slots s = .ok (row, rest) ↔ s = rest ∧ Meets fs forms slots [] row := by
  induction fs with
  | nil =>
    rw [complete, pure_eq_ok]
    exact ⟨fun said => ⟨said.2, trivial⟩, fun said => ⟨rfl, said.1⟩⟩
  | cons f fs ih =>
    obtain ⟨form, forms⟩ := forms
    obtain ⟨slot, slots⟩ := slots
    obtain ⟨a, row⟩ := row
    obtain ⟨-, absent, -, exact⟩ := exact
    cases slot with
    | none =>
      rw [complete, absent]
      constructor
      · intro said
        cases said
      · rintro ⟨-, ⟨t, none, -⟩, -⟩
        cases none
    | some b =>
      rw [complete]
      simp only [Option.some_or]
      rw [bind_eq_ok]
      constructor
      · rintro ⟨values, mid, said, made⟩
        cases made
        obtain ⟨rfl, meets⟩ := (ih exact).mp said
        exact ⟨rfl, ⟨rfl, rfl⟩, meets⟩
      · rintro ⟨rfl, ⟨-, rfl⟩, meets⟩
        exact ⟨row, s, (ih exact).mpr ⟨rfl, meets⟩, rfl⟩

theorem member_eq_none : slots.member key = none ↔ key ∉ fs.map Field.key := by
  induction fs with
  | nil => exact ⟨fun _ => nofun, fun _ => rfl⟩
  | cons f fs ih =>
    obtain ⟨slot, slots⟩ := slots
    unfold member
    split
    · rename_i named
      constructor
      · intro none
        cases slot <;> cases none
      · exact fun unknown => absurd (List.mem_cons.mpr (.inl named.symm)) unknown
    · rename_i other
      rw [Option.map_eq_none_iff, ih, List.map_cons, List.mem_cons, not_or]
      exact ⟨fun unknown => ⟨Ne.symm other, unknown⟩, fun unknown => unknown.2⟩

theorem colon_eq_ok {s rest : List Char} (said : colon s = .ok ((), rest)) :
    ∃ gap, Blank gap ∧ s = gap ++ ':' :: rest := by
  rw [colon, peek_bind_eq_ok] at said
  obtain ⟨d, state, ahead, said⟩ := said
  split at said
  · cases said
  · cases ahead with
    | some blank _ =>
      cases said
      exact ⟨_, blank, rfl⟩
  · cases said

theorem colon_blank {gap : List Char} (blank : Blank gap) (rest : List Char) :
    colon (gap ++ ':' :: rest) = .ok ((), rest) := by
  rw [colon, bind_ok (peek_blank blank rfl rest)]
  rfl

theorem member_eq_some (exact : AllExact fs forms) {read : Reader (Slots fs)} (found : slots.member key = some read)
    {s rest : List Char} (said : read s = .ok (after, rest)) :
    ∃ gap inner t, Blank gap ∧ Blank inner ∧ s = gap ++ ':' :: (inner ++ (t ++ rest)) ∧
      Fill key t fs forms slots after := by
  induction fs with
  | nil => cases found
  | cons f fs ih =>
    obtain ⟨form, forms⟩ := forms
    obtain ⟨slot, slots⟩ := slots
    obtain ⟨first, absent, -, exact⟩ := exact
    unfold member at found
    split at found
    · rename_i named
      cases slot with
      | some b =>
        cases found
        cases said
      | none =>
        cases found
        obtain ⟨⟨⟩, mid, passed, said⟩ := bind_eq_ok.mp said
        obtain ⟨a, last, ran, made⟩ := bind_eq_ok.mp said
        cases made
        obtain ⟨gap, blank, rfl⟩ := colon_eq_ok passed
        obtain ⟨inner, t, behind, rfl, fits⟩ := first.sound ran
        exact ⟨gap, inner, t, blank, behind, rfl, .here named fits⟩
    · rename_i other
      rw [Option.map_eq_some_iff] at found
      obtain ⟨read, found, rfl⟩ := found
      obtain ⟨filled, last, ran, made⟩ := bind_eq_ok.mp said
      cases made
      obtain ⟨gap, inner, t, blank, behind, rfl, fill⟩ := ih exact found ran
      exact ⟨gap, inner, t, blank, behind, rfl, .there other fill⟩

theorem member_fill (exact : AllExact fs forms) (fill : Fill key t fs forms slots after) : ∃ read,
    slots.member key = some read ∧ ∀ {gap inner rest}, Blank gap → Blank inner → Ended t rest →
      read (gap ++ ':' :: (inner ++ (t ++ rest))) = .ok (after, rest) := by
  induction fill with
  | here named fits =>
    refine ⟨_, member_here named, fun blank behind ended => ?_⟩
    rw [bind_ok (colon_blank blank _), bind_ok (exact.1.complete behind fits ended)]
    rfl
  | there other _ ih =>
    obtain ⟨read, found, reads⟩ := ih exact.2.2.2
    exact ⟨_, (member_there other).trans (congrArg (Option.map _) found), fun blank behind ended =>
      bind_ok (reads blank behind ended) _⟩

end Slots

namespace Reader

variable {first : Bool} {s rest : List Char}

inductive MemberAhead (first : Bool) : List Char → Bool → List Char → Prop where
  | close {tail u : List Char} (blank : Blank tail) : MemberAhead first (tail ++ '\x7d' :: u) false ('\x7d' :: u)
  | member {lead u : List Char} (between : Between first lead) : MemberAhead first (lead ++ '"' :: u) true ('"' :: u)

theorem hasMember_eq_ok {more : Bool} (said : hasMember first s = .ok (more, rest)) :
    MemberAhead first s more rest := by
  rw [hasMember, peek_bind_eq_ok] at said
  obtain ⟨d, state, ahead, said⟩ := said
  split at said
  · cases said
  · cases ahead with
    | some blank _ =>
      cases said
      exact .close blank
  · rename_i c brace
    cases ahead with
    | some blank visible =>
      dsimp only at said
      split at said
      · rename_i start
        subst start
        split at said
        · rename_i quote
          subst quote
          cases said
          exact .member (.start blank)
        · cases said
      · rename_i later
        obtain rfl := Bool.eq_false_iff.mpr later
        split at said
        · cases said
        · rename_i comma
          obtain rfl := Decidable.not_not.mp comma
          rw [bind_ok (advance_ok _ _), peek_bind_eq_ok] at said
          obtain ⟨d, state, ahead, said⟩ := said
          split at said
          · cases said
          · cases ahead with
            | @some gap tail _ after visible =>
              cases said
              rw [← List.cons_append, ← List.append_assoc]
              exact .member (.comma blank after)
          · cases said

theorem hasMember_ahead {more : Bool} (ahead : MemberAhead first s more rest) :
    hasMember first s = .ok (more, rest) := by
  cases ahead with
  | close blank => exact hasMember_close blank first _
  | member between =>
    cases between with
    | start blank =>
      rw [hasMember, bind_ok (peek_blank blank rfl _)]
      rfl
    | comma before after =>
      rw [List.append_assoc, List.cons_append, hasMember, bind_ok (peek_blank before rfl _)]
      refine (bind_ok (advance_ok _ _) _).trans ?_
      rw [bind_ok (peek_blank after rfl _)]
      rfl

theorem memberName_eq_ok {u : List Char} (said : memberName ('"' :: u) = .ok (key, rest)) :
    ∃ name, '"' :: u = name ++ rest ∧ Quoted name key := by
  rw [memberName, bind_ok (advance_ok _ _)] at said
  obtain ⟨t, rfl, closed⟩ := (stringBody_takes _ _ _).mp said
  exact ⟨'"' :: t, rfl, t, rfl, closed⟩

theorem memberName_quoted {name : List Char} (spelled : Quoted name key) (rest : List Char) :
    memberName (name ++ rest) = .ok (key, rest) := by
  obtain ⟨t, rfl, closed⟩ := spelled
  exact stringBody_takes.ok closed rest

-- The members that were read are taken up by the slots; those still to come have to meet what is left open.
theorem recordMembers_eq_ok (exact : AllExact fs forms) (distinct : (fs.map Field.key).Nodup) {fuel : Nat}
    (said : recordMembers fs slots first fuel s = .ok (row, rest)) :
    ∃ u ms, s = u ++ rest ∧ Members Quoted first u ms ∧ Meets fs forms slots ms row ∧ OthersValid fs ms := by
  induction fuel generalizing first s slots with
  | zero => cases said
  | succ fuel ih =>
    rw [recordMembers, bind_eq_ok] at said
    obtain ⟨more, mid, ran, said⟩ := said
    cases hasMember_eq_ok ran with
    | @close tail u blank =>
      rw [if_neg (by decide), bind_eq_ok] at said
      obtain ⟨values, after, completed, said⟩ := said
      obtain ⟨⟨⟩, last, closed, made⟩ := bind_eq_ok.mp said
      cases made
      obtain ⟨rfl, meets⟩ := (Slots.complete_iff exact).mp completed
      cases closed
      exact ⟨tail ++ ['\x7d'], [], by simp, .close blank, meets, List.forall_mem_nil _⟩
    | @member lead u between =>
      rw [if_pos rfl, bind_eq_ok] at said
      obtain ⟨key, mid, name, said⟩ := said
      obtain ⟨name, front, spelled⟩ := memberName_eq_ok name
      cases found : slots.member key with
      | some read =>
        rw [found] at said
        obtain ⟨filled, after, ran, remaining⟩ := bind_eq_ok.mp said
        obtain ⟨gap, inner, t, before, behind, rfl, fill⟩ := Slots.member_eq_some exact found ran
        obtain ⟨u, ms, rfl, listed, meets, others⟩ := ih remaining
        rw [front]
        exact ⟨_, (key, t) :: ms, by simp, .next between spelled before behind listed,
          (fill.meets exact distinct).mpr meets,
          List.forall_mem_cons.mpr ⟨fun unknown => absurd fill.known unknown, others⟩⟩
      | none =>
        rw [found] at said
        obtain ⟨⟨⟩, mid, passed, further⟩ := bind_eq_ok.mp said
        obtain ⟨⟨⟩, after, skipped, remaining⟩ := bind_eq_ok.mp further
        have unknown := Slots.member_eq_none.mp found
        obtain ⟨gap, before, rfl⟩ := Slots.colon_eq_ok passed
        obtain ⟨inner, t, behind, rfl, valid⟩ := skip_eq_ok skipped
        obtain ⟨u, ms, rfl, listed, meets, others⟩ := ih remaining
        rw [front]
        exact ⟨_, (key, t) :: ms, by simp, .next between spelled before behind listed,
          (Meets.unknown unknown).mpr meets, List.forall_mem_cons.mpr ⟨fun _ => valid, others⟩⟩

theorem recordMembers_members (exact : AllExact fs forms) (distinct : (fs.map Field.key).Nodup) {u : List Char}
    (listed : Members Quoted first u ms) (meets : Meets fs forms slots ms row) (others : OthersValid fs ms) {fuel : Nat}
    (enough : ms.length < fuel) (rest : List Char) :
    recordMembers fs slots first fuel (u ++ rest) = .ok (row, rest) := by
  induction listed generalizing slots fuel with
  | close blank =>
    obtain ⟨fuel, rfl⟩ := Nat.exists_eq_succ_of_ne_zero (Nat.ne_zero_of_lt enough)
    rw [List.append_assoc, List.singleton_append, recordMembers, bind_ok (hasMember_ahead (.close blank)),
      if_neg (by decide), bind_ok ((Slots.complete_iff exact).mpr ⟨rfl, meets⟩)]
    rfl
  | @next first lead name gap inner t u key ms between spelled before behind listed ih =>
    obtain ⟨fuel, rfl⟩ := Nat.exists_eq_succ_of_ne_zero (Nat.ne_zero_of_lt enough)
    obtain ⟨valid, others⟩ := List.forall_mem_cons.mp others
    have named := memberName_quoted spelled (gap ++ ':' :: (inner ++ (t ++ (u ++ rest))))
    have ended : Ended t (u ++ rest) := (listed.apart rest).ended
    obtain ⟨v, rfl, -⟩ := spelled
    simp only [List.append_assoc, List.cons_append] at named ⊢
    rw [recordMembers, bind_ok (hasMember_ahead (.member between)), if_pos rfl, bind_ok named]
    by_cases known : key ∈ fs.map Field.key
    · obtain ⟨after, fill⟩ := meets.fill known
      obtain ⟨read, found, reads⟩ := Slots.member_fill exact fill
      rw [found]
      refine (bind_ok (reads before behind ended) _).trans ?_
      exact ih ((fill.meets exact distinct).mp meets) others (Nat.lt_of_succ_lt_succ enough)
    · rw [Slots.member_eq_none.mpr known]
      refine (bind_ok (Slots.colon_blank before _) _).trans ?_
      refine (bind_ok (skip_valid behind (valid known) ended) _).trans ?_
      exact ih ((Meets.unknown known).mp meets) others (Nat.lt_of_succ_lt_succ enough)

theorem recordItems_eq_ok (exact : AllExact fs forms) {wanted : String} {count : Nat} {mid : List Char}
    (said : recordItems wanted count first fs s = .ok (row, mid)) (closed : closeArray mid = .ok ((), rest)) :
    ∃ u ts, s = u ++ rest ∧ Elements false first u ts ∧ Holds fs forms ts row := by
  induction fs generalizing first s count with
  | nil =>
    cases said
    obtain ⟨tail, blank, rfl⟩ := closeArray_eq_ok closed
    exact ⟨tail ++ [']'], [], by simp, .close blank, rfl⟩
  | cons f fs ih =>
    obtain ⟨form, forms⟩ := forms
    obtain ⟨a, row⟩ := row
    obtain ⟨read, -, beyond, exact⟩ := exact
    rw [recordItems, bind_eq_ok] at said
    obtain ⟨more, state, ran, said⟩ := said
    cases hasItem_iff.mp ran with
    | close =>
      rw [if_neg (by decide), beyond] at said
      cases said
    | item between visible bracket =>
      rw [if_pos rfl, bind_eq_ok] at said
      obtain ⟨b, after, value, said⟩ := said
      obtain ⟨values, last, remaining, made⟩ := bind_eq_ok.mp said
      cases made
      obtain ⟨gap, t, blank, front, fits⟩ := read.sound value
      obtain ⟨u, ts, rfl, listed, holds⟩ := ih exact remaining
      rw [front]
      exact ⟨_, t :: ts, by simp, .next (between.append blank) listed, fits, holds⟩

theorem recordItems_elements (exact : AllExact fs forms) (wanted : String) (count : Nat) {u : List Char}
    {ts : List (List Char)}
    (listed : Elements false first u ts) (holds : Holds fs forms ts row) (rest : List Char) :
    ∃ mid, recordItems wanted count first fs (u ++ rest) = .ok (row, mid) ∧ closeArray mid = .ok ((), rest) := by
  induction fs generalizing first u ts count with
  | nil =>
    obtain rfl : ts = [] := holds
    cases listed with
    | @close _ tail blank =>
      rw [List.append_assoc]
      exact ⟨tail ++ ']' :: rest, rfl, closeArray_blank blank rest⟩
    | spare allowed => cases allowed
  | cons f fs ih =>
    obtain ⟨form, forms⟩ := forms
    obtain ⟨a, row⟩ := row
    obtain ⟨read, -, -, exact⟩ := exact
    cases ts with
    | nil => cases holds
    | cons t ts =>
      obtain ⟨fits, holds⟩ := holds
      cases listed with
      | @next _ lead _ u _ between listed =>
        obtain ⟨mid, remaining, closed⟩ := ih exact (count + 1) listed holds
        have value := read.front fits (listed.apart rest).ended
        obtain ⟨c, w, rfl, visible, bracket⟩ := (read.formed fits).head
        refine ⟨mid, ?_, closed⟩
        simp only [List.append_assoc, List.cons_append] at value ⊢
        rw [recordItems, bind_ok (hasItem_ahead (.item between visible bracket)), if_pos rfl, bind_ok value,
          bind_ok remaining]
        rfl

theorem exact_record (name : String) (exact : AllExact fs forms) (distinct : (fs.map Field.key).Nodup) :
    Exact (record name fs) (RecordText fs forms) where
  formed := by
    rintro t row (⟨u, ms, rfl, listed, declares, others⟩ | ⟨u, ts, rfl, listed, holds⟩)
    · have loose : Members Unread true u (ms.map fun m => ((), m.2)) :=
        listed.map (fun _ => ()) fun _ _ spelled => spelled.loosen
      refine .object loose fun m member => ?_
      obtain ⟨n, inside, rfl⟩ := List.mem_map.mp member
      by_cases known : n.1 ∈ fs.map Field.key
      · exact declares.value inside known exact
      · exact (others n inside known).loosen
    · exact .array listed.loosen (holds.values exact)
  sound := by
    intro s row rest said
    rw [record, opening_bind_eq_ok] at said
    obtain ⟨gap, c, tail, blank, visible, rfl, said⟩ := said
    split at said
    · rename_i brace
      subst brace
      rw [bind_ok (advance_ok _ _), bind_ok get_ok] at said
      obtain ⟨u, ms, rfl, listed, meets, others⟩ := recordMembers_eq_ok exact distinct said
      exact ⟨gap, '\x7b' :: u, blank, rfl, .inl ⟨u, ms, rfl, listed, meets_empty.mp meets, others⟩⟩
    split at said
    · rename_i bracket
      subst bracket
      rw [bind_ok (advance_ok _ _), bind_eq_ok] at said
      obtain ⟨values, mid, items, said⟩ := said
      obtain ⟨⟨⟩, after, closed, made⟩ := bind_eq_ok.mp said
      cases made
      obtain ⟨u, ts, rfl, listed, holds⟩ := recordItems_eq_ok exact items closed
      exact ⟨gap, '[' :: u, blank, rfl, .inr ⟨u, ts, rfl, listed, holds⟩⟩
    · obtain ⟨_, _, _, said⟩ := bind_eq_ok.mp said
      cases said
  complete := by
    rintro gap t row rest blank (⟨u, ms, rfl, listed, declares, others⟩ | ⟨u, ts, rfl, listed, holds⟩) -
    · have enough : ms.length < (u ++ rest).length + 1 := by
        have := listed.length
        rw [List.length_append]
        omega
      rw [List.cons_append, record, bind_ok (opening_blank blank rfl _), if_pos rfl, bind_ok (advance_ok _ _),
        bind_ok get_ok]
      exact recordMembers_members exact distinct listed (meets_empty.mpr declares) others enough rest
    · obtain ⟨mid, items, closed⟩ :=
        recordItems_elements exact s!"struct {name} with {countText fs.length}" 0 listed holds rest
      rw [List.cons_append, record, bind_ok (opening_blank blank rfl _), if_neg (by decide), if_pos rfl,
        bind_ok (advance_ok _ _), bind_ok items, bind_ok closed]
      rfl

end Reader

end RouteQuote.Json
