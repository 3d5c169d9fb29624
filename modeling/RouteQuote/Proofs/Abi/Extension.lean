import Mathlib.Data.List.Infix
import RouteQuote.Proofs.Abi.RoundTrip
import RouteQuote.Proofs.FirstFault

namespace RouteQuote.Abi

-- What the one reader reads off the front of some data, the other reads off the data.
def Extends (short long : List UInt8 → Except Fault (α × List UInt8)) : Prop :=
  ∀ less data a left, less <+: data → short less = .ok (a, left) → ∃ more, long data = .ok (a, more) ∧ left <+: more

theorem Extends.bind {short long : List UInt8 → Except Fault (α × List UInt8)}
    {next further : α × List UInt8 → Except Fault (β × List UInt8)} (reads : Extends short long)
    (goes : ∀ a, Extends (fun data => next (a, data)) (fun data => further (a, data))) :
    Extends (fun data => short data >>= next) (fun data => long data >>= further) := by
  intro less data b left cut said
  obtain ⟨⟨a, middle⟩, first, second⟩ := Except.bind_eq_ok.mp said
  obtain ⟨more, read, rest⟩ := reads _ _ _ _ cut first
  obtain ⟨last, reached, behind⟩ := goes a _ _ _ _ rest second
  refine ⟨last, ?_, behind⟩
  show long data >>= further = .ok (b, last)
  rw [read]
  exact reached

theorem extends_pure (a : α) : Extends (fun data => pure (a, data)) (fun data => pure (a, data)) := by
  intro less data b left cut said
  cases said
  exact ⟨data, rfl, cut⟩

theorem takeWord_ok {data w rest : List UInt8} (said : takeWord data = .ok (w, rest)) :
    data = w ++ rest ∧ w.length = 32 := by
  unfold takeWord at said
  dsimp only at said
  split at said
  · rename_i full
    cases said
    exact ⟨(List.take_append_drop 32 data).symm, full⟩
  · cases said

theorem takeCount_ok {data rest : List UInt8} {n : Nat} (said : takeCount data = .ok (n, rest)) :
    data = word n ++ rest := by
  obtain ⟨⟨w, after⟩, taken, checked⟩ := Except.bind_eq_ok.mp said
  obtain ⟨rfl, full⟩ := takeWord_ok taken
  dsimp only at checked
  split at checked
  · cases checked
    rw [word_natOfBytes full]
  · cases checked

theorem takeWord_extends : Extends takeWord takeWord := by
  intro less data w left cut said
  obtain ⟨rfl, full⟩ := takeWord_ok said
  obtain ⟨after, rfl⟩ := cut
  refine ⟨left ++ after, ?_, List.prefix_append left after⟩
  rw [List.append_assoc, takeWord_append full]

theorem takeNat_extends : Extends takeNat takeNat :=
  takeWord_extends.bind fun w => extends_pure (Address.natOfBytes w)

theorem takeCount_extends : Extends takeCount takeCount := by
  refine takeWord_extends.bind fun w => ?_
  intro less data n left cut said
  dsimp only at said ⊢
  split at said
  · rename_i small
    rw [if_pos small]
    exact extends_pure _ _ _ _ _ cut said
  · cases said

theorem follow_extends {short start : List UInt8} (cut : short <+: start) :
    ∀ less data found left, less <+: data → follow short less = .ok (found, left) →
      ∃ beyond more, follow start data = .ok (beyond, more) ∧ found <+: beyond ∧ left <+: more := by
  intro less data found left front said
  obtain ⟨⟨offset, rest⟩, counted, pointed⟩ := Except.bind_eq_ok.mp said
  obtain ⟨more, read, behind⟩ := takeCount_extends _ _ _ _ front counted
  dsimp only at pointed
  split at pointed
  · rename_i inside
    cases pointed
    have further : offset ≤ start.length := Nat.le_trans inside cut.length_le
    refine ⟨start.drop offset, more, ?_, cut.drop offset, behind⟩
    rw [follow, read]
    simp only [bind, Except.bind, if_pos further]
    rfl
  · cases pointed

theorem takeBytes_extends {less data bytes : List UInt8} (cut : less <+: data) (said : takeBytes less = .ok bytes) :
    takeBytes data = .ok bytes := by
  obtain ⟨⟨n, rest⟩, counted, taken⟩ := Except.bind_eq_ok.mp said
  obtain ⟨more, read, behind⟩ := takeCount_extends _ _ _ _ cut counted
  dsimp only at taken
  split at taken
  · rename_i inside
    cases taken
    obtain ⟨after, rfl⟩ := behind
    have further : n ≤ (rest ++ after).length := by
      rw [List.length_append]
      omega
    have same : (rest ++ after).take n = rest.take n := List.take_append_of_le_length inside
    rw [takeBytes, read]
    simp only [bind, Except.bind, if_pos further, same]
    rfl
  · cases taken

theorem repeated_extends {short long : List UInt8 → Except Fault (α × List UInt8)} (reads : Extends short long)
    (n : Nat) : Extends (repeated short n) (repeated long n) := by
  induction n with
  | zero => exact extends_pure []
  | succ n ih => exact reads.bind fun a => ih.bind fun as => extends_pure (a :: as)

section

-- From the parts to the whole, each of these is a run of the decoder.
attribute [local simp] decode bind Except.bind pure Except.pure

theorem decode_bytes_iff {start data b more : List UInt8} : decode .bytes start data = .ok (b, more) ↔
    ∃ found, follow start data = .ok (found, more) ∧ takeBytes found = .ok b := by
  constructor
  · intro said
    obtain ⟨⟨found, rest⟩, followed, result⟩ := Except.bind_eq_ok.mp said
    obtain ⟨taken, read, same⟩ := Except.bind_eq_ok.mp result
    cases same
    exact ⟨found, followed, read⟩
  · rintro ⟨found, followed, read⟩
    simp [followed, read]

theorem decode_string_iff {start data more : List UInt8} {s : String} : decode .string start data = .ok (s, more) ↔
    ∃ b, decode .bytes start data = .ok (b, more) ∧ s = Text.utf8Lossy b := by
  constructor
  · intro said
    obtain ⟨⟨found, rest⟩, followed, result⟩ := Except.bind_eq_ok.mp said
    obtain ⟨b, read, same⟩ := Except.bind_eq_ok.mp result
    cases same
    exact ⟨b, decode_bytes_iff.mpr ⟨found, followed, read⟩, rfl⟩
  · rintro ⟨b, decoded, rfl⟩
    obtain ⟨found, followed, read⟩ := decode_bytes_iff.mp decoded
    simp [followed, read]

theorem decode_array_iff {item : Shape .one} {start data more : List UInt8} {xs : List item.Value} :
    decode (.array item) start data = .ok (xs, more) ↔ ∃ found n items rest,
      follow start data = .ok (found, more) ∧ takeCount found = .ok (n, items) ∧ n * item.words ≤ items.length / 32 ∧
      repeated (decode item items) n items = .ok (xs, rest) := by
  constructor
  · intro said
    obtain ⟨⟨found, after⟩, followed, result⟩ := Except.bind_eq_ok.mp said
    obtain ⟨⟨n, items⟩, counted, checked⟩ := Except.bind_eq_ok.mp result
    dsimp only at checked
    split at checked
    · cases checked
    · rename_i room
      obtain ⟨⟨read, rest⟩, all, same⟩ := Except.bind_eq_ok.mp checked
      cases same
      exact ⟨found, n, items, rest, followed, counted, Nat.not_lt.mp room, all⟩
  · rintro ⟨found, n, items, rest, followed, counted, room, all⟩
    simp [followed, counted, all, Nat.not_lt.mpr room]

theorem decode_tuple_iff {members : Shape .row} {start data more : List UInt8} {v : members.Value}
    (dynamic : members.isDynamic = true) : decode (.tuple members) start data = .ok (v, more) ↔
    ∃ found rest, follow start data = .ok (found, more) ∧ decode members found found = .ok (v, rest) := by
  rw [decode, if_pos dynamic]
  constructor
  · intro said
    obtain ⟨⟨found, after⟩, followed, result⟩ := Except.bind_eq_ok.mp said
    obtain ⟨⟨read, rest⟩, inner, same⟩ := Except.bind_eq_ok.mp result
    cases same
    exact ⟨found, rest, followed, inner⟩
  · rintro ⟨found, rest, followed, inner⟩
    simp [followed, inner]

theorem decode_static {members : Shape .row} (static : members.isDynamic = false) :
    decode (.tuple members) = decode members := by
  funext start data
  rw [decode, if_neg (by simp [static])]

theorem decode_cons_iff {first : Shape .one} {rest : Shape .row} {start data more : List UInt8}
    {v : first.Value × rest.Value} : decode (.cons first rest) start data = .ok (v, more) ↔
    ∃ middle, decode first start data = .ok (v.1, middle) ∧ decode rest start middle = .ok (v.2, more) := by
  constructor
  · intro said
    obtain ⟨⟨a, middle⟩, front, result⟩ := Except.bind_eq_ok.mp said
    obtain ⟨⟨b, left⟩, back, same⟩ := Except.bind_eq_ok.mp result
    cases same
    exact ⟨middle, front, back⟩
  · rintro ⟨middle, front, back⟩
    simp [front, back]

end

theorem bytes_extends {short start : List UInt8} (cut : short <+: start) :
    Extends (decode .bytes short) (decode .bytes start) := by
  intro less data b left front said
  obtain ⟨found, followed, read⟩ := decode_bytes_iff.mp said
  obtain ⟨beyond, more, reached, prefixed, behind⟩ := follow_extends cut _ _ _ _ front followed
  exact ⟨more, decode_bytes_iff.mpr ⟨beyond, reached, takeBytes_extends prefixed read⟩, behind⟩

theorem decode_extends (t : Shape k) {short start : List UInt8} (cut : short <+: start) :
    Extends (decode t short) (decode t start) := by
  induction t generalizing short start with
  | address => exact takeNat_extends.bind fun n => extends_pure (Address.ofNat n)
  | uint => exact takeNat_extends.bind fun n => extends_pure (Amount.ofNat n)
  | bool => exact takeNat_extends.bind fun n => extends_pure (n != 0)
  | bytes => exact bytes_extends cut
  | string =>
    intro less data s left front said
    obtain ⟨b, read, same⟩ := decode_string_iff.mp said
    obtain ⟨more, reached, behind⟩ := bytes_extends cut _ _ _ _ front read
    exact ⟨more, decode_string_iff.mpr ⟨b, reached, same⟩, behind⟩
  | array item ih =>
    intro less data xs left front said
    obtain ⟨found, n, items, rest, followed, counted, room, all⟩ := decode_array_iff.mp said
    obtain ⟨beyond, more, reached, prefixed, behind⟩ := follow_extends cut _ _ _ _ front followed
    obtain ⟨further, count, inner⟩ := takeCount_extends _ _ _ _ prefixed counted
    obtain ⟨last, whole, _⟩ := repeated_extends (ih inner) n _ _ _ _ inner all
    have longer := inner.length_le
    exact ⟨more, decode_array_iff.mpr ⟨beyond, n, further, last, reached, count, by omega, whole⟩, behind⟩
  | tuple members ih =>
    cases dynamic : members.isDynamic with
    | true =>
      intro less data v left front said
      obtain ⟨found, rest, followed, inner⟩ := (decode_tuple_iff dynamic).mp said
      obtain ⟨beyond, more, reached, prefixed, behind⟩ := follow_extends cut _ _ _ _ front followed
      obtain ⟨last, whole, _⟩ := ih prefixed _ _ _ _ prefixed inner
      exact ⟨more, (decode_tuple_iff dynamic).mpr ⟨beyond, last, reached, whole⟩, behind⟩
    | false =>
      rw [decode_static dynamic]
      exact ih cut
  | nil => exact extends_pure ()
  | cons first rest ihFirst ihRest =>
    exact (ihFirst cut).bind fun v => (ihRest cut).bind fun vs => extends_pure (v, vs)

end RouteQuote.Abi
