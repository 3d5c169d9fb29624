import RouteQuote.Proofs.Abi.Extension

namespace RouteQuote.Abi

theorem follow_suffix {start data found rest : List UInt8} (said : follow start data = .ok (found, rest)) :
    found <:+ start := by
  obtain ⟨⟨offset, after⟩, counted, pointed⟩ := Except.bind_eq_ok.mp said
  dsimp only at pointed
  split at pointed
  · cases pointed
    exact List.drop_suffix offset start
  · cases pointed

theorem takeBytes_ok {data b : List UInt8} (said : takeBytes data = .ok b) : word b.length ++ b <+: data := by
  obtain ⟨⟨n, rest⟩, counted, checked⟩ := Except.bind_eq_ok.mp said
  dsimp only at checked
  split at checked
  · rename_i inside
    cases checked
    rw [List.length_take_of_le inside, takeCount_ok counted]
    exact (List.prefix_append_right_inj (word n)).mpr (List.take_prefix n rest)
  · cases checked

-- As many items as were asked for, each of them read somewhere.
theorem repeated_ok {read : List UInt8 → Except Fault (α × List UInt8)} {n : Nat} {data rest : List UInt8} {as : List α}
    (said : repeated read n data = .ok (as, rest)) :
    as.length = n ∧ ∀ a ∈ as, ∃ before after, read before = .ok (a, after) := by
  induction n generalizing data as with
  | zero =>
    cases said
    exact ⟨rfl, fun a member => nomatch member⟩
  | succ n ih =>
    obtain ⟨⟨a, middle⟩, first, further⟩ := Except.bind_eq_ok.mp said
    obtain ⟨⟨others, last⟩, rest, same⟩ := Except.bind_eq_ok.mp further
    cases same
    obtain ⟨count, each⟩ := ih rest
    exact ⟨congrArg (· + 1) count, List.forall_mem_cons.mpr ⟨⟨data, middle, first⟩, each⟩⟩

-- Of every byte string and every list in the value, at any depth: its length is a word of the data, and behind that
-- word stand the bytes themselves, or as many words as so many items take. Two of them may stand in the same place.
def Backed (data : List UInt8) : (t : Shape k) → t.Value → Prop
  | .address, _ | .uint _, _ | .bool, _ | .nil, _ => True
  | .bytes, b => word b.length ++ b <:+: data
  | .string, s => ∃ source, word source.length ++ source <:+: data ∧ s = Text.utf8Lossy source
  | .array item, xs =>
    (∃ body, word xs.length ++ body <:+: data ∧ body.length = 32 * (xs.length * item.words)) ∧
      ∀ x ∈ xs, Backed data item x
  | .tuple members, v => Backed data members v
  | .cons first rest, v => Backed data first v.1 ∧ Backed data rest v.2

theorem length_of_infix {n : Nat} {body data : List UInt8} (stands : word n ++ body <:+: data) :
    32 + body.length ≤ data.length := by
  have room := stands.length_le
  rwa [List.length_append, length_word] at room

theorem Backed.length_array {item : Shape .one} {xs : List item.Value} {data : List UInt8}
    (backed : Backed data (.array item) xs) : 32 * (xs.length * item.words + 1) ≤ data.length := by
  obtain ⟨⟨body, stands, length⟩, _⟩ := backed
  have room := length_of_infix stands
  omega

section

variable {data start rest more : List UInt8}

theorem follow_inside {found : List UInt8} (inside : start <:+ data) (followed : follow start rest = .ok (found, more)) :
    found <:+ data := (follow_suffix followed).trans inside

theorem backed_bytes {b : List UInt8} (inside : start <:+ data) (said : decode .bytes start rest = .ok (b, more)) :
    Backed data .bytes b := by
  obtain ⟨found, followed, taken⟩ := decode_bytes_iff.mp said
  exact (takeBytes_ok taken).isInfix.trans (follow_inside inside followed).isInfix

-- The items' surroundings begin behind the count, so what is proved of all surroundings at the end of the data is
-- proved of theirs.
theorem backed_array {item : Shape .one} {xs : List item.Value} (inside : start <:+ data)
    (said : decode (.array item) start rest = .ok (xs, more))
    (each : ∀ items, items <:+ data → ∀ x before after, decode item items before = .ok (x, after) → Backed data item x) :
    Backed data (.array item) xs := by
  obtain ⟨found, n, items, left, followed, counted, room, all⟩ := decode_array_iff.mp said
  obtain ⟨rfl, read⟩ := repeated_ok all
  have place := follow_inside inside followed
  rw [takeCount_ok counted] at place
  constructor
  · have enough : 32 * (xs.length * item.words) ≤ items.length := by omega
    have front := (List.prefix_append_right_inj (word xs.length)).mpr
      (List.take_prefix (32 * (xs.length * item.words)) items)
    exact ⟨_, front.isInfix.trans place.isInfix, List.length_take_of_le enough⟩
  · intro x member
    obtain ⟨before, after, one⟩ := read x member
    exact each items ((List.suffix_append (word xs.length) items).trans place) x before after one

-- By induction on the type: surroundings reach to the end of the data, and an offset leads to others that do. The
-- rest, which heads are read from, does not matter.
theorem decode_backed (t : Shape k) {v : t.Value} (inside : start <:+ data) (said : decode t start rest = .ok (v, more)) :
    Backed data t v := by
  induction t generalizing start rest more with
  | address | uint | bool | nil => trivial
  | bytes => exact backed_bytes inside said
  | string =>
    obtain ⟨source, read, same⟩ := decode_string_iff.mp said
    exact ⟨source, backed_bytes inside read, same⟩
  | array item ih => exact backed_array inside said fun items place x before after one => ih place one
  | tuple members ih =>
    cases dynamic : members.isDynamic with
    | true =>
      obtain ⟨found, left, followed, inner⟩ := (decode_tuple_iff dynamic).mp said
      exact ih (follow_inside inside followed) inner
    | false =>
      rw [decode_static dynamic] at said
      exact ih inside said
  | cons first others ihFirst ihOthers =>
    obtain ⟨middle, front, back⟩ := decode_cons_iff.mp said
    exact ⟨ihFirst inside front, ihOthers inside back⟩

end

theorem decodeRow_backed {t : Shape .row} {data : List UInt8} {v : t.Value} (said : decodeRow t data = .ok v) :
    Backed data t v := by
  obtain ⟨⟨read, left⟩, decoded, same⟩ := Except.bind_eq_ok.mp said
  cases same
  exact decode_backed t (List.suffix_refl data) decoded

end RouteQuote.Abi
