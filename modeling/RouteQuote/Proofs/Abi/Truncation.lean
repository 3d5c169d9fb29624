import RouteQuote.Proofs.Abi.Extension

namespace RouteQuote.Abi

theorem takeNat_length {data rest : List UInt8} {n : Nat} (said : takeNat data = .ok (n, rest)) :
    data.length = 32 + rest.length := by
  obtain ⟨⟨w, after⟩, taken, same⟩ := Except.bind_eq_ok.mp said
  cases same
  obtain ⟨rfl, full⟩ := takeWord_ok taken
  rw [List.length_append, full]

theorem takeCount_length {data rest : List UInt8} {n : Nat} (said : takeCount data = .ok (n, rest)) :
    data.length = 32 + rest.length := by
  rw [takeCount_ok said, List.length_append, length_word]

theorem follow_length {start data found rest : List UInt8} (said : follow start data = .ok (found, rest)) :
    data.length = 32 + rest.length := by
  obtain ⟨⟨offset, after⟩, counted, pointed⟩ := Except.bind_eq_ok.mp said
  dsimp only at pointed
  split at pointed
  · cases pointed
    exact takeCount_length counted
  · cases pointed

-- Every value is read off the words that its type takes of its surroundings.
theorem decode_length (t : Shape k) {start data more : List UInt8} {v : t.Value}
    (said : decode t start data = .ok (v, more)) : data.length = 32 * t.words + more.length := by
  induction t generalizing data more with
  | address | uint | bool =>
    obtain ⟨⟨n, rest⟩, taken, same⟩ := Except.bind_eq_ok.mp said
    cases same
    exact takeNat_length taken
  | bytes =>
    obtain ⟨found, followed, _⟩ := decode_bytes_iff.mp said
    exact follow_length followed
  | string =>
    obtain ⟨b, read, _⟩ := decode_string_iff.mp said
    obtain ⟨found, followed, _⟩ := decode_bytes_iff.mp read
    exact follow_length followed
  | array item =>
    obtain ⟨found, n, items, rest, followed, _⟩ := decode_array_iff.mp said
    exact follow_length followed
  | tuple members ih =>
    cases dynamic : members.isDynamic with
    | true =>
      obtain ⟨found, rest, followed, _⟩ := (decode_tuple_iff dynamic).mp said
      rw [Shape.words, if_pos dynamic]
      exact follow_length followed
    | false =>
      rw [decode_static dynamic] at said
      rw [Shape.words, if_neg (by simp [dynamic])]
      exact ih said
  | nil =>
    cases said
    simp [Shape.words]
  | cons first rest ihFirst ihRest =>
    obtain ⟨middle, front, back⟩ := decode_cons_iff.mp said
    rw [ihFirst front, ihRest back, Shape.words]
    omega

-- The byte string whose padding the encoding of a value ends with; none when it ends otherwise.
def lastBytes? : (t : Shape k) → t.Value → Option (List UInt8)
  | .address, _ | .uint _, _ | .bool, _ | .nil, _ => none
  | .bytes, b => some b
  | .string, s => some (Text.utf8Bytes s)
  | .array item, xs => xs.getLast?.bind (lastBytes? item)
  | .tuple members, v => lastBytes? members v
  | .cons first rest, v => if rest.isDynamic then lastBytes? rest v.2 else lastBytes? first v.1

def padding (b : List UInt8) : List UInt8 := List.replicate (paddedLength b.length - b.length) 0

-- How many bytes at the end of the encoding no reader looks at.
def slack (t : Shape k) (v : t.Value) : Nat := ((lastBytes? t v).map fun b => (padding b).length).getD 0

theorem length_padding (b : List UInt8) : b.length + (padding b).length = paddedLength b.length := by
  have := le_paddedLength b.length
  rw [padding, List.length_replicate]
  omega

-- What a reading of the front of the data shows about its length: the tails are there but for the slack.
def Reaches (t : Shape k) (v : t.Value) : Prop :=
  ∀ start short offset less more left w, Located start offset (parts t v) → short <+: start →
    less <+: heads offset (parts t v) ++ more → decode t short less = .ok (w, left) →
    offset + (tails (parts t v)).length ≤ short.length + slack t v

theorem follow_cut {start short less bytes more found left : List UInt8} {offset : Nat}
    (located : Located start offset [⟨true, bytes⟩]) (cut : short <+: start) (front : less <+: word offset ++ more)
    (followed : follow short less = .ok (found, left)) :
    (∃ after, found <+: bytes ++ after) ∧ short.length = offset + found.length := by
  obtain ⟨after, whole⟩ := follow_located located more
  obtain ⟨beyond, rest, reached, prefixed, _⟩ := follow_extends cut _ _ _ _ front followed
  rw [whole] at reached
  cases reached
  obtain ⟨⟨n, behind⟩, counted, pointed⟩ := Except.bind_eq_ok.mp followed
  obtain ⟨further, count, _⟩ := takeCount_extends _ _ _ _ front counted
  rw [takeCount_word located.reached.1] at count
  cases count
  dsimp only at pointed
  split at pointed
  · rename_i inside
    cases pointed
    refine ⟨⟨after, prefixed⟩, ?_⟩
    rw [List.length_drop]
    omega
  · cases pointed

theorem takeBytes_length {data taken b after : List UInt8} (fits : b.length < UInt64.size)
    (front : data <+: word b.length ++ padded b ++ after) (said : takeBytes data = .ok taken) :
    32 + b.length ≤ data.length := by
  obtain ⟨⟨n, rest⟩, counted, checked⟩ := Except.bind_eq_ok.mp said
  have length := takeCount_length counted
  rw [List.append_assoc] at front
  obtain ⟨further, count, _⟩ := takeCount_extends _ _ _ _ front counted
  rw [takeCount_word fits] at count
  cases count
  dsimp only at checked
  split at checked
  · omega
  · cases checked

theorem reaches_bytes {b : List UInt8} (fits : b.length < UInt64.size) : Reaches .bytes b := by
  intro start short offset less more left w located cut front said
  obtain ⟨found, followed, read⟩ := decode_bytes_iff.mp said
  have head : heads offset (parts .bytes b) = word offset := by simp [parts, heads]
  rw [head] at front
  obtain ⟨⟨after, prefixed⟩, length⟩ := follow_cut located cut front followed
  have taken := takeBytes_length fits prefixed read
  have pad := length_padding b
  have whole : (tails (parts .bytes b)).length = 32 + paddedLength b.length := by
    simp [parts, tails, length_word, length_padded]
  have ends : slack .bytes b = (padding b).length := rfl
  rw [whole, ends]
  omega

-- What is read of the front of an encoding is the encoded value, and leaves the front of what is left of all.
theorem read_cut {t : Shape k} {v w : t.Value} (fits : Fits t v) {start short : List UInt8} {offset : Nat}
    (located : Located start offset (parts t v)) (cut : short <+: start) {less more left : List UInt8}
    (front : less <+: heads offset (parts t v) ++ more) (said : decode t short less = .ok (w, left)) :
    w = v ∧ left <+: more := by
  obtain ⟨rest, whole, behind⟩ := decode_extends t cut _ _ _ _ front said
  rw [readable t v fits start offset more located] at whole
  cases whole
  exact ⟨rfl, behind⟩

-- By induction on the items: the last of them has its tail behind all others.
theorem reaches_items {item : Shape .one} {xs : List item.Value} (fits : ∀ x ∈ xs, Fits item x)
    (reaches : ∀ x ∈ xs, Reaches item x) (inhabited : xs ≠ []) {start short : List UInt8} {offset : Nat}
    (located : Located start offset (xs.flatMap fun x => parts item x)) (cut : short <+: start)
    {less more left : List UInt8} {ws : List item.Value}
    (front : less <+: heads offset (xs.flatMap fun x => parts item x) ++ more)
    (said : repeated (decode item short) xs.length less = .ok (ws, left)) :
    offset + (tails (xs.flatMap fun x => parts item x)).length ≤ short.length + slack (.array item) xs := by
  induction xs generalizing offset less left ws with
  | nil => exact absurd rfl inhabited
  | cons x xs ih =>
    obtain ⟨fitsFirst, fitsRest⟩ := List.forall_mem_cons.mp fits
    obtain ⟨reachesFirst, reachesRest⟩ := List.forall_mem_cons.mp reaches
    rw [List.flatMap_cons] at located front ⊢
    obtain ⟨here, there⟩ := located.append
    rw [heads_append, List.append_assoc] at front
    obtain ⟨⟨w, middle⟩, first, further⟩ := Except.bind_eq_ok.mp said
    obtain ⟨⟨rest, last⟩, others, _⟩ := Except.bind_eq_ok.mp further
    obtain ⟨_, behind⟩ := read_cut fitsFirst here cut front first
    rw [tails_append, List.length_append]
    cases xs with
    | nil =>
      have only := reachesFirst _ _ _ _ _ _ _ here cut front first
      have ends : slack (.array item) [x] = slack item x := by simp [slack, lastBytes?]
      rw [ends]
      exact only
    | cons y ys =>
      have bound := ih fitsRest reachesRest (List.cons_ne_nil y ys) there behind others
      have ends : slack (.array item) (x :: y :: ys) = slack (.array item) (y :: ys) := by
        simp only [slack, lastBytes?, List.getLast?_cons_cons]
      rw [ends]
      omega

theorem reaches_array {item : Shape .one} {xs : List item.Value} (fits : Fits (.array item) xs)
    (reaches : item.isDynamic = true → ∀ x ∈ xs, Reaches item x) : Reaches (.array item) xs := by
  intro start short offset less more left w located cut front said
  obtain ⟨count, reached, each⟩ := fits
  obtain ⟨found, n, items, rest, followed, counted, room, all⟩ := decode_array_iff.mp said
  have head : heads offset (parts (.array item) xs) = word offset := by simp [parts, heads]
  rw [head] at front
  obtain ⟨⟨after, prefixed⟩, length⟩ := follow_cut located cut front followed
  have counts := takeCount_length counted
  rw [List.append_assoc] at prefixed
  obtain ⟨further, same, inner⟩ := takeCount_extends _ _ _ _ prefixed counted
  rw [takeCount_word count] at same
  cases same
  have whole : (tails (parts (.array item) xs)).length =
      32 + (assemble (xs.flatMap fun x => parts item x)).length := by
    simp [parts, tails, length_word]
  rw [whole, length]
  have enough : (assemble (xs.flatMap fun x => parts item x)).length ≤ items.length + slack (.array item) xs := by
    cases dynamic : item.isDynamic with
    | true =>
      by_cases inhabited : xs = []
      · subst inhabited
        exact Nat.zero_le _
      · have split : items <+: heads (headsLength (xs.flatMap fun x => parts item x)) (xs.flatMap fun x => parts item x) ++
            (tails (xs.flatMap fun x => parts item x) ++ after) := by
          rw [← List.append_assoc]
          exact inner
        rw [length_assemble]
        exact reaches_items each (reaches dynamic) inhabited (located_assemble reached after) inner split all
    | false =>
      have static : Static (xs.flatMap fun x => parts item x) := by
        intro p member
        obtain ⟨x, _, part⟩ := List.mem_flatMap.mp member
        exact parts_static item x dynamic p part
      rw [length_assemble, static.tails, headsLength_items]
      simp only [List.length_nil]
      omega
  omega

theorem reaches_tuple {members : Shape .row} {v : members.Value} (fits : Fits (.tuple members) v)
    (dynamic : members.isDynamic = true) (reaches : Reaches members v) : Reaches (.tuple members) v := by
  intro start short offset less more left w located cut front said
  obtain ⟨reached, inner⟩ := fits
  obtain ⟨found, rest, followed, read⟩ := (decode_tuple_iff dynamic).mp said
  rw [parts, dynamic] at located
  have head : heads offset (parts (.tuple members) v) = word offset := by simp [parts, heads, dynamic]
  rw [head] at front
  obtain ⟨⟨after, prefixed⟩, length⟩ := follow_cut located cut front followed
  have whole : (tails (parts (.tuple members) v)).length = (assemble (parts members v)).length := by
    simp [parts, tails, dynamic]
  have split : found <+: heads (headsLength (parts members v)) (parts members v) ++ (tails (parts members v) ++ after) := by
    rw [← List.append_assoc]
    exact prefixed
  have bound := reaches _ _ _ _ _ _ _ (located_assemble reached after) prefixed split read
  have ends : slack (.tuple members) v = slack members v := rfl
  rw [whole, length, length_assemble, ends]
  omega

theorem reaches (t : Shape k) (v : t.Value) (fits : Fits t v) (dynamic : t.isDynamic = true) : Reaches t v := by
  induction t with
  | address | uint | bool | nil => cases dynamic
  | bytes => exact reaches_bytes fits
  | string =>
    intro start short offset less more left w located cut front said
    obtain ⟨b, read, _⟩ := decode_string_iff.mp said
    exact reaches_bytes (b := Text.utf8Bytes v) fits _ _ _ _ _ _ _ located cut front read
  | array item ih => exact reaches_array fits fun inner x member => ih x (fits.2.2 x member) inner
  | tuple members ih => exact reaches_tuple fits dynamic (ih v fits.2 dynamic)
  | cons first rest ihFirst ihRest =>
    intro start short offset less more left w located cut front said
    obtain ⟨middle, head, tail⟩ := decode_cons_iff.mp said
    have both : Located start offset (parts first v.1 ++ parts rest v.2) := located
    obtain ⟨here, there⟩ := both.append
    rw [parts, heads_append, List.append_assoc] at front
    rw [parts, tails_append, List.length_append]
    cases behind : rest.isDynamic with
    | true =>
      obtain ⟨_, left⟩ := read_cut fits.1 here cut front head
      have bound := ihRest v.2 fits.2 behind _ _ _ _ _ _ _ there cut left tail
      have ends : slack (.cons first rest) v = slack rest v.2 := by simp [slack, lastBytes?, behind]
      rw [ends]
      omega
    | false =>
      have before : first.isDynamic = true := by simpa [Shape.isDynamic, behind] using dynamic
      have bound := ihFirst v.1 fits.1 before _ _ _ _ _ _ _ here cut front head
      have ends : slack (.cons first rest) v = slack first v.1 := by simp [slack, lastBytes?, behind]
      rw [ends, (parts_static rest v.2 behind).tails, List.length_nil, Nat.add_zero]
      exact bound

theorem padded_last (t : Shape k) (v : t.Value) {b : List UInt8} (last : lastBytes? t v = some b) :
    padded b <:+ tails (parts t v) := by
  induction t with
  | address | uint | bool | nil => cases last
  | bytes =>
    cases last
    simp [parts, tails]
  | string =>
    cases last
    simp [parts, tails]
  | array item ih =>
    obtain ⟨x, final, inner⟩ := Option.bind_eq_some_iff.mp last
    obtain ⟨init, rfl⟩ := List.getLast?_eq_some_iff.mp final
    have whole : tails (parts (.array item) (init ++ [x])) = word (init ++ [x]).length ++
        (heads (headsLength ((init ++ [x]).flatMap fun x => parts item x)) ((init ++ [x]).flatMap fun x => parts item x) ++
          (tails (init.flatMap fun x => parts item x) ++ tails (parts item x))) := by
      simp [parts, tails, assemble, tails_append]
    rw [whole]
    exact (ih x inner).trans ((List.suffix_append _ _).trans ((List.suffix_append _ _).trans (List.suffix_append _ _)))
  | tuple members ih =>
    have inner := ih v last
    cases dynamic : members.isDynamic with
    | true =>
      have whole : tails (parts (.tuple members) v) =
          heads (headsLength (parts members v)) (parts members v) ++ tails (parts members v) := by
        simp [parts, tails, dynamic, assemble]
      rw [whole]
      exact inner.trans (List.suffix_append _ _)
    | false =>
      rw [(parts_static members v dynamic).tails] at inner
      rw [List.suffix_nil.mp inner]
      exact List.nil_suffix
  | cons first rest ihFirst ihRest =>
    rw [parts, tails_append]
    rw [lastBytes?] at last
    split at last
    · exact (ihRest v.2 last).trans (List.suffix_append _ _)
    · rename_i behind
      rw [(parts_static rest v.2 (by simpa using behind)).tails, List.append_nil]
      exact ihFirst v.1 last

theorem cut_length {t : Shape .row} {v w : t.Value} (solid : t.solid) (held : (encodeRow t v).length < UInt64.size)
    {p left : List UInt8} (cut : p <+: encodeRow t v) (said : decode t p p = .ok (w, left)) :
    w = v ∧ (encodeRow t v).length ≤ p.length + slack t v := by
  have fits := fits_of_length t v solid held
  have located := located_assemble (reached_assemble held) []
  rw [List.append_nil] at located
  have front : p <+: heads (headsLength (parts t v)) (parts t v) ++ tails (parts t v) := cut
  refine ⟨(read_cut fits located cut front said).1, ?_⟩
  rw [encodeRow, length_assemble]
  cases dynamic : t.isDynamic with
  | true => exact reaches t v fits dynamic _ _ _ _ _ _ _ located cut front said
  | false =>
    have words := decode_length t said
    rw [(parts_static t v dynamic).tails, headsLength_parts, List.length_nil]
    omega

-- Of an encoding that is still read, nothing is missing but padding of the byte string that it ends with.
theorem decodeRow_cut {t : Shape .row} {v w : t.Value} (solid : t.solid) (held : (encodeRow t v).length < UInt64.size)
    {p missing : List UInt8} (whole : encodeRow t v = p ++ missing) (lost : missing ≠ [])
    (said : decodeRow t p = .ok w) : w = v ∧ ∃ b front kept,
      lastBytes? t v = some b ∧ p = front ++ b ++ kept ∧ kept ++ missing = padding b := by
  obtain ⟨⟨read, left⟩, decoded, same⟩ := Except.bind_eq_ok.mp said
  cases same
  have cut : p <+: encodeRow t v := whole ▸ List.prefix_append p missing
  obtain ⟨value, length⟩ := cut_length solid held cut decoded
  refine ⟨value, ?_⟩
  have lengths : (encodeRow t v).length = p.length + missing.length := by rw [whole, List.length_append]
  have count := List.length_pos_iff.mpr lost
  cases last : lastBytes? t v with
  | none =>
    simp only [slack, last, Option.map_none, Option.getD_none] at length
    omega
  | some b =>
    simp only [slack, last, Option.map_some, Option.getD_some] at length
    obtain ⟨front, split⟩ := (padded_last t v last).trans
      (List.suffix_append (heads (headsLength (parts t v)) (parts t v)) (tails (parts t v)))
    have ends : front ++ b ++ padding b = encodeRow t v := by
      rw [List.append_assoc]
      exact split
    have measured := congrArg List.length ends
    rw [List.length_append] at measured
    obtain ⟨kept, rfl⟩ := List.prefix_of_prefix_length_le (ends ▸ List.prefix_append (front ++ b) (padding b)) cut (by omega)
    refine ⟨b, front, kept, rfl, rfl, ?_⟩
    rw [whole, List.append_assoc (front ++ b)] at ends
    exact (List.append_cancel_left ends).symm

end RouteQuote.Abi
