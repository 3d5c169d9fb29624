import RouteQuote.Abi.Router
import RouteQuote.Proofs.Abi.Parts
import RouteQuote.Proofs.Text.Bytes

namespace RouteQuote.Abi

theorem ofNat_address (a : Address) : Address.ofNat a.value.val = a :=
  congrArg Address.mk (Fin.ext (Nat.mod_eq_of_lt a.value.isLt))

theorem ofNat_amount (a : Amount) : Amount.ofNat a.val = a := Fin.ext (Nat.mod_eq_of_lt a.isLt)

-- Reading a member needs the rest of the row: its head comes next, and its tail, which the members after it
-- share the end of the data with, is where its offset points to.
structure Located (start : List UInt8) (offset : Nat) (ps : List Part) : Prop where
  reached : Reached offset ps
  inside : offset ≤ start.length
  behind : ∃ after, start.drop offset = tails ps ++ after

theorem Located.append {start : List UInt8} {offset : Nat} {ps qs : List Part}
    (located : Located start offset (ps ++ qs)) :
    Located start offset ps ∧ Located start (offset + (tails ps).length) qs := by
  obtain ⟨front, back⟩ := reached_append located.reached
  obtain ⟨after, behind⟩ := located.behind
  rw [tails_append, List.append_assoc] at behind
  have further : start.drop (offset + (tails ps).length) = tails qs ++ after := by
    rw [← List.drop_drop, behind]
    exact List.drop_left' rfl
  have long : (start.drop offset).length = (tails ps).length + (tails qs ++ after).length := by
    rw [behind, List.length_append]
  have inside := located.inside
  rw [List.length_drop] at long
  exact ⟨⟨front, inside, _, behind⟩, ⟨back, by omega, _, further⟩⟩

theorem located_assemble {ps : List Part} (reached : Reached (headsLength ps) ps) (after : List UInt8) :
    Located (assemble ps ++ after) (headsLength ps) ps := by
  have skipped : (assemble ps ++ after).drop (headsLength ps) = tails ps ++ after := by
    rw [assemble, List.append_assoc]
    exact List.drop_left' (length_heads _ _)
  refine ⟨reached, ?_, after, skipped⟩
  rw [List.length_append, length_assemble]
  omega

theorem located_static {ps : List Part} (static : Static ps) {start : List UInt8} {offset : Nat}
    (reached : Reached offset ps) (inside : offset ≤ start.length) : Located start offset ps :=
  ⟨reached, inside, start.drop offset, by rw [static.tails, List.nil_append]⟩

theorem follow_located {start bytes : List UInt8} {offset : Nat} (located : Located start offset [⟨true, bytes⟩])
    (more : List UInt8) : ∃ after, follow start (word offset ++ more) = .ok (bytes ++ after, more) := by
  obtain ⟨after, behind⟩ := located.behind
  have pointed : start.drop offset = bytes ++ after := by simpa [tails] using behind
  exact ⟨after, by rw [follow_word located.reached.1 located.inside, pointed]⟩

-- What is proved of every type: its value is read off the front of the heads, which leaves the other heads.
def Readable (t : Shape k) (v : t.Value) : Prop :=
  ∀ start offset more, Located start offset (parts t v) →
    decode t start (heads offset (parts t v) ++ more) = .ok (v, more)

theorem repeated_items {item : Shape .one} {xs : List item.Value} (readable : ∀ x ∈ xs, Readable item x)
    {start : List UInt8} {offset : Nat} (located : Located start offset (xs.flatMap fun x => parts item x))
    (more : List UInt8) :
    repeated (fun s => decode item start s) xs.length (heads offset (xs.flatMap fun x => parts item x) ++ more) =
      .ok (xs, more) := by
  induction xs generalizing offset with
  | nil => rfl
  | cons x xs ih =>
    obtain ⟨first, rest⟩ := List.forall_mem_cons.mp readable
    rw [List.flatMap_cons] at located ⊢
    obtain ⟨here, there⟩ := located.append
    rw [heads_append, List.append_assoc, List.length_cons, repeated]
    simp only [bind, Except.bind, first start offset _ here, ih rest there]
    rfl

theorem readable_array {item : Shape .one} {xs : List item.Value} (fits : Fits (.array item) xs)
    (readable : ∀ x ∈ xs, Readable item x) : Readable (.array item) xs := by
  intro start offset more located
  obtain ⟨count, reached, _⟩ := fits
  obtain ⟨after, found⟩ := follow_located located more
  have room : ¬ (assemble (xs.flatMap fun x => parts item x) ++ after).length / 32 < xs.length * item.words := by
    rw [List.length_append, length_assemble, headsLength_items]
    omega
  have inner := located_assemble reached after
  have items := repeated_items readable inner (tails (xs.flatMap fun x => parts item x) ++ after)
  rw [← List.append_assoc, ← assemble] at items
  have head : heads offset (parts (.array item) xs) = word offset := by simp [parts, heads]
  rw [head, decode, found]
  simp only [bind, Except.bind, List.append_assoc, takeCount_word count, if_neg room, items]
  rfl

theorem readable_tuple {members : Shape .row} {v : members.Value} (fits : Fits (.tuple members) v)
    (readable : Readable members v) : Readable (.tuple members) v := by
  intro start offset more located
  obtain ⟨reached, _⟩ := fits
  rw [decode]
  cases dynamic : members.isDynamic with
  | true =>
    rw [parts, dynamic] at located
    obtain ⟨after, found⟩ := follow_located located more
    have inner := readable _ _ (tails (parts members v) ++ after) (located_assemble reached after)
    rw [← List.append_assoc, ← assemble] at inner
    have head : heads offset (parts (.tuple members) v) = word offset := by simp [parts, heads, dynamic]
    rw [head, if_pos rfl]
    simp only [bind, Except.bind, found, inner]
    rfl
  | false =>
    have static := parts_static members v dynamic
    have head : heads offset (parts (.tuple members) v) = heads offset (parts members v) := by
      rw [static.heads offset (headsLength (parts members v))]
      simp [parts, heads, dynamic, assemble, static.tails]
    rw [head, if_neg Bool.false_ne_true]
    exact readable _ _ _ (located_static static (static.reached offset) located.inside)

theorem readable (t : Shape k) (v : t.Value) (fits : Fits t v) : Readable t v := by
  induction t with
  | address =>
    intro start offset more _
    have below : v.value.val < Amount.size := Nat.lt_trans v.value.isLt (by decide)
    have head : heads offset (parts .address v) = word v.value.val := by simp [parts, heads]
    rw [head, decode, takeNat_word below]
    exact congrArg (fun a => Except.ok (a, more)) (ofNat_address v)
  | uint bits =>
    intro start offset more _
    have head : heads offset (parts (.uint bits) v) = word v.val := by simp [parts, heads]
    rw [head, decode, takeNat_word v.isLt]
    exact congrArg (fun a => Except.ok (a, more)) (ofNat_amount v)
  | bool =>
    intro start offset more _
    have head : heads offset (parts .bool v) = word (if v then 1 else 0) := by simp [parts, heads]
    rw [head, decode, takeNat_word (by split <;> decide)]
    cases v <;> rfl
  | bytes =>
    intro start offset more located
    obtain ⟨after, found⟩ := follow_located located more
    have head : heads offset (parts .bytes v) = word offset := by simp [parts, heads]
    rw [head, decode]
    simp only [bind, Except.bind, found, takeBytes_padded fits]
    rfl
  | string =>
    intro start offset more located
    obtain ⟨after, found⟩ := follow_located located more
    have head : heads offset (parts .string v) = word offset := by simp [parts, heads]
    rw [head, decode]
    simp only [bind, Except.bind, found, takeBytes_padded fits, Text.utf8Lossy_utf8Bytes]
    rfl
  | array item ih => exact readable_array fits fun x member => ih x (fits.2.2 x member)
  | tuple members ih => exact readable_tuple fits (ih v fits.2)
  | nil => exact fun _ _ _ _ => rfl
  | cons first rest ihFirst ihRest =>
    intro start offset more located
    have both : Located start offset (parts first v.1 ++ parts rest v.2) := located
    obtain ⟨here, there⟩ := both.append
    rw [parts, heads_append, List.append_assoc, decode]
    simp only [bind, Except.bind, ihFirst v.1 fits.1 _ _ _ here, ihRest v.2 fits.2 _ _ _ there]
    rfl

theorem decodeRow_encodeRow (t : Shape .row) (v : t.Value) (reached : Reached (headsLength (parts t v)) (parts t v))
    (fits : Fits t v) (after : List UInt8) : decodeRow t (encodeRow t v ++ after) = .ok v := by
  have whole := readable t v fits _ _ (tails (parts t v) ++ after) (located_assemble reached after)
  rw [← List.append_assoc, ← assemble] at whole
  rw [decodeRow, encodeRow, whole]
  rfl

-- An encoding that a machine can hold is read back.
theorem decodeRow_held (t : Shape .row) (v : t.Value) (solid : t.solid) (held : (encodeRow t v).length < UInt64.size) :
    decodeRow t (encodeRow t v) = .ok v := by
  have whole := decodeRow_encodeRow t v (reached_assemble held) (fits_of_length t v solid held) []
  rwa [List.append_nil] at whole

end RouteQuote.Abi

namespace RouteQuote

namespace Hash

theorem length_lanes (f : Nat → Nat → UInt64) : (lanes f).length = 25 := rfl

theorem length_iota (constant : UInt64) (a : Lanes) : (iota constant a).length = a.length := by
  cases a <;> rfl

theorem length_round (constant : UInt64) (a : Lanes) : (iota constant (chi (rhoPi (theta a)))).length = 25 :=
  (length_iota _ _).trans (length_lanes _)

theorem length_rounds (constants : List UInt64) (a : Lanes) (full : a.length = 25) :
    (constants.foldl (fun a constant => iota constant (chi (rhoPi (theta a)))) a).length = 25 := by
  induction constants generalizing a with
  | nil => exact full
  | cons constant constants ih => exact ih _ (length_round constant a)

-- The first round makes 25 lanes of whatever it is given.
theorem length_permute (a : Lanes) : (permute a).length = 25 := by
  have first : roundConstants = 1 :: roundConstants.tail := rfl
  rw [permute, first, List.foldl_cons]
  exact length_rounds _ _ (length_round 1 a)

theorem length_absorbed (blocks : List (List UInt8)) (a : Lanes) (full : a.length = 25) :
    (blocks.foldl absorb a).length = 25 := by
  induction blocks generalizing a with
  | nil => exact full
  | cons block blocks ih => exact ih _ (length_permute _)

theorem length_keccak256 (message : List UInt8) : (keccak256 message).length = 32 := by
  have full := length_absorbed (groups blockSize ((pad message).length / blockSize) (pad message))
    (List.replicate 25 0) List.length_replicate
  have eight : ∀ w : UInt64, (bytesOfLane w).length = 8 := fun _ => rfl
  simp only [keccak256, List.length_flatMap, eight, List.map_const', List.sum_replicate_nat, List.length_take, full]
  rfl

end Hash

namespace Abi

variable {f g : Function} {arguments : f.inputs.Value}

theorem length_selector (f : Function) : f.selector.length = 4 := by
  rw [Function.selector, List.length_take, Hash.length_keccak256]
  rfl

theorem take_calldata (after : List UInt8) : (f.calldata arguments ++ after).take 4 = f.selector := by
  rw [Function.calldata, List.append_assoc]
  exact List.take_left' (length_selector f)

theorem drop_calldata (after : List UInt8) :
    (f.calldata arguments ++ after).drop 4 = encodeRow f.inputs arguments ++ after := by
  rw [Function.calldata, List.append_assoc]
  exact List.drop_left' (length_selector f)

theorem decodeCall_calldata (reached : Reached (headsLength (parts f.inputs arguments)) (parts f.inputs arguments))
    (fits : Fits f.inputs arguments) (after : List UInt8) :
    f.decodeCall (f.calldata arguments ++ after) = .ok arguments := by
  rw [Function.decodeCall, take_calldata, if_pos rfl, drop_calldata, decodeRow_encodeRow _ _ reached fits]

theorem decodeCall_other (different : f.selector ≠ g.selector) (after : List UInt8) :
    g.decodeCall (f.calldata arguments ++ after) = .error (.badSelector g.name f.selector) := by
  rw [Function.decodeCall, take_calldata, if_neg different]

theorem selector_bridge : bridge.selector = [0xC2, 0x28, 0x81, 0x47] := by
  have signature : bridge.signature = "bridge(address,uint256,address,uint256," ++
      "(address,address,uint256,uint256,bytes),(address,address,uint256,uint256,bytes))" := by decide +kernel
  rw [Function.selector, Text.utf8Bytes_eq, signature]
  decide +kernel

theorem selector_swap : swap.selector = [0xB5, 0xD1, 0xCD, 0xD4] := by
  have signature : swap.signature = "swap(address,address,uint256,(address,address,uint256,uint256,bytes))" := by
    decide +kernel
  rw [Function.selector, Text.utf8Bytes_eq, signature]
  decide +kernel

theorem bridge_ne_swap : bridge.selector ≠ swap.selector := by
  rw [selector_bridge, selector_swap]
  decide

end Abi

end RouteQuote
