import RouteQuote.Proofs.Abi.Words
import RouteQuote.Proofs.Text.Bytes

namespace RouteQuote.Abi

@[simp] theorem heads_nil (offset : Nat) : heads offset [] = [] := rfl

@[simp] theorem tails_nil : tails [] = [] := rfl

@[simp] theorem headsLength_nil : headsLength [] = 0 := rfl

@[simp] theorem headsLength_cons (p : Part) (ps : List Part) : headsLength (p :: ps) = p.headLength + headsLength ps := rfl

theorem tails_append (ps qs : List Part) : tails (ps ++ qs) = tails ps ++ tails qs := by
  induction ps with
  | nil => rfl
  | cons p ps ih =>
    rw [List.cons_append, tails, tails]
    split
    · rw [ih, List.append_assoc]
    · exact ih

theorem heads_append (offset : Nat) (ps qs : List Part) :
    heads offset (ps ++ qs) = heads offset ps ++ heads (offset + (tails ps).length) qs := by
  induction ps generalizing offset with
  | nil => rfl
  | cons p ps ih =>
    rw [List.cons_append, heads, heads, tails]
    split
    · rw [ih, List.append_assoc, List.length_append, Nat.add_assoc]
    · rw [ih, List.append_assoc]

theorem headsLength_append (ps qs : List Part) : headsLength (ps ++ qs) = headsLength ps + headsLength qs := by
  induction ps with
  | nil => exact (Nat.zero_add _).symm
  | cons p ps ih => rw [List.cons_append, headsLength_cons, ih, headsLength_cons, Nat.add_assoc]

theorem length_heads (offset : Nat) (ps : List Part) : (heads offset ps).length = headsLength ps := by
  induction ps generalizing offset with
  | nil => rfl
  | cons p ps ih =>
    rw [heads, headsLength_cons, Part.headLength]
    split <;> rw [List.length_append, ih]
    rw [length_word]

theorem length_assemble (ps : List Part) : (assemble ps).length = headsLength ps + (tails ps).length := by
  rw [assemble, List.length_append, length_heads]

theorem length_assemble_append (ps qs : List Part) :
    (assemble (ps ++ qs)).length = (assemble ps).length + (assemble qs).length := by
  simp only [length_assemble, headsLength_append, tails_append, List.length_append]
  omega

theorem length_assemble_dynamic (bytes : List UInt8) : (assemble [⟨true, bytes⟩]).length = 32 + bytes.length := by
  simp [length_assemble, Part.headLength, tails]

theorem length_assemble_static (bytes : List UInt8) : (assemble [⟨false, bytes⟩]).length = bytes.length := by
  simp [length_assemble, Part.headLength, tails]

def Static (ps : List Part) : Prop := ∀ p ∈ ps, p.isDynamic = false

theorem Static.tails {ps : List Part} (static : Static ps) : tails ps = [] := by
  induction ps with
  | nil => rfl
  | cons p ps ih =>
    obtain ⟨first, rest⟩ := List.forall_mem_cons.mp static
    rw [Abi.tails, first]
    exact ih rest

-- Without offsets it does not matter where the tails would be.
theorem Static.heads {ps : List Part} (static : Static ps) (offset other : Nat) : heads offset ps = heads other ps := by
  induction ps generalizing offset other with
  | nil => rfl
  | cons p ps ih =>
    obtain ⟨first, rest⟩ := List.forall_mem_cons.mp static
    simp only [Abi.heads, first, Bool.false_eq_true, if_false]
    rw [ih rest offset other]

theorem parts_static (t : Shape k) (v : t.Value) (static : t.isDynamic = false) : Static (parts t v) := by
  induction t with
  | address | uint | bool => simp [Static, parts]
  | bytes | string | array => cases static
  | tuple members => simpa [Static, parts, Shape.isDynamic] using static
  | nil => simp [Static, parts]
  | cons first rest ihFirst ihRest =>
    simp only [Shape.isDynamic, Bool.or_eq_false_iff] at static
    exact List.forall_mem_append.mpr ⟨ihFirst v.1 static.1, ihRest v.2 static.2⟩

-- The heads of a value take as many words as its type says, whatever the value.
theorem headsLength_parts (t : Shape k) (v : t.Value) : headsLength (parts t v) = 32 * t.words := by
  induction t with
  | address | uint | bool => simp [parts, Part.headLength, length_word, Shape.words]
  | bytes | string | array => simp [parts, Part.headLength, Shape.words]
  | tuple members ih =>
    simp only [parts, headsLength_cons, headsLength_nil, Part.headLength, Shape.words]
    split
    · rfl
    · rename_i static
      have none := (parts_static members v (Bool.not_eq_true _ ▸ static)).tails
      rw [length_assemble, none, ih]
      rfl
  | nil => rfl
  | cons first rest ihFirst ihRest =>
    rw [parts, headsLength_append, ihFirst, ihRest, Shape.words, Nat.mul_add]

theorem headsLength_items (item : Shape .one) (xs : List item.Value) :
    headsLength (xs.flatMap fun x => parts item x) = 32 * (xs.length * item.words) := by
  induction xs with
  | nil => simp
  | cons x xs ih =>
    rw [List.flatMap_cons, headsLength_append, headsLength_parts, ih, List.length_cons, Nat.add_one_mul xs.length]
    omega

def size : (t : Shape k) → t.Value → Nat
  | .address, _ | .uint _, _ | .bool, _ => 32
  | .bytes, b => 64 + paddedLength b.length
  | .string, s => 64 + paddedLength s.utf8ByteSize
  | .array item, xs => 64 + xs.foldr (fun x n => size item x + n) 0
  | .tuple members, v => if members.isDynamic then 32 + size members v else size members v
  | .nil, _ => 0
  | .cons first rest, v => size first v.1 + size rest v.2

theorem length_assemble_items {item : Shape .one} {xs : List item.Value}
    (each : ∀ x ∈ xs, (assemble (parts item x)).length = size item x) :
    (assemble (xs.flatMap fun x => parts item x)).length = xs.foldr (fun x n => size item x + n) 0 := by
  induction xs with
  | nil => rfl
  | cons x xs ih =>
    obtain ⟨first, rest⟩ := List.forall_mem_cons.mp each
    rw [List.flatMap_cons, length_assemble_append, first, ih rest, List.foldr_cons]

theorem length_assemble_parts (t : Shape k) (v : t.Value) : (assemble (parts t v)).length = size t v := by
  induction t with
  | address | uint | bool => rw [parts, length_assemble_static, length_word, size]
  | bytes =>
    rw [parts, length_assemble_dynamic, List.length_append, length_word, length_padded, size]
    omega
  | string =>
    rw [parts, length_assemble_dynamic, List.length_append, length_word, length_padded, Text.length_utf8Bytes, size]
    omega
  | array item ih =>
    rw [parts, length_assemble_dynamic, List.length_append, length_word, length_assemble_items fun x _ => ih x, size]
    omega
  | tuple members ih =>
    rw [parts, size]
    cases members.isDynamic with
    | true => rw [length_assemble_dynamic, ih, if_pos rfl]
    | false => rw [length_assemble_static, ih, if_neg Bool.false_ne_true]
  | nil => rfl
  | cons first rest ihFirst ihRest => rw [parts, length_assemble_append, ihFirst, ihRest, size]

theorem length_encodeRow (t : Shape .row) (v : t.Value) : (encodeRow t v).length = size t v := length_assemble_parts t v

-- The tails of the parts start below 2 ^ 64 when the first of them starts so far from the row's start.
def Reached : Nat → List Part → Prop
  | _, [] => True
  | offset, p :: ps =>
    if p.isDynamic then offset < UInt64.size ∧ Reached (offset + p.bytes.length) ps else Reached offset ps

theorem reached_append {offset : Nat} {ps qs : List Part} (reached : Reached offset (ps ++ qs)) :
    Reached offset ps ∧ Reached (offset + (tails ps).length) qs := by
  induction ps generalizing offset with
  | nil => exact ⟨trivial, reached⟩
  | cons p ps ih =>
    rw [List.cons_append, Reached] at reached
    rw [Reached, tails]
    split at reached
    · rename_i dynamic
      obtain ⟨front, back⟩ := ih reached.2
      rw [if_pos dynamic, if_pos dynamic, List.length_append, ← Nat.add_assoc]
      exact ⟨⟨reached.1, front⟩, back⟩
    · rename_i static
      rw [if_neg static, if_neg static]
      exact ih reached

theorem reached_of_length {offset : Nat} {ps : List Part} (fits : offset + (tails ps).length < UInt64.size) :
    Reached offset ps := by
  induction ps generalizing offset with
  | nil => trivial
  | cons p ps ih =>
    rw [tails] at fits
    rw [Reached]
    split at fits
    · rename_i dynamic
      rw [List.length_append] at fits
      rw [if_pos dynamic]
      exact ⟨by omega, ih (by omega)⟩
    · rename_i static
      rw [if_neg static]
      exact ih fits

theorem reached_assemble {ps : List Part} (fits : (assemble ps).length < UInt64.size) :
    Reached (headsLength ps) ps := by
  rw [length_assemble] at fits
  exact reached_of_length fits

theorem Static.reached {ps : List Part} (static : Static ps) (offset : Nat) : Reached offset ps := by
  induction ps with
  | nil => trivial
  | cons p ps ih =>
    obtain ⟨first, rest⟩ := List.forall_mem_cons.mp static
    rw [Reached, first]
    exact ih rest

-- Every length and every offset in the encoding is below 2 ^ 64.
def Fits : (t : Shape k) → t.Value → Prop
  | .address, _ | .uint _, _ | .bool, _ | .nil, _ => True
  | .bytes, b => b.length < UInt64.size
  | .string, s => (Text.utf8Bytes s).length < UInt64.size
  | .array item, xs =>
    let ps := xs.flatMap fun x => parts item x
    xs.length < UInt64.size ∧ Reached (headsLength ps) ps ∧ ∀ x ∈ xs, Fits item x
  | .tuple members, v => Reached (headsLength (parts members v)) (parts members v) ∧ Fits members v
  | .cons first rest, v => Fits first v.1 ∧ Fits rest v.2

-- The items of every array take some room, so that their number is bounded by the room they take.
def Shape.solid : Shape k → Bool
  | .address | .uint _ | .bool | .bytes | .string | .nil => true
  | .array item => 0 < item.words && item.solid
  | .tuple members => members.solid
  | .cons first rest => first.solid && rest.solid

theorem length_assemble_mem {item : Shape .one} {xs : List item.Value} {x : item.Value} (member : x ∈ xs) :
    (assemble (parts item x)).length ≤ (assemble (xs.flatMap fun x => parts item x)).length := by
  obtain ⟨before, after, rfl⟩ := List.append_of_mem member
  rw [List.flatMap_append, List.flatMap_cons, length_assemble_append, length_assemble_append]
  omega

theorem fits_of_length (t : Shape k) (v : t.Value) (solid : t.solid) (small : (assemble (parts t v)).length < UInt64.size) :
    Fits t v := by
  induction t with
  | address | uint | bool | nil => trivial
  | bytes =>
    have := le_paddedLength v.length
    rw [parts, length_assemble_dynamic, List.length_append, length_padded] at small
    simp only [Fits]
    omega
  | string =>
    have := le_paddedLength (Text.utf8Bytes v).length
    rw [parts, length_assemble_dynamic, List.length_append, length_padded] at small
    simp only [Fits]
    omega
  | array item ih =>
    simp only [Shape.solid, Bool.and_eq_true, decide_eq_true_eq] at solid
    rw [parts, length_assemble_dynamic, List.length_append] at small
    have room := headsLength_items item v
    have many : v.length ≤ v.length * item.words := Nat.le_mul_of_pos_right _ solid.1
    have whole := length_assemble (v.flatMap fun x => parts item x)
    refine ⟨by omega, reached_assemble (by omega), fun x member => ih x solid.2 ?_⟩
    have := length_assemble_mem member
    omega
  | tuple members ih =>
    have inner : (assemble (parts members v)).length < UInt64.size := by
      rw [parts] at small
      cases dynamic : members.isDynamic with
      | true =>
        rw [dynamic, length_assemble_dynamic] at small
        omega
      | false =>
        rw [dynamic, length_assemble_static] at small
        exact small
    exact ⟨reached_assemble inner, ih v solid inner⟩
  | cons first rest ihFirst ihRest =>
    simp only [Shape.solid, Bool.and_eq_true] at solid
    rw [parts, length_assemble_append] at small
    exact ⟨ihFirst v.1 solid.1 (by omega), ihRest v.2 solid.2 (by omega)⟩

end RouteQuote.Abi
