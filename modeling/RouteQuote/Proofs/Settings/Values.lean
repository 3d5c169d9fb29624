import RouteQuote.Proofs.FirstFault
import RouteQuote.Proofs.Input.ChainLists
import RouteQuote.Proofs.Settings.Layers

namespace RouteQuote.Settings

open Text

-- The words that turn something on or off, in letters of either case.
def words : Bool → List String
  | true => ["true", "on", "yes"]
  | false => ["false", "off", "no"]

inductive SwitchWord (raw : String) : Bool → Prop where
  | word {on : Bool} (known : lowercase raw ∈ words on) : SwitchWord raw on
  | one (same : lowercase raw = "1") : SwitchWord raw true
  | zero (same : lowercase raw = "0") : SwitchWord raw false

inductive NumberWord (raw : String) : UInt64 → Prop where
  | word {on : Bool} (known : lowercase raw ∈ words on) : NumberWord raw (if on then 1 else 0)
  | number {n : UInt64} (written : IsUnsigned (lowercase raw).toList n.toNat) : NumberWord raw n

-- What a value of a file is where a switch is wanted.
inductive SwitchValue : Node → Bool → Prop where
  | bool {origin : Option String} (on : Bool) : SwitchValue (.leaf origin (.bool on)) on
  | int {origin : Option String} (n : Int) : SwitchValue (.leaf origin (.int n)) (n != 0)
  | float {origin : Option String} (x : Binary64) : SwitchValue (.leaf origin (.float x)) !x.isZero
  | text {origin : Option String} {raw : String} {on : Bool} (word : SwitchWord raw on) :
      SwitchValue (.leaf origin (.string raw)) on

-- A fraction counts without its digits behind the point, and as the nearest number that there is.
inductive NumberValue : Node → UInt64 → Prop where
  | int {origin : Option String} (n : UInt64) : NumberValue (.leaf origin (.int n.toNat)) n
  | bool {origin : Option String} (on : Bool) : NumberValue (.leaf origin (.bool on)) (if on then 1 else 0)
  | float {origin : Option String} (x : Binary64) :
      NumberValue (.leaf origin (.float x)) (UInt64.ofNat (x.toNatClamped (UInt64.size - 1)))
  | text {origin : Option String} {raw : String} {n : UInt64} (word : NumberWord raw n) :
      NumberValue (.leaf origin (.string raw)) n

inductive TextValue : Node → String → Prop where
  | text {origin : Option String} (raw : String) : TextValue (.leaf origin (.string raw)) raw
  | bool {origin : Option String} (on : Bool) : TextValue (.leaf origin (.bool on)) (toString on)
  | int {origin : Option String} (n : Int) : TextValue (.leaf origin (.int n)) (toString n)
  | float {origin : Option String} (x : Binary64) : TextValue (.leaf origin (.float x)) x.positional

inductive OptionalValue (value : Node → α → Prop) : Node → Option α → Prop where
  | null {origin : Option String} : OptionalValue value (.leaf origin .null) none
  | there {n : Node} {a : α} (said : value n a) : OptionalValue value n (some a)

inductive TextsValue : Node → ChainTexts → Prop where
  | table {origin : Option String} {members : List (String × Node)} {texts : ChainTexts}
      (each : List.Forall₂ (fun member text => member.1 = text.1 ∧ TextValue member.2 text.2) members texts) :
      TextsValue (.table origin members) texts

-- Of the single numbers only those beyond the signed ones stand for a chain.
inductive ChainsValue : Node → List ChainId → Prop where
  | list {origin : Option String} {items : List Node} {ids : List ChainId} (each : List.Forall₂ NumberValue items ids) :
      ChainsValue (.list origin items) ids
  | text {origin : Option String} {raw : String} {ids : List ChainId} (listed : Input.chainList raw = .ok ids) :
      ChainsValue (.leaf origin (.string raw)) ids
  | single {origin : Option String} {id : ChainId} (great : Nat.pow 2 63 ≤ id.toNat) :
      ChainsValue (.leaf origin (.int id.toNat)) [id]

namespace Converter

variable {key raw : String} {n : Node} {on : Bool} {i : UInt64} {ids : List ChainId} {text : String}
  {texts : ChainTexts} {convert : Converter α} {value : Node → α → Prop} {a : α}

theorem switchWord?_eq_some : switchWord? raw = some on ↔ raw ∈ words on := by
  have yes : ["true", "on", "yes"].contains raw = true ↔ raw ∈ words true := List.contains_iff_mem
  have no : ["false", "off", "no"].contains raw = true ↔ raw ∈ words false := List.contains_iff_mem
  have apart : ∀ word ∈ words true, word ∉ words false := by decide
  unfold switchWord?
  simp only [yes, no]
  by_cases known : raw ∈ words true
  · rw [if_pos known]
    cases on with
    | true => exact iff_of_true rfl known
    | false => exact iff_of_false nofun (apart raw known)
  · rw [if_neg known]
    cases on with
    | true => simp [known]
    | false => simp

-- A number that is not too great for it, and the word that holds it.
theorem exists_word {number : Int} (least : 0 ≤ number) (small : number.toNat < UInt64.size) :
    ∃ i : UInt64, number = i.toNat ∧ UInt64.ofNat number.toNat = i := by
  refine ⟨.ofNat number.toNat, ?_, rfl⟩
  rw [UInt64.toNat_ofNat_of_lt' small]
  exact (Int.toNat_of_nonneg least).symm

theorem word_of_int (i : UInt64) : UInt64.ofNat (i.toNat : Int).toNat = i := by
  rw [Int.toNat_natCast, UInt64.ofNat_toNat]

theorem not_word_of_unsigned {number : Nat} (written : IsUnsigned raw.toList number) : raw ∉ words on := by
  intro known
  have letters : ∀ word ∈ words on, word.toList.all (fun c => c != '+' && !c.isDigit) = true := by cases on <;> decide
  have other := List.all_eq_true.mp (letters raw known)
  generalize raw.toList = digits at written other
  cases written with
  | plain some each =>
    obtain ⟨c, member⟩ := List.exists_mem_of_ne_nil digits some
    simpa [each c member] using other c member
  | plus => cases other '+' List.mem_cons_self

theorem flag_eq_ok : flag key n = .ok on ↔ SwitchValue n on := by
  unfold flag
  constructor
  · intro said
    split at said
    · cases said
      exact .bool _
    · cases said
      exact .int _
    · cases said
      exact .float _
    · dsimp only at said
      split at said
      · rename_i one
        cases said
        exact .text (.one one)
      split at said
      · rename_i zero
        cases said
        exact .text (.zero zero)
      split at said
      · rename_i known
        cases said
        exact .text (.word (switchWord?_eq_some.mp known))
      · cases said
    · cases said
  · intro said
    cases said with
    | bool | int | float => rfl
    | @text _ raw _ word =>
      have apart : ∀ on, ∀ word ∈ words on, word ≠ "1" ∧ word ≠ "0" := by decide
      cases word with
      | word known =>
        obtain ⟨noOne, noZero⟩ := apart _ _ known
        simp only [if_neg noOne, if_neg noZero, switchWord?_eq_some.mpr known]
      | one same => simp [same]
      | zero same => simp [same]

theorem natural_eq_ok : natural key n = .ok i ↔ NumberValue n i := by
  unfold natural
  constructor
  · intro said
    split at said
    · split at said
      · rename_i bounds
        obtain ⟨i, rfl, same⟩ := exists_word bounds.1 bounds.2
        rw [same] at said
        cases said
        exact .int i
      · cases said
    · cases said
      exact .bool _
    · cases said
      exact .float _
    · split at said
      · rename_i known
        cases said
        exact .text (.word (switchWord?_eq_some.mp known))
      split at said
      · rename_i number counted
        cases said
        obtain ⟨written, small⟩ := unsigned?_eq_some.mp counted
        rw [← UInt64.toNat_ofNat_of_lt' small] at written
        exact .text (.number written)
      · cases said
    · cases said
  · intro said
    cases said with
    | int =>
      have bounds : (0 : Int) ≤ i.toNat ∧ (i.toNat : Int).toNat < UInt64.size := ⟨Int.natCast_nonneg _, i.toNat_lt⟩
      dsimp only
      rw [if_pos bounds, word_of_int]
    | bool | float => rfl
    | text word =>
      cases word with
      | word known => simp only [switchWord?_eq_some.mpr known]
      | number written =>
        have none : switchWord? (lowercase _) = none :=
          Option.eq_none_iff_forall_ne_some.mpr fun on known =>
            not_word_of_unsigned written (switchWord?_eq_some.mp known)
        have counted := unsigned?_eq_some.mpr ⟨written, i.toNat_lt⟩
        simp only [none, counted, UInt64.ofNat_toNat]

theorem text_eq_ok : Converter.text key n = .ok text ↔ TextValue n text := by
  unfold Converter.text
  constructor
  · intro said
    split at said
    · cases said
      exact .text _
    · cases said
      exact .bool _
    · cases said
      exact .int _
    · cases said
      exact .float _
    · cases said
  · intro said
    cases said <;> rfl

theorem optional_eq_ok {a : Option α} (converts : ∀ {a}, convert key n = .ok a ↔ value n a)
    (filled : ∀ origin a, ¬ value (.leaf origin .null) a) : optional convert key n = .ok a ↔ OptionalValue value n a := by
  unfold optional
  split
  · constructor
    · intro said
      cases said
      exact .null
    · intro said
      cases said with
      | null => rfl
      | there said => exact absurd said (filled _ _)
  · rename_i other
    constructor
    · intro said
      cases made : convert key n with
      | error e => cases (made ▸ said : some <$> Except.error e = .ok a)
      | ok b =>
        rw [made] at said
        cases said
        exact .there (converts.mp made)
    · intro said
      cases said with
      | null => exact absurd rfl (other _)
      | there said =>
        rw [converts.mpr said]
        rfl

theorem texts_eq_ok : Converter.texts key n = .ok texts ↔ TextsValue n texts := by
  unfold Converter.texts
  split
  · have one : ∀ (member text : String × _), (do return (member.1, ← Converter.text s!"{key}.{member.1}" member.2)) =
        (.ok text : Except SourceFault _) ↔ member.1 = text.1 ∧ TextValue member.2 text.2 := by
      rintro ⟨name, value⟩ ⟨other, text⟩
      rw [Except.bind_eq_ok]
      constructor
      · rintro ⟨said, read, same⟩
        cases same
        exact ⟨rfl, text_eq_ok.mp read⟩
      · rintro ⟨rfl, said⟩
        exact ⟨text, text_eq_ok.mpr said, rfl⟩
    rw [mapM_eq_ok]
    constructor
    · intro each
      exact .table (each.imp fun member text => (one member text).mp)
    · intro said
      cases said with
      | table each => exact each.imp fun member text => (one member text).mpr
  · rename_i other
    constructor
    · intro said
      cases said
    · intro said
      cases said with
      | table => exact absurd rfl (other _ _)

theorem chainItems_eq_ok {position : Nat} {items : List Node} :
    chainItems key position items = .ok ids ↔ List.Forall₂ NumberValue items ids := by
  induction items generalizing position ids with
  | nil =>
    rw [chainItems, List.forall₂_nil_left_iff]
    exact ⟨fun same => (Except.ok.inj same).symm, fun same => congrArg Except.ok same.symm⟩
  | cons item items ih =>
    rw [chainItems, Except.bind_eq_ok, List.forall₂_cons_left_iff]
    constructor
    · rintro ⟨id, first, rest⟩
      obtain ⟨ids, others, same⟩ := Except.bind_eq_ok.mp rest
      exact ⟨id, ids, natural_eq_ok.mp first, ih.mp others, (Except.ok.inj same).symm⟩
    · rintro ⟨id, others, first, rest, rfl⟩
      exact ⟨id, natural_eq_ok.mpr first, Except.bind_eq_ok.mpr ⟨others, ih.mpr rest, rfl⟩⟩

theorem chainIds_eq_ok : chainIds key n = .ok ids ↔ ChainsValue n ids := by
  unfold chainIds
  constructor
  · intro said
    dsimp only at said
    split at said
    · exact .list (chainItems_eq_ok.mp said)
    · split at said
      · rename_i listed
        cases said
        exact .text listed
      · cases said
      · cases said
    · split at said
      · rename_i bounds
        have least : (0 : Int) ≤ Nat.pow 2 63 := by decide
        obtain ⟨id, rfl, same⟩ := exists_word (Int.le_trans least bounds.1) bounds.2
        rw [same] at said
        cases said
        exact .single (Int.ofNat_le.mp bounds.1)
      · cases said
    · cases said
  · intro said
    cases said with
    | list each => exact chainItems_eq_ok.mpr each
    | text listed => simp only [listed]
    | @single _ id great =>
      have bounds : (Nat.pow 2 63 : Int) ≤ id.toNat ∧ (id.toNat : Int).toNat < UInt64.size :=
        ⟨Int.ofNat_le.mpr great, id.toNat_lt⟩
      dsimp only
      rw [if_pos bounds, word_of_int]

end Converter

end RouteQuote.Settings
