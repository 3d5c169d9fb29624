import Mathlib.Data.List.Nodup
import RouteQuote.Proofs.FirstFault
import RouteQuote.Settings.Load

namespace RouteQuote

namespace Text

-- A mark between the steps of a path.
def IsMark (c : Char) : Prop := c = '.' ∨ c = '['

theorem IsMark.toNat {c : Char} (mark : IsMark c) : 0 < c.toNat ∧ c.toNat < 107 := by
  rcases mark with rfl | rfl <;> decide

theorem lowercaseRuns_least : ∀ run ∈ lowercaseRuns, (107 : Int) ≤ (run.1 : Int) + run.2.2.2 := by decide +kernel

theorem toNat_ofNat_cases (n : Nat) : (Char.ofNat n).toNat = n ∨ (Char.ofNat n).toNat = 0 := by
  by_cases valid : n.isValidChar
  · rw [Char.ofNat, dif_pos valid]
    exact .inl rfl
  · rw [Char.ofNat, dif_neg valid]
    exact .inr rfl

-- No letter becomes a mark in lower case.
theorem lowercaseChar_mark {c d : Char} (mark : IsMark d) (lower : lowercaseChar c = d) : c = d := by
  unfold lowercaseChar at lower
  split at lower
  · rename_i ascii
    have table : ∀ n : Fin 128, IsMark (Char.ofNat n).toLower → (Char.ofNat n).toLower = Char.ofNat n := by
      unfold IsMark
      decide
    have kept := table ⟨c.toNat, ascii⟩
    simp only [Char.ofNat_toNat] at kept
    rw [← lower, kept (lower ▸ mark)]
  · split at lower
    · rename_i first last step distance found
      have member := lowercaseRuns_least _ (List.mem_of_find?_eq_some found)
      have within : first ≤ c.toNat := by
        have covered := List.find?_some found
        simp only [Bool.and_eq_true, decide_eq_true_eq] at covered
        exact covered.1.1
      have small := mark.toNat
      simp only at member
      rcases toNat_ofNat_cases (c.toNat + distance).toNat with same | none
      · rw [lower] at same
        omega
      · rw [lower] at none
        omega
    · exact lower

theorem lower_mark {c d : Char} (mark : IsMark c) {final : Bool}
    (member : c ∈ if d == 'İ' then ['i', Char.ofNat 0x307] else if final then ['ς'] else [lowercaseChar d]) : c = d := by
  split at member
  · have dotted : ∀ e ∈ ['i', Char.ofNat 0x307], ¬ IsMark e := by simp [IsMark]
    exact absurd mark (dotted c member)
  · split at member
    · have sigma : ∀ e ∈ ['ς'], ¬ IsMark e := by simp [IsMark]
      exact absurd mark (sigma c member)
    · exact (lowercaseChar_mark mark (List.mem_singleton.mp member).symm).symm

theorem mem_lowercaseAfter {c : Char} (mark : IsMark c) {cased : Bool} {s : List Char}
    (member : c ∈ lowercaseAfter cased s) : c ∈ s := by
  induction s generalizing cased with
  | nil => cases member
  | cons d s ih =>
    rw [lowercaseAfter.eq_def] at member
    rcases List.mem_append.mp member with first | rest
    · exact lower_mark mark first ▸ List.mem_cons_self
    · exact List.mem_cons_of_mem _ (ih rest)

theorem mark_lowercase {c : Char} (mark : IsMark c) {name : String} (unmarked : c ∉ name.toList) :
    c ∉ (lowercase name).toList := by
  rw [lowercase, String.toList_ofList]
  exact fun member => unmarked (mem_lowercaseAfter mark member)

end Text

namespace Settings

open Text

namespace Step

theorem rest?_unmarked {fuel : Nat} {s : List Char} (some : s ≠ []) (unmarked : ∀ c ∈ s, ¬ IsMark c) :
    rest? fuel s = none := by
  cases s with
  | nil => exact absurd rfl some
  | cons c s =>
    have here := unmarked c List.mem_cons_self
    cases fuel with
    | zero => rfl
    | succ fuel =>
      unfold rest?
      split <;> simp_all [IsMark]

theorem ofName_first (name : String) : ∃ key rest, ofName name = .key key :: rest := by
  unfold ofName
  simp only
  split
  · exact ⟨name, [], rfl⟩
  · split
    · exact ⟨_, _, rfl⟩
    · exact ⟨name, [], rfl⟩

theorem ofName_plain {name : String} (unmarked : ∀ c ∈ name.toList, ¬ IsMark c) : ofName name = [.key name] := by
  have behind : ∀ n, ∀ c ∈ name.toList.drop n, ¬ IsMark c := fun n c member => unmarked c (List.mem_of_mem_drop member)
  unfold ofName
  simp only
  split
  · rfl
  · by_cases whole : name.toList.drop (name.toList.takeWhile isKeyChar).length = []
    · have all : name.toList.takeWhile isKeyChar = name.toList :=
        (List.takeWhile_prefix isKeyChar).eq_of_length_le (List.drop_eq_nil_iff.mp whole)
      simp [rest?, all]
    · rw [rest?_unmarked whole (behind _)]

end Step

-- A name that stands for that member, or for something in it.
def LeadsTo (name key : String) : Prop := (Step.ofName name).head? = some (.key key)

instance : Decidable (LeadsTo name key) := inferInstanceAs (Decidable (_ = _))

theorem leadsTo_plain {name key : String} (unmarked : ∀ c ∈ name.toList, ¬ IsMark c) : LeadsTo name key ↔ name = key := by
  simp [LeadsTo, Step.ofName_plain unmarked]

namespace Node

variable {key name : String} {n m value : Node} {members more : List (String × Node)} {f : Node → Node}
  {path : List Step}

theorem lookup_cons (key name : String) (value : α) (rest : List (String × α)) :
    ((name, value) :: rest).lookup key = if key = name then some value else rest.lookup key := by
  by_cases same : key = name
  · simp [same]
  · simp [List.lookup_cons, same, beq_false_of_ne same]

theorem lookup_eq_some {rest : List (String × α)} (once : (rest.map Prod.fst).Nodup) {value : α} :
    rest.lookup key = some value ↔ (key, value) ∈ rest := by
  induction rest with
  | nil => simp
  | cons pair rest ih =>
    obtain ⟨name, other⟩ := pair
    simp only [List.map_cons, List.nodup_cons, List.mem_map, not_exists, not_and] at once
    rw [lookup_cons, List.mem_cons]
    split
    · rename_i same
      subst same
      have alone : (key, value) ∉ rest := fun member => once.1 _ member rfl
      simp [alone, eq_comm]
    · rename_i other
      simp [other, ih once.2]

theorem lookup_reverse {rest : List (String × α)} (once : (rest.map Prod.fst).Nodup) :
    rest.reverse.lookup key = rest.lookup key := by
  have reversed : (rest.reverse.map Prod.fst).Nodup := by
    rw [List.map_reverse]
    exact List.nodup_reverse.mpr once
  ext value
  simp [lookup_eq_some once, lookup_eq_some reversed]

theorem lookup_put (key name : String) (value : Node) (members : List (String × Node)) :
    (put key value members).lookup name = if name = key then some value else members.lookup name := by
  induction members with
  | nil => simp [put, lookup_cons]
  | cons member members ih =>
    obtain ⟨k, v⟩ := member
    by_cases here : k = key
    · by_cases same : name = key <;> simp [put, here, same, lookup_cons]
    · by_cases same : name = k
      · simp [put, here, same]
      · simp [put, here, same, lookup_cons, ih]

theorem mem_keys_put (member : name ∈ (put key value members).map Prod.fst) :
    name = key ∨ name ∈ members.map Prod.fst := by
  induction members with
  | nil => simpa [put] using member
  | cons pair members ih =>
    obtain ⟨k, v⟩ := pair
    by_cases here : k = key
    · simp only [put, here, if_true, List.map_cons, List.mem_cons] at member ⊢
      exact member.imp_right .inr
    · simp only [put, here, if_false, List.map_cons, List.mem_cons] at member ⊢
      rcases member with first | rest
      · exact .inr (.inl first)
      · exact (ih rest).imp_right .inr

theorem nodup_put (once : (members.map Prod.fst).Nodup) : ((put key value members).map Prod.fst).Nodup := by
  induction members with
  | nil => simp [put]
  | cons pair members ih =>
    obtain ⟨k, v⟩ := pair
    simp only [List.map_cons, List.nodup_cons] at once
    by_cases here : k = key
    · simp only [put, here, if_true, List.map_cons, List.nodup_cons]
      exact here ▸ once
    · simp only [put, here, if_false, List.map_cons, List.nodup_cons]
      refine ⟨fun member => ?_, ih once.2⟩
      rcases mem_keys_put member with same | old
      · exact here same
      · exact once.1 old

-- A table in which every name stands once.
inductive Rooted : Node → Prop where
  | table {origin : Option String} {members : List (String × Node)} (once : (members.map Prod.fst).Nodup) :
      Rooted (.table origin members)

theorem rooted_empty : Rooted empty := .table List.nodup_nil

theorem Rooted.change (rooted : Rooted n) : Rooted (n.change f (.key key :: path)) := by
  cases rooted with
  | table once => exact .table (nodup_put once)

-- What a path changes is the member that it begins with, and nothing else.
theorem get?_change (rooted : Rooted n) : (n.change f (.key key :: path)).get? name =
    if name = key then some (change f path ((n.get? key).getD null)) else n.get? name := by
  cases rooted with
  | table once =>
    rw [change]
    simp only [get?, lookup_reverse once, lookup_reverse (nodup_put once), lookup_put]

theorem Rooted.assign (rooted : Rooted n) : Rooted (n.assign name value) := by
  obtain ⟨key, rest, path⟩ := Step.ofName_first name
  rw [Node.assign, path]
  exact rooted.change

theorem get?_assign_other (rooted : Rooted n) (apart : ¬ LeadsTo name key) :
    (n.assign name value).get? key = n.get? key := by
  obtain ⟨first, rest, path⟩ := Step.ofName_first name
  have other : key ≠ first := by
    rintro rfl
    exact apart (by simp [LeadsTo, path])
  rw [Node.assign, path, get?_change rooted, if_neg other]

theorem get?_assign_congr (rooted : Rooted n) (other : Rooted m) (same : n.get? key = m.get? key) :
    (n.assign name value).get? key = (m.assign name value).get? key := by
  obtain ⟨first, rest, path⟩ := Step.ofName_first name
  rw [Node.assign, Node.assign, path, get?_change rooted, get?_change other]
  split
  · rename_i here
    rw [← here, same]
  · exact same

end Node

section

variable {key : String} {root other : Node} {members more : List (String × Node)}

theorem assignAll_append : assignAll root (members ++ more) = assignAll (assignAll root members) more :=
  List.foldl_append

theorem rooted_assignAll (rooted : root.Rooted) : (assignAll root members).Rooted := by
  induction members generalizing root with
  | nil => exact rooted
  | cons member members ih => exact ih rooted.assign

theorem get?_assignAll_other (rooted : root.Rooted) (apart : ∀ member ∈ members, ¬ LeadsTo member.1 key) :
    (assignAll root members).get? key = root.get? key := by
  induction members generalizing root with
  | nil => rfl
  | cons member members ih =>
    obtain ⟨first, rest⟩ := List.forall_mem_cons.mp apart
    exact (ih rooted.assign rest).trans (Node.get?_assign_other rooted first)

theorem get?_assignAll_congr (rooted : root.Rooted) (otherRooted : other.Rooted) (same : root.get? key = other.get? key) :
    (assignAll root members).get? key = (assignAll other members).get? key := by
  induction members generalizing root other with
  | nil => exact same
  | cons member members ih =>
    exact ih rooted.assign otherRooted.assign (Node.get?_assign_congr rooted otherRooted same)

-- The last member that leads there, by its plain name, decides when there is nothing to be merged.
theorem get?_assignAll_last {value : Node} (rooted : root.Rooted) (step : Step.ofName key = [.key key])
    (plain : ∀ below, Node.overlay value below = value) (apart : ∀ member ∈ more, ¬ LeadsTo member.1 key) :
    (assignAll root (members ++ (key, value) :: more)).get? key = some value := by
  have front : (assignAll root members).Rooted := rooted_assignAll rooted
  rw [assignAll_append]
  refine (get?_assignAll_other front.assign apart).trans ?_
  rw [Node.assign, step, Node.get?_change front, if_pos rfl, Node.change, plain]

-- A member that does not lead there may as well be missing.
theorem get?_assignAll_drop {name : String} {value : Node} (rooted : root.Rooted) (apart : ¬ LeadsTo name key) :
    (assignAll root (members ++ (name, value) :: more)).get? key = (assignAll root (members ++ more)).get? key := by
  have front : (assignAll root members).Rooted := rooted_assignAll rooted
  rw [assignAll_append, assignAll_append]
  exact get?_assignAll_congr front.assign front (Node.get?_assign_other front apart)

end

-- The value of a variable among the layers.
def fromVariable (raw : String) : Node := .leaf (some environmentOrigin) (.string raw)

theorem apart_environment {env : Environment} {key : String} (apart : ∀ pair ∈ env, ¬ LeadsTo (lowercase pair.1) key) :
    ∀ member ∈ environmentMembers env, ¬ LeadsTo member.1 key := by
  intro member listed
  obtain ⟨pair, there, rfl⟩ := List.mem_map.mp listed
  exact apart pair there

-- The variable of a setting.
def variableOf (key : String) : String := String.ofList (key.toList.map Char.toUpper)

def settingKeys : List String :=
  ["debug", "log_json", "log_level", "chains", "rpc_urls", "router_addresses", "native_tokens", "http_bind",
    "default_deadline_secs"]

theorem lowercase_variableOf : ∀ key ∈ settingKeys, lowercase (variableOf key) = key := by decide +kernel

-- An environment whose variables each stand for a single setting or for none, and are told apart by their case.
structure Orderly (env : Environment) : Prop where
  once : (env.map Prod.fst).Nodup
  plain : ∀ name ∈ env.map Prod.fst, '.' ∉ name.toList ∧ '[' ∉ name.toList
  upper : ∀ name ∈ env.map Prod.fst, ∀ key ∈ settingKeys, lowercase name = key → name = variableOf key

theorem Orderly.tail {pair : String × String} {env : Environment} (orderly : Orderly (pair :: env)) :
    Orderly env where
  once := (List.nodup_cons.mp orderly.once).2
  plain name member := orderly.plain name (List.mem_cons_of_mem _ member)
  upper name member := orderly.upper name (List.mem_cons_of_mem _ member)

theorem unmarked_lowercase {name : String} (plain : '.' ∉ name.toList ∧ '[' ∉ name.toList) :
    ∀ c ∈ (lowercase name).toList, ¬ IsMark c := by
  rintro c member (rfl | rfl)
  · exact mark_lowercase (.inl rfl) plain.1 member
  · exact mark_lowercase (.inr rfl) plain.2 member

theorem get?_assign_variable {root : Node} (rooted : root.Rooted) {name raw : String}
    (plain : '.' ∉ name.toList ∧ '[' ∉ name.toList) (key : String) :
    (root.assign (lowercase name) (fromVariable raw)).get? key =
      if key = lowercase name then some (fromVariable raw) else root.get? key := by
  rw [Node.assign, Step.ofName_plain (unmarked_lowercase plain), Node.get?_change rooted]
  rfl

-- By induction on the variables: the one of the setting, if there is one, is the only one that leads to it.
theorem get?_environment {env : Environment} (orderly : Orderly env) {root : Node} (rooted : root.Rooted) {key : String}
    (known : key ∈ settingKeys) : (assignAll root (environmentMembers env)).get? key =
      ((env.get? (variableOf key)).map fromVariable).or (root.get? key) := by
  induction env generalizing root with
  | nil => rfl
  | cons pair env ih =>
    obtain ⟨name, raw⟩ := pair
    have plain := orderly.plain name List.mem_cons_self
    have stepped : (root.assign (lowercase name) (fromVariable raw)).Rooted := rooted.assign
    change (assignAll (root.assign (lowercase name) (fromVariable raw)) (environmentMembers env)).get? key = _
    rw [ih orderly.tail stepped, get?_assign_variable rooted plain]
    unfold Environment.get?
    rw [Node.lookup_cons]
    by_cases named : variableOf key = name
    · have alone : env.lookup (variableOf key) = none := by
        have absent : name ∉ env.map Prod.fst := (List.nodup_cons.mp orderly.once).1
        rw [Option.eq_none_iff_forall_ne_some]
        intro other found
        have member := (Node.lookup_eq_some orderly.tail.once).mp found
        exact absent (named ▸ List.mem_map_of_mem (f := Prod.fst) member)
      have lower : key = lowercase name := by rw [← named, lowercase_variableOf key known]
      rw [alone, if_pos lower, if_pos named]
      rfl
    · have other : key ≠ lowercase name := fun same =>
        named (orderly.upper name List.mem_cons_self key known same.symm).symm
      simp [named, other]

end Settings

end RouteQuote
