import RouteQuote.Proofs.Settings.Connect
import RouteQuote.Proofs.Settings.Layers

namespace RouteQuote.Settings

open Text

variable {documents : Documents} {env : Environment} {files : Files} {directory wanted name key content : String}
  {format : Format} {path asked : Option String} {origin : Option String} {members before after : List (String × Json)}
  {v : Json}

-- The path that is asked for: the one that is given, else the one in the environment.
inductive AsksFor (path : Option String) (env : Environment) : Option String → Prop where
  | given {raw : String} (said : path = some raw) (filled : trimmed raw ≠ "") : AsksFor path env (some (trimmed raw))
  | exported {raw : String} (ungiven : ∀ raw, path = some raw → trimmed raw = "")
      (set : env.get? "SYNAPSE_CONFIG" = some raw) (filled : trimmed raw ≠ "") : AsksFor path env (some (trimmed raw))
  | nothing (ungiven : ∀ raw, path = some raw → trimmed raw = "")
      (blank : ∀ raw, env.get? "SYNAPSE_CONFIG" = some raw → trimmed raw = "") : AsksFor path env none

theorem configPath?_ungiven (ungiven : ∀ raw, path = some raw → trimmed raw = "") :
    configPath? path env = env.nonBlank? "SYNAPSE_CONFIG" := by
  unfold configPath?
  cases path with
  | none => rfl
  | some raw => simp [ungiven raw rfl]

theorem configPath?_given {raw : String} (filled : trimmed raw ≠ "") :
    configPath? (some raw) env = some (trimmed raw) := by
  simp [configPath?, filled]

theorem configPath?_eq : configPath? path env = asked ↔ AsksFor path env asked := by
  constructor
  · rintro rfl
    by_cases given : ∃ raw, path = some raw ∧ trimmed raw ≠ ""
    · obtain ⟨raw, rfl, filled⟩ := given
      rw [configPath?_given filled]
      exact .given rfl filled
    · have ungiven : ∀ raw, path = some raw → trimmed raw = "" := by simpa using given
      rw [configPath?_ungiven ungiven]
      cases set : env.nonBlank? "SYNAPSE_CONFIG" with
      | none => exact .nothing ungiven (Environment.nonBlank?_eq_none.mp set)
      | some asked =>
        obtain ⟨raw, there, filled, rfl⟩ := Environment.nonBlank?_eq_some.mp set
        exact .exported ungiven there filled
  · intro asks
    cases asks with
    | given said filled => rw [said, configPath?_given filled]
    | exported ungiven set filled =>
      rw [configPath?_ungiven ungiven, Environment.nonBlank?_eq_some.mpr ⟨_, set, filled, rfl⟩]
    | nothing ungiven blank => rw [configPath?_ungiven ungiven, Environment.nonBlank?_eq_none.mpr blank]

-- The last part of a path, and what stands in front of it.
theorem exists_lastPart (s : List Char) : ∃ front part, s = front ++ part ∧ '/' ∉ part ∧
    (∀ c, front.getLast? = some c → c = '/') ∧ (split '/' s).getLast? = some part := by
  by_cases slashed : '/' ∈ s
  · obtain ⟨part, front, reversed, whole⟩ := List.eq_append_cons_of_mem (List.mem_reverse.mpr slashed)
    have cut : s = front.reverse ++ '/' :: part.reverse := by
      rw [← List.reverse_reverse s, reversed]
      simp
    have whole : '/' ∉ part.reverse := fun there => whole (List.mem_reverse.mp there)
    obtain ⟨first, others, parts⟩ := split_behind whole front.reverse
    refine ⟨front.reverse ++ ['/'], part.reverse, by simp [cut], whole, ?_, ?_⟩
    · intro c last
      rw [List.getLast?_concat] at last
      exact (Option.some.inj last).symm
    · rw [cut, parts, List.getLast?_concat]
  · exact ⟨[], s, rfl, slashed, nofun, by rw [split_part slashed]; rfl⟩

-- A name that ends in a dot and the suffix, where something stands before the dot in the last part of the path.
def EndsIn (name suffix : String) : Prop :=
  ∃ before c, c ≠ '/' ∧ name.toList = before ++ c :: '.' :: suffix.toList

theorem suffix?_eq_some {suffix : String} (flat : '/' ∉ suffix.toList) (plain : '.' ∉ suffix.toList) :
    suffix? name = some suffix ↔ EndsIn name suffix := by
  obtain ⟨front, part, cut, whole, slash, last⟩ := exists_lastPart name.toList
  unfold suffix? EndsIn
  rw [last, Option.getD_some, cut]
  constructor
  · intro found
    dsimp only at found
    split at found
    · rename_i reversed stem parted
      split at found
      · cases found
      rename_i filled
      cases found
      obtain ⟨same, _⟩ := splitOnce_eq_some.mp parted
      cases stem with
      | nil => exact absurd rfl filled
      | cons c stem =>
        have part_eq : part = stem.reverse ++ c :: '.' :: reversed.reverse := by
          rw [← List.reverse_reverse part, same]
          simp
        refine ⟨front ++ stem.reverse, c, ?_, ?_⟩
        · rintro rfl
          exact whole (part_eq ▸ List.mem_append_right _ List.mem_cons_self)
        · rw [part_eq, String.toList_ofList, List.append_assoc]
    · cases found
  · rintro ⟨before, c, noSlash, same⟩
    have tail : '/' ∉ c :: '.' :: suffix.toList :=
      List.not_mem_cons_of_ne_of_not_mem (Ne.symm noSlash) (List.not_mem_cons_of_ne_of_not_mem (by decide) flat)
    have inside : ∃ stem, part = stem ++ c :: '.' :: suffix.toList := by
      rcases List.append_eq_append_iff.mp same with ⟨stem, _, said⟩ | ⟨rest, inFront, said⟩
      · exact ⟨stem, said⟩
      · -- What stands in front of the last part ends in a slash, which the tail does not hold.
        rcases rest.eq_nil_or_concat with rfl | ⟨rest, d, rfl⟩
        · exact ⟨[], said.symm⟩
        · obtain rfl := slash d (by simp [inFront])
          exact absurd (said ▸ by simp) tail
    obtain ⟨stem, rfl⟩ := inside
    have parted : splitOnce '.' (stem ++ c :: '.' :: suffix.toList).reverse =
        some (suffix.toList.reverse, c :: stem.reverse) :=
      splitOnce_eq_some.mpr ⟨by simp, fun there => plain (List.mem_reverse.mp there)⟩
    simp only [parted, List.isEmpty_cons, Bool.false_eq_true, if_false, List.reverse_reverse, String.ofList_toList]

-- The ways to find a file: by its name, or by its name without the suffix.
inductive Found (files : Files) (wanted : String) : String → Format → String → Prop where
  | whole {format : Format} {content : String} (there : files.lookup wanted = some content)
      (ends : EndsIn wanted format.suffix) : Found files wanted wanted format content
  | toml {content : String} (missing : files.lookup wanted = none)
      (there : files.lookup (wanted ++ ".toml") = some content) : Found files wanted (wanted ++ ".toml") .toml content
  | json {content : String} (missing : files.lookup wanted = none)
      (unsaid : files.lookup (wanted ++ ".toml") = none) (there : files.lookup (wanted ++ ".json") = some content) :
      Found files wanted (wanted ++ ".json") .json content

theorem withSuffix_eq (name : String) (format : Format) : withSuffix name format = name ++ ("." ++ format.suffix) :=
  String.append_assoc

theorem format_eq_some : (formats.find? fun format => suffix? wanted = some format.suffix) = some format ↔
    EndsIn wanted format.suffix := by
  have flat : '/' ∉ format.suffix.toList := by cases format <;> decide
  have plain : '.' ∉ format.suffix.toList := by cases format <;> decide
  rw [← suffix?_eq_some flat plain]
  constructor
  · intro found
    simpa using List.find?_some found
  · intro ends
    simp only [ends]
    cases format <;> rfl

theorem find_eq_ok : find files directory wanted = .ok (name, format, content) ↔
    Found files wanted name format content := by
  unfold find
  constructor
  · intro found
    cases there : files.lookup wanted with
    | some content =>
      simp only [there] at found
      split at found
      · rename_i known
        cases found
        exact .whole there (format_eq_some.mp known)
      · cases found
    | none =>
      simp only [there, formats, List.findSome?_cons, List.findSome?_nil, withSuffix_eq] at found
      cases toml : files.lookup (wanted ++ ("." ++ Format.toml.suffix)) with
      | some content =>
        simp only [toml, Option.map_some] at found
        cases found
        exact .toml there toml
      | none =>
        simp only [toml, Option.map_none] at found
        cases json : files.lookup (wanted ++ ("." ++ Format.json.suffix)) with
        | some content =>
          simp only [json, Option.map_some] at found
          cases found
          exact .json there toml json
        | none =>
          simp only [json, Option.map_none] at found
          cases found
  · intro found
    cases found with
    | whole there ends => simp only [there, format_eq_some.mpr ends]
    | toml missing there => simp [missing, there, formats, withSuffix_eq, Format.suffix]
    | json missing unsaid there => simp [missing, unsaid, there, formats, withSuffix_eq, Format.suffix]

def documentOf (documents : Documents) (format : Format) (content : String) : Option Json :=
  documents format (String.ofList (Environment.withoutByteOrderMark content.toList))

theorem parseFile_eq_ok {members : List (String × Node)} : parseFile documents name format content = .ok members ↔
    ∃ said, documentOf documents format content = some (.object said) ∧ members = Node.ofMembers name said := by
  unfold parseFile documentOf
  split
  · rename_i said read
    rw [read]
    constructor
    · intro same
      exact ⟨said, rfl, (Except.ok.inj same).symm⟩
    · rintro ⟨_, same, rfl⟩
      cases same
      rfl
  · rename_i other
    exact iff_of_false nofun fun ⟨said, read, _⟩ => other said read

theorem fileMembers_found (found : Found files (asked.getD "config") name format content) :
    fileMembers documents files directory asked = parseFile documents name format content := by
  have found : find files directory (asked.getD "config") = .ok (name, format, content) := find_eq_ok.mpr found
  unfold fileMembers
  cases asked with
  | none =>
    simp only [Option.getD_none] at found
    simp only [found]
  | some path =>
    simp only [Option.getD_some] at found
    simp only [found]
    rfl

-- What the file that is asked for says; a file that nobody asked for may be missing.
inductive FileSays (documents : Documents) (files : Files) (asked : Option String) :
    String → List (String × Json) → Prop where
  | read {name content : String} {format : Format} {members : List (String × Json)}
      (found : Found files (asked.getD "config") name format content)
      (document : documentOf documents format content = some (.object members)) :
      FileSays documents files asked name members
  | missing (unasked : asked = none) (missing : ∀ name format content, ¬ Found files "config" name format content) :
      FileSays documents files asked "config" []

theorem fileMembers_eq_ok {nodes : List (String × Node)} : fileMembers documents files directory asked = .ok nodes ↔
    ∃ name members, FileSays documents files asked name members ∧ nodes = Node.ofMembers name members := by
  by_cases there : ∃ name format content, Found files (asked.getD "config") name format content
  · obtain ⟨name, format, content, found⟩ := there
    rw [fileMembers_found found, parseFile_eq_ok]
    constructor
    · rintro ⟨members, document, rfl⟩
      exact ⟨name, members, .read found document, rfl⟩
    · rintro ⟨_, _, said, rfl⟩
      cases said with
      | read other document =>
        have one : find files directory (asked.getD "config") = _ := find_eq_ok.mpr found
        cases one.symm.trans (find_eq_ok.mpr other)
        exact ⟨_, document, rfl⟩
      | missing unasked missing =>
        subst unasked
        exact absurd found (missing _ _ _)
  · have missing : ∀ name format content, ¬ Found files (asked.getD "config") name format content :=
      fun name format content found => there ⟨name, format, content, found⟩
    cases said : find files directory (asked.getD "config") with
    | ok found => exact absurd (find_eq_ok.mp said) (missing _ _ _)
    | error fault =>
      unfold fileMembers
      cases asked with
      | none =>
        simp only [Option.getD_none] at said
        simp only [said]
        constructor
        · intro same
          exact ⟨_, _, .missing rfl missing, (Except.ok.inj same).symm⟩
        · rintro ⟨_, _, stated, rfl⟩
          cases stated with
          | read found => exact absurd found (missing _ _ _)
          | missing => rfl
      | some path =>
        simp only [Option.getD_some] at said
        simp only [said]
        constructor
        · intro same
          cases same
        · rintro ⟨_, _, stated, _⟩
          cases stated with
          | read found => exact absurd found (missing _ _ _)
          | missing unasked => cases unasked

-- A value of a document as it stands among the layers.
inductive Shows : Json → Node → Prop where
  | scalar {origin : Option String} {v : Json} (noArray : ∀ items, v ≠ .array items)
      (noObject : ∀ members, v ≠ .object members) : Shows v (.leaf origin v)
  | array {origin : Option String} {items : List Json} {nodes : List Node} (each : List.Forall₂ Shows items nodes) :
      Shows (.array items) (.list origin nodes)
  | object {origin : Option String} {members : List (String × Json)} {nodes : List (String × Node)}
      (names : members.map Prod.fst = nodes.map Prod.fst)
      (each : List.Forall₂ Shows (members.map Prod.snd) (nodes.map Prod.snd)) :
      Shows (.object members) (.table origin nodes)

-- No object repeats a name, nor does one of its members.
inductive Unrepeated : Json → Prop where
  | other {v : Json} (noObject : ∀ members, v ≠ .object members) : Unrepeated v
  | object {members : List (String × Json)} (once : (members.map Prod.fst).Nodup)
      (each : ∀ member ∈ members, Unrepeated member.2) : Unrepeated (.object members)

theorem ofMembers_eq_map (origin : String) (members : List (String × Json)) :
    Node.ofMembers origin members = members.map fun member => (member.1, Node.ofJson origin member.2) := by
  induction members with
  | nil => rfl
  | cons member members ih => rw [Node.ofMembers, ih, List.map_cons]

theorem ofMembers_append (origin : String) (members more : List (String × Json)) :
    Node.ofMembers origin (members ++ more) = Node.ofMembers origin members ++ Node.ofMembers origin more := by
  simp [ofMembers_eq_map]

mutual

theorem shows_ofJson (origin : String) : (v : Json) → Shows v (Node.ofJson origin v)
  | .null | .bool _ | .int _ | .float _ | .string _ => .scalar nofun nofun
  | .array items => .array (shows_ofItems origin items)
  | .object members => .object (by simp [ofMembers_eq_map, Function.comp_def]) (shows_ofMembers origin members)

theorem shows_ofItems (origin : String) : (items : List Json) → List.Forall₂ Shows items (Node.ofItems origin items)
  | [] => .nil
  | item :: rest => .cons (shows_ofJson origin item) (shows_ofItems origin rest)

theorem shows_ofMembers (origin : String) : (members : List (String × Json)) →
    List.Forall₂ Shows (members.map Prod.snd) ((Node.ofMembers origin members).map Prod.snd)
  | [] => .nil
  | (_, value) :: rest => .cons (shows_ofJson origin value) (shows_ofMembers origin rest)

end

theorem put_new {value : Node} {nodes : List (String × Node)} (new : key ∉ nodes.map Prod.fst) :
    Node.put key value nodes = nodes ++ [(key, value)] := by
  induction nodes with
  | nil => rfl
  | cons node nodes ih =>
    obtain ⟨name, other⟩ := node
    rw [List.map_cons, List.mem_cons, not_or] at new
    rw [Node.put, if_neg (Ne.symm new.1), ih new.2, List.cons_append]

-- By induction on the members: each is put behind those that are there, since none of them has its name.
theorem overlayMembers_new (source : String) {members : List (String × Json)} {nodes : List (String × Node)}
    (once : (members.map Prod.fst).Nodup) (apart : ∀ member ∈ members, member.1 ∉ nodes.map Prod.fst) :
    Node.overlayMembers (Node.ofMembers source members) (.table origin nodes) = .table origin (nodes ++
      members.map fun member => (member.1, Node.overlay (Node.ofJson source member.2) .null)) := by
  induction members generalizing nodes with
  | nil => simp [Node.ofMembers, Node.overlayMembers]
  | cons member members ih =>
    obtain ⟨name, value⟩ := member
    obtain ⟨here, later⟩ := List.forall_mem_cons.mp apart
    obtain ⟨alone, once⟩ := List.nodup_cons.mp once
    have missing : nodes.lookup name = none := by
      rw [List.lookup_eq_none_iff]
      intro node there
      rw [bne_iff_ne]
      rintro rfl
      exact here (List.mem_map_of_mem there)
    rw [Node.ofMembers, Node.overlayMembers, Node.change, Node.change, missing, put_new here, ih once]
    · simp
    · intro member there
      rw [List.map_append, List.mem_append, not_or]
      refine ⟨later member there, fun same => alone ?_⟩
      rw [List.map_singleton, List.mem_singleton] at same
      exact same ▸ List.mem_map_of_mem there

theorem overlay_other (source : String) (noObject : ∀ members, v ≠ .object members) (below : Node) :
    Node.overlay (Node.ofJson source v) below = Node.ofJson source v := by
  cases v with
  | object members => exact absurd rfl (noObject members)
  | _ => rfl

theorem shows_overlay (source : String) (unrepeated : Unrepeated v) :
    Shows v (Node.overlay (Node.ofJson source v) .null) := by
  induction unrepeated with
  | other noObject =>
    rw [overlay_other source noObject]
    exact shows_ofJson source _
  | @object members once each ih =>
    have laid : Node.overlay (Node.ofJson source (.object members)) .null = .table none (members.map fun member =>
        (member.1, Node.overlay (Node.ofJson source member.2) .null)) := overlayMembers_new source once nofun
    rw [laid]
    refine .object (by simp [Function.comp_def]) ?_
    rw [List.map_map, List.forall₂_map_left_iff, List.forall₂_map_right_iff, List.forall₂_same]
    exact ih

theorem apart_ofMembers {origin : String} (apart : ∀ member ∈ members, ¬ LeadsTo member.1 key) :
    ∀ member ∈ Node.ofMembers origin members, ¬ LeadsTo member.1 key := by
  intro member listed
  rw [ofMembers_eq_map] at listed
  obtain ⟨pair, there, rfl⟩ := List.mem_map.mp listed
  exact apart pair there

-- A name that is no path.
def Unmarked (name : String) : Prop := '.' ∉ name.toList ∧ '[' ∉ name.toList

-- The file beneath the variables.
def fileLayer (name : String) (members : List (String × Json)) : Node := assignAll .empty (Node.ofMembers name members)

-- What a setting finds in the file when nothing else in it has to do with the setting.
structure Lays (members : List (String × Json)) (file : Node) : Prop where
  missing : ∀ key ∈ settingKeys, (∀ member ∈ members, member.1 ≠ key ∧ Unmarked member.1) → file.get? key = none
  there : ∀ key ∈ settingKeys, ∀ before v after, members = before ++ (key, v) :: after →
    (∀ member ∈ before ++ after, member.1 ≠ key ∧ Unmarked member.1) → Unrepeated v →
      ∃ node, file.get? key = some node ∧ Shows v node

theorem rooted_fileLayer (name : String) (members : List (String × Json)) : (fileLayer name members).Rooted :=
  rooted_assignAll Node.rooted_empty

theorem apart_unmarked (other : name ≠ key) (unmarked : Unmarked name) : ¬ LeadsTo name key := by
  have plain : ∀ c ∈ name.toList, ¬ IsMark c := by
    rintro c member (rfl | rfl)
    · exact unmarked.1 member
    · exact unmarked.2 member
  rwa [leadsTo_plain plain]

theorem get?_fileLayer_missing (apart : ∀ member ∈ members, ¬ LeadsTo member.1 key) :
    (fileLayer name members).get? key = none :=
  get?_assignAll_other Node.rooted_empty (apart_ofMembers apart)

theorem get?_fileLayer (step : Step.ofName key = [.key key])
    (apart : ∀ member ∈ before ++ after, ¬ LeadsTo member.1 key) :
    (fileLayer name (before ++ (key, v) :: after)).get? key = some (Node.overlay (Node.ofJson name v) .null) := by
  have early : (fileLayer name before).get? key = none :=
    get?_fileLayer_missing fun member there => apart member (List.mem_append_left _ there)
  have late : ∀ member ∈ Node.ofMembers name after, ¬ LeadsTo member.1 key :=
    apart_ofMembers fun member there => apart member (List.mem_append_right _ there)
  have rooted := rooted_fileLayer name before
  unfold fileLayer at early rooted ⊢
  rw [ofMembers_append, assignAll_append]
  refine (get?_assignAll_other rooted.assign late).trans ?_
  rw [Node.assign, step, Node.get?_change rooted, if_pos rfl, early]
  rfl

theorem lays_fileLayer (name : String) (members : List (String × Json)) : Lays members (fileLayer name members) where
  missing key _ apart := get?_fileLayer_missing fun member there =>
    apart_unmarked (apart member there).1 (apart member there).2
  there := by
    rintro key known before v after rfl apart unrepeated
    have step : ∀ key ∈ settingKeys, Step.ofName key = [.key key] := by decide
    refine ⟨_, get?_fileLayer (step key known) fun member there => ?_, shows_overlay name unrepeated⟩
    exact apart_unmarked (apart member there).1 (apart member there).2

end RouteQuote.Settings
