import RouteQuote.Proofs.Settings.Documents
import RouteQuote.Proofs.Settings.Load

namespace RouteQuote

namespace Settings

open Text

variable {documents : Documents} {env : Environment} {files : Files} {directory wanted name key content old : String}
  {path : Option String} {format : Format} {members before after : List (String × Json)} {root : Node}
  {ids : List ChainId} {v w : Json} {s base : Settings}

-- What stands for those identifiers: a list of numbers, a text that lists them, or a number beyond the signed ones.
inductive Spelled : List ChainId → Json → Prop where
  | list {ids : List ChainId} : Spelled ids (.array (ids.map fun id => .int id.toNat))
  | text {ids : List ChainId} {raw : String} (listed : Input.chainList raw = .ok ids) : Spelled ids (.string raw)
  | single {id : ChainId} (great : Nat.pow 2 63 ≤ id.toNat) : Spelled [id] (.int id.toNat)

theorem spelled_joined {text : List Char} (joined : Input.Joined ids text) : Spelled ids (.string (String.ofList text)) :=
  .text (Input.chainList_joined joined)

theorem numberValues_ofItems (origin : String) (ids : List ChainId) :
    List.Forall₂ NumberValue (Node.ofItems origin (ids.map fun id => .int id.toNat)) ids := by
  induction ids with
  | nil => exact .nil
  | cons id ids ih => exact .cons (.int id) ih

theorem chainIds_spelled (spelled : Spelled ids v) (origin : String) :
    Converter.chainIds key (Node.ofJson origin v) = .ok ids := by
  apply Converter.chainIds_eq_ok.mpr
  cases spelled with
  | list => exact .list (numberValues_ofItems origin ids)
  | text listed => exact .text listed
  | single great => exact .single great

-- The complaint about a number that is not great enough.
def bareFault (n : Nat) : SourceFault :=
  .mismatch s!"integer `{n}`" "a sequence of chain ids or a string with comma-separated ids" "chains" none

theorem chainIds_bare {n : Nat} (small : n < Nat.pow 2 63) (origin : String) :
    Converter.chainIds "chains" (Node.ofJson origin (.int n)) = .error (bareFault n) := by
  have small : ¬ ((Nat.pow 2 63 : Int) ≤ n ∧ (n : Int).toNat < UInt64.size) :=
    fun bounds => Nat.not_le.mpr small (Int.ofNat_le.mp bounds.1)
  exact if_neg small

theorem overlay_spelled (spelled : Spelled ids v) (origin : String) (below : Node) :
    Node.overlay (Node.ofJson origin v) below = Node.ofJson origin v := by
  cases spelled <;> rfl

-- The files, with another content for one of them.
def rewritten (files : Files) (name content : String) : Files :=
  files.map fun file => (file.1, if file.1 = name then content else file.2)

theorem lookup_rewritten (files : Files) (name content key : String) : (rewritten files name content).lookup key =
    if key = name then (files.lookup key).map fun _ => content else files.lookup key := by
  induction files with
  | nil => simp [rewritten]
  | cons file files ih =>
    unfold rewritten at ih ⊢
    rw [List.map_cons, Node.lookup_cons, Node.lookup_cons, ih]
    by_cases here : key = file.1
    · subst here
      by_cases same : file.1 = name <;> simp [same]
    · simp [here]

theorem lookup_rewritten_self (there : files.lookup name = some old) :
    (rewritten files name content).lookup name = some content := by
  rw [lookup_rewritten, if_pos rfl, there]
  rfl

theorem lookup_rewritten_none (missing : files.lookup key = none) : (rewritten files name content).lookup key = none := by
  rw [lookup_rewritten, missing]
  split <;> rfl

theorem Found.rewritten (found : Found files wanted name format old) :
    Found (rewritten files name content) wanted name format content := by
  cases found with
  | whole there known => exact .whole (lookup_rewritten_self there) known
  | toml missing there => exact .toml (lookup_rewritten_none missing) (lookup_rewritten_self there)
  | json missing unsaid there =>
    exact .json (lookup_rewritten_none missing) (lookup_rewritten_none unsaid) (lookup_rewritten_self there)

-- The file with the assignments has no suffix that tells a format.
theorem Found.ne_assignments (found : Found files wanted name format old) : name ≠ ".env" := by
  intro same
  have last := congrArg (fun name : String => name.toList.getLast?) same
  cases found with
  | whole there ends =>
    obtain ⟨before, c, _, parts⟩ := ends
    cases format <;> simp [parts, Format.suffix] at last
  | toml | json => simp [String.toList_append] at last

theorem environment_rewritten (env : Environment) (found : Found files wanted name format old) :
    environment env (rewritten files name content) = environment env files := by
  unfold environment
  rw [lookup_rewritten, if_neg found.ne_assignments.symm]

-- The file that a load takes, with what it says beside the chains. No variable speaks of the chains.
structure ChainsFile (documents : Documents) (env : Environment) (files : Files) (directory : String)
    (path : Option String) where
  name : String
  format : Format
  content : String
  before : List (String × Json)
  after : List (String × Json)
  found : find files directory ((configPath? path (environment env files)).getD "config") = .ok (name, format, content)
  alone : ∀ member ∈ before ++ after, ¬ LeadsTo member.1 "chains"
  unset : ∀ pair ∈ environment env files, ¬ LeadsTo (lowercase pair.1) "chains"

namespace ChainsFile

variable (file : ChainsFile documents env files directory path)

-- A content that is the rest of the file and those chains.
def Says (content : String) (v : Json) : Prop :=
  documentOf documents file.format content = some (.object (file.before ++ ("chains", v) :: file.after))

def Silent (content : String) : Prop :=
  documentOf documents file.format content = some (.object (file.before ++ file.after))

instance : Decidable (file.Says content v) := inferInstanceAs (Decidable (_ = _))

instance : Decidable (file.Silent content) := inferInstanceAs (Decidable (_ = _))

def load (content : String) : Except Error Settings :=
  Settings.load documents env (rewritten files file.name content) directory path

def whole (members : List (String × Json)) : Node :=
  assignAll (assignAll .empty (Node.ofMembers file.name members)) (environmentMembers (environment env files))

theorem environment_eq (content : String) :
    environment env (rewritten files file.name content) = environment env files :=
  environment_rewritten env (find_eq_ok.mp file.found)

theorem layered_eq (read : documentOf documents file.format content = some (.object members)) :
    layered documents (environment env (rewritten files file.name content)) (rewritten files file.name content) directory
      path = ofNode (file.whole members) := by
  rw [file.environment_eq]
  unfold layered
  rw [fileMembers_found (find_eq_ok.mp file.found).rewritten, parseFile_eq_ok.mpr ⟨_, read, rfl⟩]
  rfl

theorem alike (v : Json) :
    AlikeButChains (file.whole (file.before ++ ("chains", v) :: file.after)) (file.whole (file.before ++ file.after)) := by
  intro key known other
  have plain : ∀ key ∈ settingKeys, key ≠ "chains" → ¬ LeadsTo "chains" key := by decide +kernel
  unfold whole
  refine get?_assignAll_congr (rooted_assignAll Node.rooted_empty) (rooted_assignAll Node.rooted_empty) ?_
  rw [ofMembers_append, ofMembers_append]
  exact get?_assignAll_drop Node.rooted_empty (plain key known other)

theorem chainsMember_eq (plain : ∀ below, Node.overlay (Node.ofJson file.name v) below = Node.ofJson file.name v) :
    chainsMember (file.whole (file.before ++ ("chains", v) :: file.after)) =
      Converter.chainIds "chains" (Node.ofJson file.name v) := by
  have behind : ∀ member ∈ Node.ofMembers file.name file.after, ¬ LeadsTo member.1 "chains" :=
    apart_ofMembers fun member there => file.alone member (List.mem_append_right _ there)
  have laid : (file.whole (file.before ++ ("chains", v) :: file.after)).get? "chains" =
      some (Node.ofJson file.name v) := by
    unfold whole
    rw [get?_assignAll_other (rooted_assignAll Node.rooted_empty) (apart_environment file.unset), ofMembers_append]
    exact get?_assignAll_last Node.rooted_empty (by decide) plain behind
  unfold chainsMember member
  rw [laid]

include file in
theorem chainsFrom_kept (before : List ChainId) : ChainsFrom (environment env files) before ids ↔ ids = before := by
  have unset : ∀ raw, (environment env files).get? "CHAINS" ≠ some raw := by
    intro raw set
    obtain ⟨earlier, later, parted, -⟩ := List.lookup_eq_some_iff.mp set
    have leads : LeadsTo (lowercase "CHAINS") "chains" := by decide +kernel
    refine file.unset ("CHAINS", raw) ?_ leads
    rw [parted]
    exact List.mem_append_right _ List.mem_cons_self
  constructor
  · intro from_
    cases from_ with
    | kept => rfl
    | listed set => exact absurd set (unset _)
  · rintro rfl
    exact .kept fun raw set => absurd set (unset raw)

-- What comes after the layers does not look at the chains, but that there are some.
include file in
theorem completed_listed (filled : ids ≠ []) (done : completed (environment env files) base = .ok s) :
    completed (environment env files) { base with chains := ids } = .ok { s with chains := ids } := by
  obtain ⟨_, bind, _, bound, _, rfl⟩ := completed_eq_ok.mp done
  exact completed_eq_ok.mpr ⟨ids, bind, (file.chainsFrom_kept _).mpr rfl, bound, filled, rfl⟩

theorem load_eq_ok (read : documentOf documents file.format content = some (.object members)) : file.load content = .ok s ↔
    ∃ base, ofNode (file.whole members) = .ok base ∧ completed (environment env files) base = .ok s := by
  unfold load
  rw [Settings.load_eq_ok, file.layered_eq read, file.environment_eq]

theorem load_same {one two : String} (said : Spelled ids v) (again : Spelled ids w) (first : file.Says one v)
    (second : file.Says two w) : file.load one = file.load two := by
  apply load_congr
  · rw [file.layered_eq first, file.layered_eq second]
    have alike : AlikeButChains (file.whole (file.before ++ ("chains", v) :: file.after))
        (file.whole (file.before ++ ("chains", w) :: file.after)) :=
      fun key known other => (file.alike v key known other).trans (file.alike w key known other).symm
    apply ofNode_congr alike
    rw [file.chainsMember_eq (overlay_spelled said _), file.chainsMember_eq (overlay_spelled again _),
      chainIds_spelled said, chainIds_spelled again]
  · intro s
    rw [file.environment_eq, file.environment_eq]

theorem load_listed (said : Spelled ids v) (first : file.Says content v) (passed : file.load content = .ok s) :
    s.chains = ids := by
  obtain ⟨base, read, done⟩ := (file.load_eq_ok first).mp passed
  have chains := (readAs_ofNode read).chains
  rw [file.chainsMember_eq (overlay_spelled said _), chainIds_spelled said] at chains
  obtain ⟨_, _, kept, _, _, rfl⟩ := completed_eq_ok.mp done
  exact ((file.chainsFrom_kept _).mp kept).trans (Except.ok.inj chains).symm

-- What the rest of the file comes to is kept.
theorem load_with (said : Spelled ids v) (filled : ids ≠ []) (first : file.Says content v)
    (rest : ofNode (file.whole (file.before ++ file.after)) = .ok base)
    (done : completed (environment env files) base = .ok s) : file.load content = .ok { s with chains := ids } := by
  refine (file.load_eq_ok first).mpr ⟨{ base with chains := ids }, ?_, file.completed_listed filled done⟩
  rw [ofNode_chains (file.alike v) rest, file.chainsMember_eq (overlay_spelled said _), chainIds_spelled said]
  rfl

theorem load_silent {silent : String} (said : Spelled ids v) (filled : ids ≠ []) (first : file.Says content v)
    (without : file.Silent silent) (passed : file.load silent = .ok s) :
    file.load content = .ok { s with chains := ids } := by
  obtain ⟨base, rest, done⟩ := (file.load_eq_ok without).mp passed
  exact file.load_with said filled first rest done

-- Neither the rest of the file nor a variable has anything to say.
structure Alone : Prop where
  unsaid : ∀ key ∈ settingKeys, ∀ member ∈ file.before ++ file.after, ¬ LeadsTo member.1 key
  unset : ∀ key ∈ settingKeys, ∀ pair ∈ environment env files, ¬ LeadsTo (lowercase pair.1) key
  port : ∀ raw, (environment env files).get? "PORT" = some raw → trimmed raw = ""

theorem ofNode_alone (alone : file.Alone) : ofNode (file.whole (file.before ++ file.after)) = .ok {} := by
  have unsaid : ∀ key ∈ settingKeys, (file.whole (file.before ++ file.after)).get? key = Node.empty.get? key := by
    intro key known
    unfold whole
    rw [get?_assignAll_other (rooted_assignAll Node.rooted_empty) (apart_environment (alone.unset key known)),
      get?_assignAll_other Node.rooted_empty (apart_ofMembers (alone.unsaid key known))]
  exact ofNode_congr (fun key known _ => unsaid key known) (member_congr (unsaid "chains" (by decide)))

theorem load_alone (alone : file.Alone) (said : Spelled ids v) (filled : ids ≠ []) (first : file.Says content v) :
    file.load content = .ok { chains := ids } := by
  have done : completed (environment env files) {} = .ok {} :=
    completed_eq_ok.mpr ⟨_, _, (file.chainsFrom_kept _).mpr rfl, .kept alone.port, by decide, rfl⟩
  exact file.load_with said filled first (file.ofNode_alone alone) done

theorem chainsMember_bare {n : Nat} (small : n < Nat.pow 2 63) :
    chainsMember (file.whole (file.before ++ ("chains", .int n) :: file.after)) = .error (bareFault n) := by
  rw [file.chainsMember_eq fun _ => rfl, chainIds_bare small]

theorem load_bare {n : Nat} (small : n < Nat.pow 2 63) (first : file.Says content (.int n)) : file.load content ≠ .ok s := by
  intro passed
  obtain ⟨base, read, _⟩ := (file.load_eq_ok first).mp passed
  cases (readAs_ofNode read).chains.symm.trans (file.chainsMember_bare small)

theorem load_bareFault {n : Nat} {silent : String} (small : n < Nat.pow 2 63) (first : file.Says content (.int n))
    (without : file.Silent silent) (passed : file.load silent = .ok s) :
    file.load content = .error (.config (.source (bareFault n))) := by
  obtain ⟨base, read, _⟩ := (file.load_eq_ok without).mp passed
  apply load_unread
  rw [file.layered_eq first, ofNode_chains (file.alike _) read, file.chainsMember_bare small]
  rfl

end ChainsFile

theorem load_chainSpellings (file : ChainsFile documents env files directory path) :
    (∀ ids text, Input.Joined ids text → Spelled ids (.string (String.ofList text))) ∧
    (∀ ids v w one two, Spelled ids v → Spelled ids w → file.Says one v → file.Says two w →
      file.load one = file.load two ∧ ∀ s, file.load one = .ok s → s.chains = ids) ∧
    (∀ ids v one silent s, Spelled ids v → ids ≠ [] → file.Says one v → file.Silent silent →
      file.load silent = .ok s → file.load one = .ok { s with chains := ids }) ∧
    (∀ ids v one, file.Alone → Spelled ids v → ids ≠ [] → file.Says one v → file.load one = .ok { chains := ids }) ∧
    ∀ (n : Nat) (one : String), n < Nat.pow 2 63 → file.Says one (.int n) → (∀ s, file.load one ≠ .ok s) ∧
      ∀ silent s, file.Silent silent → file.load silent = .ok s →
        file.load one = .error (.config (.source (bareFault n))) := by
  refine ⟨fun ids text => spelled_joined, ?_, ?_, ?_, ?_⟩
  · intro ids v w one two said again first second
    exact ⟨file.load_same said again first second, fun s => file.load_listed said first⟩
  · intro ids v one silent s said filled first without passed
    exact file.load_silent said filled first without passed
  · intro ids v one alone said filled first
    exact file.load_alone alone said filled first
  · intro n one small first
    exact ⟨fun s => file.load_bare small first, fun silent s => file.load_bareFault small first⟩

def debugFiles : Files := [("config.json", "\x7b\"debug\": true\x7d")]

def debugFile : ChainsFile Format.read [("PORT", "80")] debugFiles "." none where
  name := "config.json"
  format := .json
  content := "\x7b\"debug\": true\x7d"
  before := [("debug", .bool true)]
  after := []
  found := by decide +kernel
  alone := by decide
  unset := by decide +kernel

def debugWith (chains : String) : String := "\x7b\"debug\": true, \"chains\": " ++ chains ++ "\x7d"

-- Nothing but the chains is said.
def chainsOnly : ChainsFile Format.read [("HOME", "/")] [("config.toml", "")] "." none where
  name := "config.toml"
  format := .toml
  content := ""
  before := []
  after := []
  found := by decide +kernel
  alone := nofun
  unset := by decide +kernel

theorem alone_chainsOnly : chainsOnly.Alone where
  unsaid := fun _ _ => nofun
  unset := by decide +kernel
  port := by
    have unset : (environment [("HOME", "/")] [("config.toml", "")]).get? "PORT" = none := by decide +kernel
    exact fun raw set => nomatch unset.symm.trans set

-- The least number that is too great for a signed one, and smaller ones.
theorem load_chainSpellings_debug :
    chainsOnly.load "chains = \"10\"\n" = .ok { chains := [10] } ∧
    debugFile.load (debugWith "9223372036854775808") = debugFile.load (debugWith "\" 9223372036854775808,\"") ∧
    debugFile.load (debugWith "\"10 8453\"") = debugFile.load (debugWith "[10, 8453]") ∧
    debugFile.load (debugWith "[10, 8453]") = .ok { debug := true, chains := [10, 8453], httpBind := "0.0.0.0:80" } ∧
    debugFile.load (debugWith "10") = .error (.config (.source (bareFault 10))) := by
  obtain ⟨-, -, -, only, -⟩ := load_chainSpellings chainsOnly
  obtain ⟨-, alike, listed, -, bare⟩ := load_chainSpellings debugFile
  have silent : debugFile.Silent "\x7b\"debug\": true\x7d" := by decide +kernel
  have passed : debugFile.load "\x7b\"debug\": true\x7d" = .ok { debug := true, httpBind := "0.0.0.0:80" } := by
    decide +kernel
  have two : Spelled [10, 8453] (.array [.int 10, .int 8453]) := .list
  have said : debugFile.Says (debugWith "[10, 8453]") (.array [.int 10, .int 8453]) := by decide +kernel
  refine ⟨?_, ?_, ?_, ?_, ?_⟩
  · exact only [10] _ _ alone_chainsOnly (.text (by decide +kernel : Input.chainList "10" = .ok [10])) nofun
      (by decide +kernel)
  · have great : Spelled [9223372036854775808] (.int 9223372036854775808) :=
      @Spelled.single 9223372036854775808 (by decide)
    have text : Spelled [9223372036854775808] (.string " 9223372036854775808,") := .text (by decide +kernel)
    exact (alike _ _ _ _ _ great text (by decide +kernel) (by decide +kernel)).1
  · have text : Spelled [10, 8453] (.string "10 8453") := .text (by decide +kernel)
    exact (alike _ _ _ _ _ text two (by decide +kernel) said).1
  · exact listed _ _ _ _ _ two nofun said silent passed
  · exact (bare 10 _ (by decide) (by decide +kernel)).2 _ _ silent passed

theorem load_bareChain :
    load Format.read [] [("config.toml", "chains = [10]\n")] "." none = .ok { chains := [10] } ∧
    load Format.read [] [("config.toml", "chains = \"10\"\n")] "." none = .ok { chains := [10] } ∧
    load Format.read [] [("config.toml", "chains = 10\n")] "." none = .error (.config (.source (bareFault 10))) := by
  refine ⟨?_, ?_, ?_⟩ <;> decide +kernel

end Settings

end RouteQuote
