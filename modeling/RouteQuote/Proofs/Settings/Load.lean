import RouteQuote.Proofs.Input.ChainLists
import RouteQuote.Proofs.Settings.Connect
import RouteQuote.Proofs.Settings.Layers
import RouteQuote.Proofs.Settings.Values

namespace RouteQuote.Settings

open Text

variable {root one two : Node} {s base : Settings} {documents : Documents} {env : Environment} {files : Files}
  {directory : String} {path : Option String} {e : Error}

theorem member_congr {key : String} {convert : Converter α} {absent : α} (same : one.get? key = two.get? key) :
    member one key convert absent = member two key convert absent := by
  unfold member
  rw [same]

theorem chainIds_variable {key raw : String} {ids : List ChainId} :
    Converter.chainIds key (fromVariable raw) = .ok ids ↔ Input.chainList raw = .ok ids := by
  rw [Converter.chainIds_eq_ok]
  constructor
  · intro said
    cases said with
    | text listed => exact listed
  · exact .text

def chainsMember (root : Node) : Except SourceFault (List ChainId) :=
  member root "chains" Converter.chainIds Chain.defaultIds

-- Every setting is what its member says, or the default where there is no such member.
structure ReadAs (root : Node) (s : Settings) : Prop where
  debug : member root "debug" Converter.flag false = .ok s.debug
  logJson : member root "log_json" Converter.flag false = .ok s.logJson
  logLevel : member root "log_level" (Converter.optional Converter.text) none = .ok s.logLevel
  chains : chainsMember root = .ok s.chains
  rpcUrls : member root "rpc_urls" (Converter.optional Converter.texts) none = .ok s.rpcUrls
  routerAddresses : member root "router_addresses" (Converter.optional Converter.texts) none = .ok s.routerAddresses
  nativeTokens : member root "native_tokens" (Converter.optional Converter.texts) none = .ok s.nativeTokens
  httpBind : member root "http_bind" Converter.text ({} : Settings).httpBind = .ok s.httpBind
  deadlineSecs :
    member root "default_deadline_secs" Converter.natural Chain.defaultDeadlineSecs = .ok s.deadlineSecs

theorem readAs_ofNode (read : ofNode root = .ok s) : ReadAs root s := by
  unfold ofNode at read
  obtain ⟨debug, readDebug, read⟩ := Except.bind_eq_ok.mp read
  obtain ⟨logJson, readLogJson, read⟩ := Except.bind_eq_ok.mp read
  obtain ⟨logLevel, readLogLevel, read⟩ := Except.bind_eq_ok.mp read
  obtain ⟨chains, readChains, read⟩ := Except.bind_eq_ok.mp read
  obtain ⟨rpcUrls, readRpcUrls, read⟩ := Except.bind_eq_ok.mp read
  obtain ⟨routers, readRouters, read⟩ := Except.bind_eq_ok.mp read
  obtain ⟨natives, readNatives, read⟩ := Except.bind_eq_ok.mp read
  obtain ⟨httpBind, readHttpBind, read⟩ := Except.bind_eq_ok.mp read
  obtain ⟨deadline, readDeadline, read⟩ := Except.bind_eq_ok.mp read
  cases read
  exact ⟨readDebug, readLogJson, readLogLevel, readChains, readRpcUrls, readRouters, readNatives, readHttpBind,
    readDeadline⟩

-- What is read when the chains come from elsewhere than from their member.
def readWith (root : Node) (chains : Except SourceFault (List ChainId)) : Except SourceFault Settings := do
  return {
    debug := ← member root "debug" Converter.flag false
    logJson := ← member root "log_json" Converter.flag false
    logLevel := ← member root "log_level" (Converter.optional Converter.text) none
    chains := ← chains
    rpcUrls := ← member root "rpc_urls" (Converter.optional Converter.texts) none
    routerAddresses := ← member root "router_addresses" (Converter.optional Converter.texts) none
    nativeTokens := ← member root "native_tokens" (Converter.optional Converter.texts) none
    httpBind := ← member root "http_bind" Converter.text ({} : Settings).httpBind
    deadlineSecs := ← member root "default_deadline_secs" Converter.natural Chain.defaultDeadlineSecs }

theorem ofNode_eq (root : Node) : ofNode root = readWith root (chainsMember root) := rfl

theorem readWith_readAs (said : ReadAs root s) (chains : Except SourceFault (List ChainId)) :
    readWith root chains = (fun ids => { s with chains := ids }) <$> chains := by
  unfold readWith
  rw [said.debug, said.logJson, said.logLevel, said.rpcUrls, said.routerAddresses, said.nativeTokens, said.httpBind,
    said.deadlineSecs]
  cases chains <;> rfl

theorem ofNode_eq_ok : ofNode root = .ok s ↔ ReadAs root s := by
  constructor
  · exact readAs_ofNode
  · intro said
    rw [ofNode_eq, readWith_readAs said, said.chains]
    rfl

-- Two wholes that are alike but for the chains.
def AlikeButChains (one two : Node) : Prop := ∀ key ∈ settingKeys, key ≠ "chains" → one.get? key = two.get? key

theorem AlikeButChains.read (alike : AlikeButChains one two) (key : String) {convert : Converter α} {absent : α}
    (known : key ∈ settingKeys := by decide) (other : key ≠ "chains" := by decide) :
    member one key convert absent = member two key convert absent :=
  member_congr (alike key known other)

theorem readWith_congr (alike : AlikeButChains one two) (chains : Except SourceFault (List ChainId)) :
    readWith one chains = readWith two chains := by
  unfold readWith
  rw [alike.read "debug", alike.read "log_json", alike.read "log_level", alike.read "rpc_urls",
    alike.read "router_addresses", alike.read "native_tokens", alike.read "http_bind",
    alike.read "default_deadline_secs"]

theorem ofNode_congr (alike : AlikeButChains one two) (chains : chainsMember one = chainsMember two) :
    ofNode one = ofNode two := by
  rw [ofNode_eq, ofNode_eq, chains, readWith_congr alike]

-- With everything else in order, the chains alone decide what is read.
theorem ofNode_chains (alike : AlikeButChains one two) (read : ofNode two = .ok s) :
    ofNode one = (fun ids => { s with chains := ids }) <$> chainsMember one := by
  rw [ofNode_eq, readWith_congr alike, readWith_readAs (readAs_ofNode read)]

-- The chains after the variable for them had its say.
inductive ChainsFrom (env : Environment) (before : List ChainId) : List ChainId → Prop where
  | kept (blank : ∀ raw, env.get? "CHAINS" = some raw → trimmed raw = "") : ChainsFrom env before before
  | listed {raw : String} {ids : List ChainId} (set : env.get? "CHAINS" = some raw) (filled : trimmed raw ≠ "")
      (read : Input.chainList raw = .ok ids) : ChainsFrom env before ids

-- The address to listen at after the variable for the port had its say.
inductive BoundFrom (env : Environment) (before : String) : String → Prop where
  | kept (blank : ∀ raw, env.get? "PORT" = some raw → trimmed raw = "") : BoundFrom env before before
  | port {raw : String} {n : Nat} (set : env.get? "PORT" = some raw) (filled : trimmed raw ≠ "")
      (number : IsUnsigned (trimmed raw).toList n) (small : n < UInt16.size) : BoundFrom env before s!"0.0.0.0:{n}"

theorem withChainsOf_eq_ok : withChainsOf env base = .ok s ↔
    ∃ ids, ChainsFrom env base.chains ids ∧ s = { base with chains := ids } := by
  unfold withChainsOf
  cases said : env.nonBlank? "CHAINS" with
  | none =>
    have blank := Environment.nonBlank?_eq_none.mp said
    constructor
    · intro same
      exact ⟨base.chains, .kept blank, (Except.ok.inj same).symm⟩
    · rintro ⟨ids, from_, rfl⟩
      cases from_ with
      | kept => rfl
      | listed set filled => exact absurd (blank _ set) filled
  | some text =>
    obtain ⟨raw, set, filled, rfl⟩ := Environment.nonBlank?_eq_some.mp said
    simp only [Input.chainList_trimmed, Except.bind_eq_ok]
    constructor
    · rintro ⟨ids, read, same⟩
      exact ⟨ids, .listed set filled read, (Except.ok.inj same).symm⟩
    · rintro ⟨ids, from_, rfl⟩
      cases from_ with
      | kept blank => exact absurd (blank raw set) filled
      | listed other _ read =>
        cases set.symm.trans other
        exact ⟨ids, read, rfl⟩

theorem withPortOf_eq_ok : withPortOf env base = .ok s ↔
    ∃ bind, BoundFrom env base.httpBind bind ∧ s = { base with httpBind := bind } := by
  unfold withPortOf
  cases said : env.nonBlank? "PORT" with
  | none =>
    have blank := Environment.nonBlank?_eq_none.mp said
    constructor
    · intro same
      exact ⟨base.httpBind, .kept blank, (Except.ok.inj same).symm⟩
    · rintro ⟨bind, from_, rfl⟩
      cases from_ with
      | kept => rfl
      | port set filled => exact absurd (blank _ set) filled
  | some text =>
    obtain ⟨raw, set, filled, rfl⟩ := Environment.nonBlank?_eq_some.mp said
    constructor
    · intro same
      cases number : unsigned? UInt16.size (trimmed raw).toList with
      | none =>
        simp only [number] at same
        cases same
      | some n =>
        obtain ⟨digits, small⟩ := unsigned?_eq_some.mp number
        simp only [number] at same
        exact ⟨_, .port set filled digits small, (Except.ok.inj same).symm⟩
    · rintro ⟨bind, from_, rfl⟩
      cases from_ with
      | kept blank => exact absurd (blank raw set) filled
      | port other _ digits small =>
        cases set.symm.trans other
        simp only [unsigned?_eq_some.mpr ⟨digits, small⟩]

theorem requireChains_eq_ok : requireChains base = .ok s ↔ base.chains ≠ [] ∧ s = base := by
  unfold requireChains
  cases base.chains with
  | nil => exact iff_of_false nofun fun said => absurd rfl said.1
  | cons chain chains => exact ⟨fun same => ⟨nofun, (Except.ok.inj same).symm⟩, fun said => said.2 ▸ rfl⟩

-- What follows once the layers are read.
def completed (env : Environment) (s : Settings) : Except ConfigFault Settings :=
  withChainsOf env s >>= withPortOf env >>= requireChains

theorem completed_eq_ok : completed env base = .ok s ↔ ∃ ids bind, ChainsFrom env base.chains ids ∧
    BoundFrom env base.httpBind bind ∧ ids ≠ [] ∧ s = { base with chains := ids, httpBind := bind } := by
  unfold completed
  simp only [Except.bind_eq_ok, withChainsOf_eq_ok, withPortOf_eq_ok, requireChains_eq_ok]
  constructor
  · rintro ⟨_, ⟨_, ⟨ids, chains, rfl⟩, bind, bound, rfl⟩, some, rfl⟩
    exact ⟨ids, bind, chains, bound, some, rfl⟩
  · rintro ⟨ids, bind, chains, bound, some, rfl⟩
    exact ⟨_, ⟨_, ⟨ids, chains, rfl⟩, bind, bound, rfl⟩, some, rfl⟩

theorem environment_unassigned (none : files.lookup ".env" = none) : environment env files = env := by
  unfold environment
  rw [none]

theorem load_unread {fault : SourceFault}
    (failed : layered documents (environment env files) files directory path = .error fault) :
    load documents env files directory path = .error (.config (.source fault)) := by
  unfold load
  simp only [failed]
  rfl

theorem load_read (read : layered documents (environment env files) files directory path = .ok base) :
    load documents env files directory path = (completed (environment env files) base).mapError .config := by
  have rest : (.ok base >>= withChainsOf (environment env files) >>= withPortOf (environment env files) >>=
      requireChains) = completed (environment env files) base := rfl
  unfold load
  simp only [read, rest]
  cases completed (environment env files) base <;> rfl

theorem load_eq_ok : load documents env files directory path = .ok s ↔ ∃ base,
    layered documents (environment env files) files directory path = .ok base ∧
      completed (environment env files) base = .ok s := by
  cases said : layered documents (environment env files) files directory path with
  | error fault => simp [load_unread said]
  | ok base =>
    rw [load_read said]
    cases done : completed (environment env files) base <;> simp [done, Except.mapError]

theorem load_fails (failed : load documents env files directory path = .error e) : ∃ fault, e = .config fault := by
  cases said : layered documents (environment env files) files directory path with
  | error fault =>
    cases failed.symm.trans (load_unread said)
    exact ⟨_, rfl⟩
  | ok base =>
    rw [load_read said] at failed
    cases done : completed (environment env files) base with
    | ok s =>
      rw [done] at failed
      cases failed
    | error fault =>
      rw [done] at failed
      cases failed
      exact ⟨_, rfl⟩

-- A load is decided by what the layers hold, and by the variables that come after them.
theorem load_congr {other : Environment} {otherFiles : Files}
    (layers : layered documents (environment env files) files directory path =
      layered documents (environment other otherFiles) otherFiles directory path)
    (rest : ∀ s, completed (environment env files) s = completed (environment other otherFiles) s) :
    load documents env files directory path = load documents other otherFiles directory path := by
  cases said : layered documents (environment other otherFiles) otherFiles directory path with
  | error fault => rw [load_unread said, load_unread (layers.trans said)]
  | ok base => rw [load_read said, load_read (layers.trans said), rest]

end RouteQuote.Settings
