import RouteQuote.Proofs.Settings.Documents
import RouteQuote.Proofs.Settings.Load
import RouteQuote.Proofs.Settings.Values

namespace RouteQuote.Settings

open Text

section

variable {env : Environment} {file : Node} {name key raw : String} {base s : Settings}

-- Where the value of a setting comes from: what the text of the variable means, else what the value in the file is,
-- else the default.
inductive Sourced (env : Environment) (file : Node) (name key : String) (meant : String → α → Prop)
    (valued : Node → α → Prop) (absent : α) : α → Prop where
  | exported {raw : String} {a : α} (set : env.get? name = some raw) (means : meant raw a) :
      Sourced env file name key meant valued absent a
  | filed {n : Node} {a : α} (unset : env.get? name = none) (said : file.get? key = some n) (value : valued n a) :
      Sourced env file name key meant valued absent a
  | unsaid (unset : env.get? name = none) (missing : file.get? key = none) :
      Sourced env file name key meant valued absent absent

-- How a converter takes the values of files, and the texts of variables.
structure Converts (convert : Converter α) (meant : String → α → Prop) (valued : Node → α → Prop) : Prop where
  value : ∀ {key n a}, convert key n = .ok a ↔ valued n a
  text : ∀ {raw a}, valued (fromVariable raw) a ↔ meant raw a

theorem converts_flag : Converts Converter.flag SwitchWord SwitchValue where
  value := Converter.flag_eq_ok
  text := ⟨fun value => by cases value; assumption, .text⟩

theorem converts_natural : Converts Converter.natural NumberWord NumberValue where
  value := Converter.natural_eq_ok
  text := ⟨fun value => by cases value; assumption, .text⟩

theorem converts_text : Converts Converter.text Eq TextValue where
  value := Converter.text_eq_ok
  text {raw} := ⟨fun value => by cases value; rfl, fun same => same ▸ .text raw⟩

theorem converts_optionalText : Converts (Converter.optional Converter.text) (fun raw level => level = some raw)
    (OptionalValue TextValue) where
  value := Converter.optional_eq_ok Converter.text_eq_ok nofun
  text {raw level} := by
    constructor
    · intro value
      cases value with
      | there said =>
        cases said
        rfl
    · rintro rfl
      exact .there (.text raw)

-- The text of a variable is no table, whatever it is.
theorem converts_texts : Converts (Converter.optional Converter.texts) (fun _ _ => False) (OptionalValue TextsValue) where
  value := Converter.optional_eq_ok Converter.texts_eq_ok nofun
  text := by
    refine iff_of_false (fun value => ?_) id
    cases value with
    | there said => cases said

theorem converts_chainIds : Converts Converter.chainIds (fun raw ids => Input.chainList raw = .ok ids) ChainsValue where
  value := Converter.chainIds_eq_ok
  text := ⟨fun value => by cases value; assumption, .text⟩

theorem sourced_iff {convert : Converter α} {meant : String → α → Prop} {valued : Node → α → Prop} {absent a : α}
    (converts : Converts convert meant valued) (orderly : Orderly env) (rooted : file.Rooted)
    (known : key ∈ settingKeys := by decide) (named : variableOf key = name := by decide) :
    member (assignAll file (environmentMembers env)) key convert absent = .ok a ↔
      Sourced env file name key meant valued absent a := by
  unfold member
  rw [get?_environment orderly rooted known, named]
  constructor
  · intro read
    cases set : env.get? name with
    | some raw =>
      rw [set] at read
      exact .exported set (converts.text.mp (converts.value.mp read))
    | none =>
      rw [set] at read
      cases said : file.get? key with
      | some n =>
        rw [said] at read
        exact .filed set said (converts.value.mp read)
      | none =>
        rw [said] at read
        cases read
        exact .unsaid set said
  · intro sourced
    cases sourced with
    | exported set means => simpa [set] using converts.value.mpr (converts.text.mpr means)
    | filed unset said value => simpa [unset, said] using converts.value.mpr value
    | unsaid unset missing => simp [unset, missing]

-- What settings have to do with the environment and with the file beneath it.
structure Follows (env : Environment) (file : Node) (s : Settings) : Prop where
  debug : Sourced env file "DEBUG" "debug" SwitchWord SwitchValue false s.debug
  logJson : Sourced env file "LOG_JSON" "log_json" SwitchWord SwitchValue false s.logJson
  logLevel : Sourced env file "LOG_LEVEL" "log_level" (fun raw level => level = some raw) (OptionalValue TextValue)
    none s.logLevel
  chains : Sourced env file "CHAINS" "chains" (fun raw ids => Input.chainList raw = .ok ids) ChainsValue
    [42161, 43114] s.chains
  some : s.chains ≠ []
  rpcUrls : Sourced env file "RPC_URLS" "rpc_urls" (fun _ _ => False) (OptionalValue TextsValue) none s.rpcUrls
  routers : Sourced env file "ROUTER_ADDRESSES" "router_addresses" (fun _ _ => False) (OptionalValue TextsValue) none
    s.routerAddresses
  natives : Sourced env file "NATIVE_TOKENS" "native_tokens" (fun _ _ => False) (OptionalValue TextsValue) none
    s.nativeTokens
  -- An address is read also where a port takes its place.
  bind : ∃ said, Sourced env file "HTTP_BIND" "http_bind" Eq TextValue "0.0.0.0:3000" said ∧
    BoundFrom env said s.httpBind
  deadline : Sourced env file "DEFAULT_DEADLINE_SECS" "default_deadline_secs" NumberWord NumberValue 600 s.deadlineSecs

theorem follows_completed (orderly : Orderly env) (rooted : file.Rooted)
    (read : ofNode (assignAll file (environmentMembers env)) = .ok base) (done : completed env base = .ok s) :
    Follows env file s := by
  have said := ofNode_eq_ok.mp read
  obtain ⟨ids, bind, chains, bound, some, rfl⟩ := completed_eq_ok.mp done
  constructor
  case debug => exact (sourced_iff converts_flag orderly rooted).mp said.debug
  case logJson => exact (sourced_iff converts_flag orderly rooted).mp said.logJson
  case logLevel => exact (sourced_iff converts_optionalText orderly rooted).mp said.logLevel
  case rpcUrls => exact (sourced_iff converts_texts orderly rooted).mp said.rpcUrls
  case routers => exact (sourced_iff converts_texts orderly rooted).mp said.routerAddresses
  case natives => exact (sourced_iff converts_texts orderly rooted).mp said.nativeTokens
  case bind => exact ⟨_, (sourced_iff converts_text orderly rooted).mp said.httpBind, bound⟩
  case deadline => exact (sourced_iff converts_natural orderly rooted).mp said.deadlineSecs
  case some => exact some
  case chains =>
    cases chains with
    | kept => exact (sourced_iff converts_chainIds orderly rooted).mp said.chains
    | listed set _ list => exact .exported set list

-- Where a variable lists the chains, they are what it lists already.
theorem chainsFrom_sourced (filled : ∀ raw, env.get? "CHAINS" = some raw → trimmed raw ≠ "") {ids absent : List ChainId}
    {valued : Node → List ChainId → Prop}
    (sourced : Sourced env file "CHAINS" key (fun raw ids => Input.chainList raw = .ok ids) valued absent ids) :
    ChainsFrom env ids ids := by
  cases sourced with
  | exported set list => exact .listed set (filled _ set) list
  | filed unset | unsaid unset => exact .kept fun raw set => nomatch unset.symm.trans set

theorem completed_follows (orderly : Orderly env) (rooted : file.Rooted)
    (filled : ∀ raw, env.get? "CHAINS" = some raw → trimmed raw ≠ "") (follows : Follows env file s) :
    ∃ base, ofNode (assignAll file (environmentMembers env)) = .ok base ∧ completed env base = .ok s := by
  obtain ⟨bind, said, bound⟩ := follows.bind
  refine ⟨{ s with httpBind := bind }, ofNode_eq_ok.mpr ?_, ?_⟩
  · constructor
    case debug => exact (sourced_iff converts_flag orderly rooted).mpr follows.debug
    case logJson => exact (sourced_iff converts_flag orderly rooted).mpr follows.logJson
    case logLevel => exact (sourced_iff converts_optionalText orderly rooted).mpr follows.logLevel
    case chains => exact (sourced_iff converts_chainIds orderly rooted).mpr follows.chains
    case rpcUrls => exact (sourced_iff converts_texts orderly rooted).mpr follows.rpcUrls
    case routerAddresses => exact (sourced_iff converts_texts orderly rooted).mpr follows.routers
    case nativeTokens => exact (sourced_iff converts_texts orderly rooted).mpr follows.natives
    case httpBind => exact (sourced_iff converts_text orderly rooted).mpr said
    case deadlineSecs => exact (sourced_iff converts_natural orderly rooted).mpr follows.deadline
  · have chains := chainsFrom_sourced filled follows.chains
    exact completed_eq_ok.mpr ⟨s.chains, s.httpBind, chains, bound, follows.some, rfl⟩

theorem completed_port (set : env.get? "PORT" = some raw) (filled : trimmed raw ≠ "")
    (none : ∀ n, IsUnsigned (trimmed raw).toList n → UInt16.size ≤ n) : completed env base ≠ .ok s := by
  intro done
  obtain ⟨_, _, _, bound, _⟩ := completed_eq_ok.mp done
  cases bound with
  | kept blank => exact filled (blank raw set)
  | port other _ number small =>
    cases set.symm.trans other
    exact absurd small (Nat.not_lt.mpr (none _ number))

theorem completed_chains (set : env.get? "CHAINS" = some raw) (filled : trimmed raw ≠ "")
    (none : ∀ ids, Input.chainList raw ≠ .ok ids) : completed env base ≠ .ok s := by
  intro done
  obtain ⟨_, _, chains, _⟩ := completed_eq_ok.mp done
  cases chains with
  | kept blank => exact filled (blank raw set)
  | listed other _ list =>
    cases set.symm.trans other
    exact none _ list

theorem load_refused {documents : Documents} {files : Files} {directory : String} {path : Option String}
    (never : ∀ base s, completed (environment env files) base ≠ .ok s) :
    ∃ fault, load documents env files directory path = .error (.config fault) := by
  cases said : load documents env files directory path with
  | ok s =>
    obtain ⟨base, _, done⟩ := load_eq_ok.mp said
    exact absurd done (never base s)
  | error e =>
    obtain ⟨fault, rfl⟩ := load_fails said
    exact ⟨fault, rfl⟩

end

theorem load_precedence (documents : Documents) (env : Environment) (files : Files) (directory : String)
    (path : Option String) (orderly : Orderly (environment env files))
    (filled : ∀ raw, (environment env files).get? "CHAINS" = some raw → trimmed raw ≠ "") :
    (∀ s, load documents env files directory path = .ok s ↔ ∃ asked name members,
      AsksFor path (environment env files) asked ∧ FileSays documents files asked name members ∧
        Follows (environment env files) (fileLayer name members) s) ∧
    (∀ name members, Lays members (fileLayer name members)) ∧
    (∀ raw, (environment env files).get? "PORT" = some raw → trimmed raw ≠ "" →
      (∀ n, IsUnsigned (trimmed raw).toList n → UInt16.size ≤ n) →
      ∃ fault, load documents env files directory path = .error (.config fault)) ∧
    ∀ raw, (environment env files).get? "CHAINS" = some raw → (∀ ids, Input.chainList raw ≠ .ok ids) →
      ∃ fault, load documents env files directory path = .error (.config fault) := by
  refine ⟨?_, lays_fileLayer, ?_, ?_⟩
  · intro s
    constructor
    · intro passed
      obtain ⟨base, layers, done⟩ := load_eq_ok.mp passed
      obtain ⟨nodes, found, read⟩ := Except.bind_eq_ok.mp layers
      obtain ⟨name, members, stated, rfl⟩ := fileMembers_eq_ok.mp found
      exact ⟨_, name, members, configPath?_eq.mp rfl, stated,
        follows_completed orderly (rooted_fileLayer name members) read done⟩
    · rintro ⟨asked, name, members, asks, stated, follows⟩
      obtain ⟨base, read, done⟩ := completed_follows orderly (rooted_fileLayer name members) filled follows
      rw [← configPath?_eq.mpr asks] at stated
      exact load_eq_ok.mpr ⟨base, Except.bind_eq_ok.mpr ⟨_, fileMembers_eq_ok.mpr ⟨name, members, stated, rfl⟩, read⟩,
        done⟩
  · intro raw set some none
    apply load_refused
    intro base s
    exact completed_port set some none
  · intro raw set none
    apply load_refused
    intro base s
    exact completed_chains set (filled raw set) none

-- A file, and an environment that has something else to say about the chains and about where to listen.
def servedFiles : Files := [("config.toml", "chains = [1]\nlog_json = true\nhttp_bind = \"localhost:2\"\n")]

def servedEnv (port : String) : Environment :=
  [("CHAINS", "10, 8453"), ("DEBUG", "yes"), ("HTTP_BIND", "localhost:1"), ("PORT", port)]

theorem environment_served (env : Environment) : environment env servedFiles = env := environment_unassigned (by decide)

theorem orderly_served (port : String) : Orderly (servedEnv port) where
  once := by
    change (["CHAINS", "DEBUG", "HTTP_BIND", "PORT"] : List String).Nodup
    decide
  plain := by
    change ∀ name ∈ (["CHAINS", "DEBUG", "HTTP_BIND", "PORT"] : List String), '.' ∉ name.toList ∧ '[' ∉ name.toList
    decide
  upper := by
    change ∀ name ∈ (["CHAINS", "DEBUG", "HTTP_BIND", "PORT"] : List String), ∀ key ∈ settingKeys,
      lowercase name = key → name = variableOf key
    decide +kernel

theorem filled_served (port : String) :
    ∀ raw, (servedEnv port).get? "CHAINS" = some raw → trimmed raw ≠ "" := by
  intro raw set
  change some "10, 8453" = some raw at set
  cases set
  decide

theorem load_precedence_served :
    (∃ asked name members, AsksFor none (servedEnv " 8080 ") asked ∧
      FileSays Format.read servedFiles asked name members ∧ Follows (servedEnv " 8080 ") (fileLayer name members)
        { debug := true, logJson := true, chains := [10, 8453], httpBind := "0.0.0.0:8080" }) ∧
    ∃ fault, load Format.read (servedEnv "65536") servedFiles "." none = .error (.config fault) := by
  have precedence := fun port => load_precedence Format.read (servedEnv port) servedFiles "." none
  simp only [environment_served] at precedence
  constructor
  · obtain ⟨passes, -, -, -⟩ := precedence " 8080 " (orderly_served _) (filled_served _)
    apply (passes _).mp
    decide +kernel
  · obtain ⟨-, -, refuses, -⟩ := precedence "65536" (orderly_served _) (filled_served _)
    have great : unsigned? UInt16.size (trimmed "65536").toList = none := by decide +kernel
    apply refuses "65536" rfl (by decide)
    intro n number
    by_contra small
    cases great.symm.trans (unsigned?_eq_some.mpr ⟨number, Nat.lt_of_not_le small⟩)

end RouteQuote.Settings
