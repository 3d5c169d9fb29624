import RouteQuote.Proofs.Settings.Load

namespace RouteQuote

open Text

-- An environment, and the same one with one variable more, which is blank.
inductive Environment.Blanked (name : String) : Environment → Environment → Prop where
  | put {before after : Environment} {raw : String} (unset : Environment.get? (before ++ after) name = none)
      (blank : trimmed raw = "") : Blanked name (before ++ after) (before ++ (name, raw) :: after)

namespace Environment.Blanked

variable {name key : String} {one two : Environment}

theorem unset (blanked : Blanked name one two) : one.get? name = none := by
  cases blanked with
  | put unset => exact unset

theorem get?_other (blanked : Blanked name one two) (other : key ≠ name) : two.get? key = one.get? key := by
  cases blanked with
  | put =>
    unfold get?
    rw [List.lookup_append, List.lookup_append, Settings.Node.lookup_cons, if_neg other]

theorem get?_name (blanked : Blanked name one two) : ∃ raw, two.get? name = some raw ∧ trimmed raw = "" := by
  cases blanked with
  | @put before after raw unset blank =>
    unfold get? at unset ⊢
    rw [List.lookup_append, Option.or_eq_none_iff] at unset
    refine ⟨raw, ?_, blank⟩
    rw [List.lookup_append, unset.1, Settings.Node.lookup_cons, if_pos rfl]
    rfl

theorem blank (blanked : Blanked name one two) : ∀ raw, two.get? name = some raw → trimmed raw = "" := by
  obtain ⟨raw, set, blank⟩ := blanked.get?_name
  intro other same
  cases set.symm.trans same
  exact blank

theorem nonBlank? (blanked : Blanked name one two) (key : String) : two.nonBlank? key = one.nonBlank? key := by
  by_cases same : key = name
  · subst same
    obtain ⟨raw, set, blank⟩ := blanked.get?_name
    simp [Environment.nonBlank?, set, blanked.unset, blank]
  · simp [Environment.nonBlank?, blanked.get?_other same]

end Environment.Blanked

namespace Settings

variable {documents : Documents} {rule : UrlRule} {name key raw : String} {one two env : Environment} {root : Node}
  {base s : Settings} {files : Files} {directory : String} {path : Option String}

theorem configPath?_blanked (blanked : one.Blanked name two) : configPath? path two = configPath? path one := by
  unfold configPath?
  rw [blanked.nonBlank?]

theorem completed_blanked (blanked : one.Blanked name two) (s : Settings) : completed two s = completed one s := by
  have chains : ∀ s, withChainsOf two s = withChainsOf one s := by
    intro s
    unfold withChainsOf
    rw [blanked.nonBlank?]
  have port : ∀ s, withPortOf two s = withPortOf one s := by
    intro s
    unfold withPortOf
    rw [blanked.nonBlank?]
  unfold completed
  rw [chains, bind_congr port]

theorem rpcUrl_blanked (blanked : one.Blanked name two) (chain : ChainId) : s.rpcUrl two chain = s.rpcUrl one chain := by
  unfold rpcUrl
  rw [blanked.nonBlank?]

theorem connect_blanked (blanked : one.Blanked name two) : s.connect rule two = s.connect rule one := by
  have endpoint : ∀ chain ∈ s.chains, s.endpoint rule two chain = s.endpoint rule one chain := by
    intro chain _
    unfold Settings.endpoint
    rw [rpcUrl_blanked blanked]
  unfold connect Settings.endpoints
  rw [mapM_congr endpoint]

theorem get?_blanked (blanked : one.Blanked name two) (rooted : root.Rooted) (apart : ¬ LeadsTo (lowercase name) key) :
    (assignAll root (environmentMembers two)).get? key = (assignAll root (environmentMembers one)).get? key := by
  cases blanked with
  | put =>
    unfold environmentMembers
    rw [List.map_append, List.map_append]
    exact get?_assignAll_drop rooted apart

-- A blank variable that stands for no setting changes nothing at all.
theorem load_blanked (blanked : (environment one files).Blanked name (environment two files))
    (apart : ∀ key ∈ settingKeys, ¬ LeadsTo (lowercase name) key) :
    load documents two files directory path = load documents one files directory path := by
  apply load_congr
  · unfold layered
    rw [configPath?_blanked blanked]
    refine bind_congr fun members => ?_
    have same : ∀ key ∈ settingKeys,
        (assignAll (assignAll .empty members) (environmentMembers (environment two files))).get? key =
          (assignAll (assignAll .empty members) (environmentMembers (environment one files))).get? key :=
      fun key known => get?_blanked blanked (rooted_assignAll Node.rooted_empty) (apart key known)
    exact ofNode_congr (fun key known _ => same key known) (member_congr (same "chains" (by decide)))
  · exact completed_blanked blanked

theorem apart_port : ∀ key ∈ settingKeys, ¬ LeadsTo (lowercase "PORT") key := by decide +kernel

theorem lowercase_digit {c : Char} (digit : c.isDigit = true) {cased : Bool} {s : List Char} (member : c ∈ s) :
    c ∈ lowercaseAfter cased s := by
  induction s generalizing cased with
  | nil => cases member
  | cons d s ih =>
    rw [lowercaseAfter.eq_def]
    apply List.mem_append.mpr
    rcases List.mem_cons.mp member with rfl | later
    · have table : ∀ n : Fin 128, (Char.ofNat n).isDigit = true →
          Char.ofNat n ≠ 'İ' ∧ Char.ofNat n ≠ 'Σ' ∧ lowercaseChar (Char.ofNat n) = Char.ofNat n := by decide
      have ascii : c.toNat < 128 := by have range := digit_range digit; omega
      obtain ⟨dotted, sigma, lower⟩ : c ≠ 'İ' ∧ c ≠ 'Σ' ∧ lowercaseChar c = c := by
        simpa only [Char.ofNat_toNat] using table ⟨c.toNat, ascii⟩ (by simpa only [Char.ofNat_toNat] using digit)
      exact .inl (by simp [dotted, sigma, lower])
    · exact .inr (ih later)

-- The variable for a chain's endpoint has a number in its name, and no setting has.
theorem apart_urlVariable (chain : ChainId) : ∀ key ∈ settingKeys, ¬ LeadsTo (lowercase (urlVariable chain)) key := by
  intro key known leads
  have name : (urlVariable chain).toList = "rpc_url_".toList ++ Input.numeral chain :=
    String.toList_append
  have figures : ∀ c ∈ Input.numeral chain, c.isDigit = true := by
    rw [Input.numeral_eq]
    exact fun c => Nat.isDigit_of_mem_toDigits (by decide) (by decide)
  have plain : '.' ∉ (urlVariable chain).toList ∧ '[' ∉ (urlVariable chain).toList := by
    rw [name]
    constructor
    all_goals
      intro member
      rcases List.mem_append.mp member with front | figure
      · revert front
        decide
      · cases figures _ figure
  obtain ⟨c, rest, numeral⟩ := List.exists_cons_of_ne_nil (Input.numeral_ne_nil chain)
  have figure : c ∈ Input.numeral chain := numeral ▸ List.mem_cons_self
  have member : c ∈ (urlVariable chain).toList := name ▸ List.mem_append_right _ figure
  have kept : c ∈ (lowercase (urlVariable chain)).toList := by
    rw [lowercase, String.toList_ofList]
    exact lowercase_digit (figures c figure) member
  rw [(leadsTo_plain (unmarked_lowercase plain)).mp leads] at kept
  have none : ∀ key ∈ settingKeys, key.toList.all (!Char.isDigit ·) = true := by decide
  simpa [figures c figure] using List.all_eq_true.mp (none key known) c kept

-- Nothing is left of the chains beneath, unless a later variable stands for them too.
theorem chainsMember_blanked (blanked : one.Blanked "CHAINS" two) (rooted : root.Rooted)
    (alone : ∀ pair ∈ one, ¬ LeadsTo (lowercase pair.1) "chains") :
    chainsMember (assignAll root (environmentMembers two)) = .ok [] := by
  cases blanked with
  | @put before after raw unset blank =>
    have behind : ∀ member ∈ environmentMembers after, ¬ LeadsTo member.1 "chains" :=
      apart_environment fun pair there => alone pair (List.mem_append_right _ there)
    have lower : lowercase "CHAINS" = "chains" := by decide +kernel
    have parted : environmentMembers (before ++ ("CHAINS", raw) :: after) =
        environmentMembers before ++ ("chains", fromVariable raw) :: environmentMembers after := by
      rw [← lower]
      exact List.map_append
    unfold chainsMember member
    rw [parted, get?_assignAll_last rooted (by decide) (fun _ => rfl) behind]
    exact chainIds_variable.mpr (Input.chainList_blank blank)

theorem completed_noChains (blank : ∀ raw, env.get? "CHAINS" = some raw → trimmed raw = "")
    (done : completed env base = .ok s) : completed env { base with chains := [] } = .error .noChains := by
  obtain ⟨_, bind, _, bound, _⟩ := completed_eq_ok.mp done
  have chains : withChainsOf env { base with chains := [] } = .ok { base with chains := [] } :=
    withChainsOf_eq_ok.mpr ⟨[], .kept blank, rfl⟩
  have port : withPortOf env { base with chains := [] } = .ok { base with chains := [], httpBind := bind } :=
    withPortOf_eq_ok.mpr ⟨bind, bound, rfl⟩
  unfold completed
  rw [chains]
  change withPortOf env _ >>= _ = _
  rw [port]
  rfl

section

variable (blanked : (environment one files).Blanked "CHAINS" (environment two files))
  (alone : ∀ pair ∈ environment one files, ¬ LeadsTo (lowercase pair.1) "chains")

include blanked alone

theorem load_ne_ok_of_blank : load documents two files directory path ≠ .ok s := by
  intro passed
  obtain ⟨base, layers, done⟩ := load_eq_ok.mp passed
  obtain ⟨members, _, read⟩ := Except.bind_eq_ok.mp layers
  obtain ⟨ids, _, chains, _, filled, _⟩ := completed_eq_ok.mp done
  have rooted : (assignAll .empty members).Rooted := rooted_assignAll Node.rooted_empty
  have laid := chainsMember_blanked blanked rooted alone
  have none : base.chains = [] := Except.ok.inj ((readAs_ofNode read).chains.symm.trans laid)
  cases chains with
  | kept => exact filled none
  | listed set some => exact some (blanked.blank _ set)

theorem load_noChains_of_blank (passed : load documents one files directory path = .ok s) :
    load documents two files directory path = .error (.config .noChains) := by
  obtain ⟨base, layers, done⟩ := load_eq_ok.mp passed
  obtain ⟨members, found, read⟩ := Except.bind_eq_ok.mp layers
  have rooted : (assignAll .empty members).Rooted := rooted_assignAll Node.rooted_empty
  have alike : AlikeButChains (assignAll (assignAll .empty members) (environmentMembers (environment two files)))
      (assignAll (assignAll .empty members) (environmentMembers (environment one files))) := by
    intro key known other
    have apart : ∀ key ∈ settingKeys, key ≠ "chains" → ¬ LeadsTo (lowercase "CHAINS") key := by decide +kernel
    exact get?_blanked blanked rooted (apart key known other)
  have emptied : layered documents (environment two files) files directory path = .ok { base with chains := [] } := by
    unfold layered
    rw [configPath?_blanked blanked]
    refine Except.bind_eq_ok.mpr ⟨members, found, ?_⟩
    rw [ofNode_chains alike read, chainsMember_blanked blanked rooted alone]
    rfl
  rw [load_read emptied, completed_noChains blanked.blank ((completed_blanked blanked base).trans done)]
  rfl

end

theorem load_blankVariables (documents : Documents) (rule : UrlRule) (one two : Environment) (files : Files)
    (directory : String) (path : Option String) :
    ((environment one files).Blanked "PORT" (environment two files) →
      load documents two files directory path = load documents one files directory path) ∧
    (∀ chain, (environment one files).Blanked (urlVariable chain) (environment two files) →
      load documents two files directory path = load documents one files directory path ∧
        ∀ s : Settings, (∀ other, s.rpcUrl (environment two files) other = s.rpcUrl (environment one files) other) ∧
          s.connect rule (environment two files) = s.connect rule (environment one files)) ∧
    ((environment one files).Blanked "CHAINS" (environment two files) →
      (∀ pair ∈ environment one files, ¬ LeadsTo (lowercase pair.1) "chains") →
      (∀ s, load documents two files directory path ≠ .ok s) ∧
        ∀ s, load documents one files directory path = .ok s →
          load documents two files directory path = .error (.config .noChains)) := by
  refine ⟨?_, ?_, ?_⟩
  · intro blanked
    exact load_blanked blanked apart_port
  · intro chain blanked
    refine ⟨load_blanked blanked (apart_urlVariable chain), fun s => ⟨fun other => ?_, ?_⟩⟩
    · exact rpcUrl_blanked blanked other
    · exact connect_blanked blanked
  · intro blanked alone
    exact ⟨fun s => load_ne_ok_of_blank blanked alone, fun s => load_noChains_of_blank blanked alone⟩

def singleChain : Files := [("config.toml", "chains = [10]\n")]

theorem environment_singleChain (env : Environment) : environment env singleChain = env :=
  environment_unassigned (by decide)

theorem load_blankVariables_singleChain :
    load Format.read [("DEBUG", "1"), ("PORT", " ")] singleChain "." none =
      load Format.read [("DEBUG", "1")] singleChain "." none ∧
    load Format.read [("rpc_url_10", "\t"), ("DEBUG", "1")] singleChain "." none =
      load Format.read [("DEBUG", "1")] singleChain "." none ∧
    load Format.read [("CHAINS", "\u3000"), ("DEBUG", "1")] singleChain "." none = .error (.config .noChains) := by
  have blanks := fun two => load_blankVariables Format.read Url.rule [("DEBUG", "1")] two singleChain "." none
  simp only [environment_singleChain] at blanks
  refine ⟨?_, ?_, ?_⟩
  · obtain ⟨port, -, -⟩ := blanks [("DEBUG", "1"), ("PORT", " ")]
    exact port (@Environment.Blanked.put "PORT" [("DEBUG", "1")] [] " " (by decide) (by decide))
  · obtain ⟨-, url, -⟩ := blanks [("rpc_url_10", "\t"), ("DEBUG", "1")]
    exact (url 10 (@Environment.Blanked.put _ [] [("DEBUG", "1")] "\t" (by decide) (by decide))).1
  · obtain ⟨-, -, chains⟩ := blanks [("CHAINS", "\u3000"), ("DEBUG", "1")]
    have blanked := @Environment.Blanked.put "CHAINS" [] [("DEBUG", "1")] "\u3000" (by decide) (by decide)
    obtain ⟨-, emptied⟩ := chains blanked (by decide +kernel)
    exact emptied { debug := true, chains := [10] } (by decide +kernel)

-- Without the blank variable the chains of the file are taken.
theorem load_blankChains : load Format.read [] singleChain "." none = .ok { chains := [10] } ∧
    load Format.read [("CHAINS", " ")] singleChain "." none = .error (.config .noChains) := by
  constructor <;> decide +kernel

end Settings

end RouteQuote
