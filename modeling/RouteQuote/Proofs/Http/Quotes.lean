import Mathlib.Data.List.Forall2
import RouteQuote.Http.Service
import RouteQuote.Proofs.Json.QuoteText
import RouteQuote.Proofs.Sdk.BridgeQuote
import RouteQuote.Proofs.Text.Bytes

namespace RouteQuote

namespace Plan

-- A result that is only turned into another one is reached on the same way.
theorem run_map (backend : Backend σ) (encode : α → β) (plan : Plan α) (s : σ) :
    (plan >>= fun a => pure (encode a)).run backend s =
      ⟨(plan.run backend s).result.map encode, (plan.run backend s).events, (plan.run backend s).state⟩ := by
  induction plan generalizing s with
  | done a => rfl
  | fail e => rfl
  | note event next ih =>
    have later := ih s
    simp only [Bind.bind, Plan.bind, run] at later ⊢
    rw [later]
  | clock next ih =>
    have later := ih (backend.clock s).1 (backend.clock s).2
    simp only [Bind.bind, Plan.bind, run] at later ⊢
    rw [later]
  | ask router question next ih =>
    simp only [Bind.bind, Plan.bind, run]
    cases backend.answer router question s with
    | mk reply after =>
      cases reply with
      | error reason => rfl
      | ok answer =>
        have later := ih answer after
        simp only [Bind.bind] at later
        simp only [later]
  | askBoth router one two next ih =>
    simp only [Bind.bind, Plan.bind, run]
    cases backend.both router one two s with
    | mk joint after =>
      cases settled : joint.settle router with
      | error ended => rfl
      | ok answers =>
        have later := ih answers.1 answers.2 after
        simp only [Bind.bind] at later
        simp only [later]

end Plan

-- Whose fault an error is, as the status tells it.
structure Error.Blamed (e : Error) (status : Nat) : Prop where
  caller : status = 400 ↔ e.isClientError = true
  contract : status = 502 ↔ ∃ chain call fault, e = .contract chain call fault
  otherwise : e.isClientError = false → (∀ chain call fault, e ≠ .contract chain call fault) → status = 500

theorem Error.blamed_status (e : Error) : e.Blamed e.status := by
  cases e <;> constructor <;> simp [status, isClientError]

theorem Error.status_validation {e : Error} (code : e.code = "VALIDATION_ERROR") : e.status = 400 := by
  cases e <;> simp_all [Error.code, Error.status]

namespace Input

theorem chainId_code {field raw : String} {e : Error} (fails : chainId field raw = .error e) :
    e.code = "VALIDATION_ERROR" := by
  unfold chainId at fails
  dsimp only at fails
  split at fails
  · cases fails
  · cases fails
    rfl

theorem address_code {raw : String} {e : Error} (fails : address raw = .error e) : e.code = "VALIDATION_ERROR" := by
  unfold address at fails
  dsimp only at fails
  split at fails
  · cases fails
  · cases fails
    rfl

theorem amount_code {field raw : String} {e : Error} (fails : amount field raw = .error e) :
    e.code = "VALIDATION_ERROR" := by
  unfold amount at fails
  dsimp only at fails
  split at fails
  · cases fails
  · cases fails
    rfl

end Input

namespace Http

-- A path with a name in front and a segment for each value, escaped in any way.
def Requests (name : String) (values : List String) (path : List Char) : Prop :=
  ∃ segments, path = ['/'].intercalate ([] :: name.toList :: segments) ∧
    List.Forall₂ (fun segment value => Text.Escaped segment value.toList) segments values

-- Whatever the values are, there is a path that asks for them.
theorem requests_exist (name : String) (values : List String) : ∃ path, Requests name values path := by
  refine ⟨_, values.map fun value => Text.percentEncode value.toList, rfl, ?_⟩
  rw [List.forall₂_map_left_iff, List.forall₂_same]
  exact fun value _ => Text.escaped_percentEncode value.toList

def tokenText : String := "0x00000000000000000000000000000000000000a1"

-- The chain is escaped; the second token and the amount are no values.
def swapPath : List Char := "/swap/%31/0x00000000000000000000000000000000000000a1/nowhere/much".toList

def bridgePath : List Char :=
  "/bridge/1/10/0x00000000000000000000000000000000000000a1/0x00000000000000000000000000000000000000a1/0x64".toList

theorem swapPath_requests : Requests "swap" ["1", tokenText, "nowhere", "much"] swapPath := by
  refine ⟨["%31".toList, tokenText.toList, "nowhere".toList, "much".toList], by decide, ?_⟩
  have one : Text.Escaped ("%31".toList ++ []) "1".toList := .escape (.cons (x := 3) (y := 1) rfl rfl .nil) .nil
  exact .cons one (.cons (Text.escaped_plain (by decide)) (.cons (Text.escaped_plain (by decide))
    (.cons (Text.escaped_plain (by decide)) .nil)))

theorem bridgePath_requests : Requests "bridge" ["1", "10", tokenText, tokenText, "0x64"] bridgePath := by
  refine ⟨["1", "10", tokenText, tokenText, "0x64"].map String.toList, by decide, ?_⟩
  exact .cons (Text.escaped_plain (by decide)) (.cons (Text.escaped_plain (by decide))
    (.cons (Text.escaped_plain (by decide)) (.cons (Text.escaped_plain (by decide))
      (.cons (Text.escaped_plain (by decide)) .nil))))

theorem requests_split {name : String} {values : List String} {path : List Char} (requests : Requests name values path)
    (plain : '/' ∉ name.toList) : ∃ segments, Text.split '/' path = [] :: name.toList :: segments ∧
      List.Forall₂ (fun segment value => Text.Escaped segment value.toList) segments values := by
  obtain ⟨segments, rfl, escaped⟩ := requests
  refine ⟨segments, Text.split_intercalate (List.cons_ne_nil _ _) ?_, escaped⟩
  have whole : ∀ segment ∈ segments, '/' ∉ segment := by
    clear plain
    induction escaped with
    | nil => simp
    | cons first others ih => exact List.forall_mem_cons.mpr ⟨Text.escaped_unslashed first, ih⟩
  exact List.forall_mem_cons.mpr ⟨List.not_mem_nil, List.forall_mem_cons.mpr ⟨plain, whole⟩⟩

theorem decoded_escaped {segment : List Char} {value : String} (escaped : Text.Escaped segment value.toList)
    (name : String) : Route.decoded name segment = .ok value := by
  rw [Route.decoded, Text.utf8?_escaped escaped]

theorem isEmpty_escaped {segment : List Char} {value : String} (escaped : Text.Escaped segment value.toList)
    (filled : value ≠ "") : segment.isEmpty = false :=
  List.isEmpty_eq_false_iff.mpr (Text.escaped_nonempty escaped filled)

theorem ofPath_swap {chain tokenIn tokenOut amount : String} {path : List Char}
    (requests : Requests "swap" [chain, tokenIn, tokenOut, amount] path) (filled : amount ≠ "") (sdk : Sdk) :
    Task.ofPath sdk .get path = .carryOut (quote sdk (.swap chain tokenIn tokenOut amount)) := by
  obtain ⟨segments, cut, escaped⟩ := requests_split requests (by decide)
  rcases escaped with _ | ⟨first, _ | ⟨second, _ | ⟨third, _ | ⟨fourth, _ | _⟩⟩⟩⟩
  rename_i chainPart inPart outPart amountPart
  have route : Route.ofPath? path = some (.swap chainPart inPart outPart amountPart) := by
    simp only [Route.ofPath?, cut, List.map_cons, String.ofList_toList, isEmpty_escaped fourth filled]
    rfl
  simp only [Task.ofPath, route, Task.ofRoute, Route.decode, decoded_escaped first, decoded_escaped second,
    decoded_escaped third, decoded_escaped fourth]
  rfl

theorem ofPath_bridge {origin dest tokenIn tokenOut amount : String} {path : List Char}
    (requests : Requests "bridge" [origin, dest, tokenIn, tokenOut, amount] path) (filled : amount ≠ "") (sdk : Sdk) :
    Task.ofPath sdk .get path = .carryOut (quote sdk (.bridge origin dest tokenIn tokenOut amount)) := by
  obtain ⟨segments, cut, escaped⟩ := requests_split requests (by decide)
  rcases escaped with _ | ⟨first, _ | ⟨second, _ | ⟨third, _ | ⟨fourth, _ | ⟨fifth, _ | _⟩⟩⟩⟩⟩
  rename_i originPart destPart inPart outPart amountPart
  have route : Route.ofPath? path = some (.bridge originPart destPart inPart outPart amountPart) := by
    simp only [Route.ofPath?, cut, List.map_cons, String.ofList_toList, isEmpty_escaped fifth filled]
    rfl
  simp only [Task.ofPath, route, Task.ofRoute, Route.decode, decoded_escaped first, decoded_escaped second,
    decoded_escaped third, decoded_escaped fourth, decoded_escaped fifth]
  rfl

def problem : Except Error α → Option Error
  | .ok _ => none
  | .error e => some e

-- Of the problems of several values, the one that comes first in the path.
def firstProblem (problems : List (Option Error)) : Option Error := problems.findSome? id

-- The plan ends with the first problem, be it of the value that is read next or of a later one.
theorem lift_first {x : Except Error α} {problems : List (Option Error)} {e : Error} {next : α → Plan β}
    (first : firstProblem (problem x :: problems) = some e)
    (later : ∀ a, firstProblem problems = some e → next a = .fail e) : (Plan.ofExcept x >>= next) = .fail e := by
  cases x with
  | error e' =>
    cases first
    rfl
  | ok a => exact later a first

theorem problem_eq_some {x : Except Error α} {e : Error} : problem x = some e ↔ x = .error e := by
  cases x with
  | error e' => simp [problem]
  | ok a => simp [problem]

theorem firstProblem_none {x : Except Error α} {problems : List (Option Error)}
    (none : firstProblem (problem x :: problems) = none) : (∃ a, x = .ok a) ∧ firstProblem problems = .none := by
  cases x with
  | error e => cases none
  | ok a => exact ⟨⟨a, rfl⟩, none⟩

theorem firstProblem_mem {problems : List (Option Error)} {e : Error} (first : firstProblem problems = some e) :
    some e ∈ problems := by
  obtain ⟨found, member, same⟩ := List.exists_of_findSome?_eq_some first
  exact same ▸ member

section

variable {sdk : Sdk} {chain origin dest tokenIn tokenOut amount : String} {e : Error}

def swapProblems (chain tokenIn tokenOut amount : String) : List (Option Error) :=
  [problem (Input.chainId "chain" chain), problem (Input.address tokenIn), problem (Input.address tokenOut),
    problem (Input.amount "amount" amount)]

def bridgeProblems (origin dest tokenIn tokenOut amount : String) : List (Option Error) :=
  [problem (Input.chainId "fromChain" origin), problem (Input.chainId "toChain" dest), problem (Input.address tokenIn),
    problem (Input.address tokenOut), problem (Input.amount "amount" amount)]

theorem code_swapProblems (first : firstProblem (swapProblems chain tokenIn tokenOut amount) = some e) :
    e.code = "VALIDATION_ERROR" := by
  have member := firstProblem_mem first
  simp only [swapProblems, List.mem_cons, List.not_mem_nil, or_false] at member
  rcases member with bad | bad | bad | bad
  · exact Input.chainId_code (problem_eq_some.mp bad.symm)
  · exact Input.address_code (problem_eq_some.mp bad.symm)
  · exact Input.address_code (problem_eq_some.mp bad.symm)
  · exact Input.amount_code (problem_eq_some.mp bad.symm)

theorem code_bridgeProblems (first : firstProblem (bridgeProblems origin dest tokenIn tokenOut amount) = some e) :
    e.code = "VALIDATION_ERROR" := by
  have member := firstProblem_mem first
  simp only [bridgeProblems, List.mem_cons, List.not_mem_nil, or_false] at member
  rcases member with bad | bad | bad | bad | bad
  · exact Input.chainId_code (problem_eq_some.mp bad.symm)
  · exact Input.chainId_code (problem_eq_some.mp bad.symm)
  · exact Input.address_code (problem_eq_some.mp bad.symm)
  · exact Input.address_code (problem_eq_some.mp bad.symm)
  · exact Input.amount_code (problem_eq_some.mp bad.symm)

theorem quote_swap_fails (first : firstProblem (swapProblems chain tokenIn tokenOut amount) = some e) :
    quote sdk (.swap chain tokenIn tokenOut amount) = .fail e :=
  lift_first first fun _ first => lift_first first fun _ first => lift_first first fun _ first =>
    lift_first first fun _ none => nomatch none

theorem quote_bridge_fails (first : firstProblem (bridgeProblems origin dest tokenIn tokenOut amount) = some e) :
    quote sdk (.bridge origin dest tokenIn tokenOut amount) = .fail e :=
  lift_first first fun _ first => lift_first first fun _ first => lift_first first fun _ first =>
    lift_first first fun _ first => lift_first first fun _ none => nomatch none

theorem quote_swap_reads {c : ChainId} {i o : Address} {a : Amount} (chainRead : Input.chainId "chain" chain = .ok c)
    (inRead : Input.address tokenIn = .ok i) (outRead : Input.address tokenOut = .ok o)
    (amountRead : Input.amount "amount" amount = .ok a) :
    quote sdk (.swap chain tokenIn tokenOut amount) =
      sdk.swapQuote c i o a none >>= fun q => pure (Json.ofSwapQuote q) := by
  rw [quote, chainRead, inRead, outRead, amountRead]
  rfl

theorem quote_bridge_reads {c d : ChainId} {i o : Address} {a : Amount}
    (originRead : Input.chainId "fromChain" origin = .ok c) (destRead : Input.chainId "toChain" dest = .ok d)
    (inRead : Input.address tokenIn = .ok i) (outRead : Input.address tokenOut = .ok o)
    (amountRead : Input.amount "amount" amount = .ok a) :
    quote sdk (.bridge origin dest tokenIn tokenOut amount) =
      sdk.bridgeQuote c d i o a none >>= fun q => pure (Json.ofBridgeQuote q) := by
  rw [quote, originRead, destRead, inRead, outRead, amountRead]
  rfl

end

-- The body of an answer that tells an error: its code, its message as the text of a string, and the time.
def FailureBody (body : String) (code message : String) (time : UInt64) : Prop :=
  ∃ text, Json.Quoted text message ∧ body = String.ofList (Json.objectText [
    ("error", Json.inQuotes code.toList), ("message", text), ("timestamp", (toString time.toNat).toList)])

-- An error is told after what happened before it. For that the clock is read, and nobody is asked any more.
structure Reports (backend : Backend σ) (status : Nat) (code message : String) (before : List Event) (s : σ)
    (handled : Handled σ) : Prop where
  response : ∃ body, handled.response = ⟨status, some "application/json", none, body⟩ ∧
    FailureBody body code message (backend.clock s).1
  events : handled.events = before ++ [.clocked (backend.clock s).1]
  state : handled.state = (backend.clock s).2

-- The answer to values that cannot be read: nothing has happened before it.
def Rejects (backend : Backend σ) (e : Error) (s : σ) (handled : Handled σ) : Prop :=
  Reports backend 400 "VALIDATION_ERROR" e.message [] s handled

-- The answer is what the library says, and everything else is as the library leaves it.
structure Relays (backend : Backend σ) (write : α → List Char) (outcome : Outcome σ α) (handled : Handled σ) : Prop where
  quoted : ∀ q, outcome.result = .ok q → handled =
    ⟨⟨200, some "application/json", none, String.ofList (write q)⟩, outcome.events, outcome.state⟩
  failed : ∀ e, outcome.result = .error e → ∃ status, e.Blamed status ∧
    Reports backend status e.code e.message outcome.events outcome.state handled

section

variable {sdk : Sdk} {path : List Char} {e : Error}

theorem unescaped_code (e : Error) : Json.unescaped e.code.toList = true := by
  cases e <;> simp only [Error.code] <;> decide

theorem failureBody_ofError (time : UInt64) (e : Error) :
    FailureBody (Response.ofError time.toNat e).body e.code e.message time := by
  refine ⟨Json.stringText e.message, Json.quoted_stringText e.message, congrArg String.ofList ?_⟩
  rw [Json.text_object (by simp only [List.all_cons, List.all_nil]; decide), List.map_cons, Json.text,
    Json.stringText_plain (unescaped_code e)]
  rfl

theorem reports_error (backend : Backend σ) (before : List Event) (s : σ) (e : Error) :
    Reports backend e.status e.code e.message before s ⟨.ofError (backend.clock s).1.toNat e,
      before ++ [.clocked (backend.clock s).1], (backend.clock s).2⟩ :=
  ⟨⟨_, rfl, failureBody_ofError _ e⟩, rfl, rfl⟩

theorem handle_carryOut {plan : Plan Json} (task : Task.ofPath sdk .get path = .carryOut plan) (backend : Backend σ)
    (s : σ) : handle sdk backend .get path s = (Task.carryOut plan).run backend s := by
  unfold handle
  rw [task]
  rfl

theorem handle_rejects (task : Task.ofPath sdk .get path = .carryOut (.fail e)) (code : e.code = "VALIDATION_ERROR")
    (backend : Backend σ) (s : σ) : Rejects backend e s (handle sdk backend .get path s) := by
  have told := reports_error backend [] s e
  rw [code, Error.status_validation code] at told
  rw [handle_carryOut task]
  exact told

theorem handle_relays {plan : Plan α} {encode : α → Json} {write : α → List Char}
    (writes : ∀ q, (encode q).text = write q)
    (task : Task.ofPath sdk .get path = .carryOut (plan >>= fun q => pure (encode q))) (backend : Backend σ) (s : σ) :
    Relays backend write (plan.run backend s) (handle sdk backend .get path s) := by
  rw [handle_carryOut task, Task.run, Plan.run_map]
  constructor
  case quoted =>
    intro q said
    simp only [said, Except.map, Response.ofJson, Json.render, writes]
  case failed =>
    intro e said
    simp only [said, Except.map]
    exact ⟨e.status, e.blamed_status, reports_error backend _ _ e⟩

end

theorem quotes_served (sdk : Sdk) (backend : Backend σ) (s : σ) :
    (∀ chain tokenIn tokenOut amount path, Requests "swap" [chain, tokenIn, tokenOut, amount] path → amount ≠ "" →
      let handled := handle sdk backend .get path s
      (∀ e, firstProblem (swapProblems chain tokenIn tokenOut amount) = some e → Rejects backend e s handled) ∧
      (firstProblem (swapProblems chain tokenIn tokenOut amount) = none →
        ∃ c i o a, Input.chainId "chain" chain = .ok c ∧ Input.address tokenIn = .ok i ∧
          Input.address tokenOut = .ok o ∧ Input.amount "amount" amount = .ok a ∧
          Relays backend Json.swapQuoteText ((sdk.swapQuote c i o a none).run backend s) handled)) ∧
    (∀ origin dest tokenIn tokenOut amount path, Requests "bridge" [origin, dest, tokenIn, tokenOut, amount] path →
      amount ≠ "" →
      let handled := handle sdk backend .get path s
      (∀ e, firstProblem (bridgeProblems origin dest tokenIn tokenOut amount) = some e → Rejects backend e s handled) ∧
      (firstProblem (bridgeProblems origin dest tokenIn tokenOut amount) = none →
        ∃ c d i o a, Input.chainId "fromChain" origin = .ok c ∧ Input.chainId "toChain" dest = .ok d ∧
          Input.address tokenIn = .ok i ∧ Input.address tokenOut = .ok o ∧ Input.amount "amount" amount = .ok a ∧
          Relays backend Json.bridgeQuoteText ((sdk.bridgeQuote c d i o a none).run backend s) handled)) := by
  refine ⟨?_, ?_⟩
  · intro chain tokenIn tokenOut amount path requests filled handled
    have task := ofPath_swap requests filled sdk
    refine ⟨?_, ?_⟩
    · intro e first
      rw [quote_swap_fails first] at task
      exact handle_rejects task (code_swapProblems first) backend s
    · intro none
      obtain ⟨⟨c, chainRead⟩, none⟩ := firstProblem_none none
      obtain ⟨⟨i, inRead⟩, none⟩ := firstProblem_none none
      obtain ⟨⟨o, outRead⟩, none⟩ := firstProblem_none none
      obtain ⟨⟨a, amountRead⟩, _⟩ := firstProblem_none none
      rw [quote_swap_reads chainRead inRead outRead amountRead] at task
      exact ⟨c, i, o, a, chainRead, inRead, outRead, amountRead, handle_relays Json.text_ofSwapQuote task backend s⟩
  · intro origin dest tokenIn tokenOut amount path requests filled handled
    have task := ofPath_bridge requests filled sdk
    refine ⟨?_, ?_⟩
    · intro e first
      rw [quote_bridge_fails first] at task
      exact handle_rejects task (code_bridgeProblems first) backend s
    · intro none
      obtain ⟨⟨c, originRead⟩, none⟩ := firstProblem_none none
      obtain ⟨⟨d, destRead⟩, none⟩ := firstProblem_none none
      obtain ⟨⟨i, inRead⟩, none⟩ := firstProblem_none none
      obtain ⟨⟨o, outRead⟩, none⟩ := firstProblem_none none
      obtain ⟨⟨a, amountRead⟩, _⟩ := firstProblem_none none
      rw [quote_bridge_reads originRead destRead inRead outRead amountRead] at task
      exact ⟨c, d, i, o, a, originRead, destRead, inRead, outRead, amountRead,
        handle_relays Json.text_ofBridgeQuote task backend s⟩

theorem quotes_served_twoChains :
    Requests "swap" ["1", tokenText, "nowhere", "much"] swapPath ∧
    firstProblem (swapProblems "1" tokenText "nowhere" "much") = some (.invalidAddress "nowhere") ∧
    Rejects (Link.backend 1000) (.invalidAddress "nowhere") Sdk.twoLinks
      (handle Sdk.twoChains (Link.backend 1000) .get swapPath Sdk.twoLinks) ∧
    Requests "bridge" ["1", "10", tokenText, tokenText, "0x64"] bridgePath ∧
    firstProblem (bridgeProblems "1" "10" tokenText tokenText "0x64") = none ∧ ∃ quote,
      (handle Sdk.twoChains (Link.backend 1000) .get bridgePath Sdk.twoLinks).response =
        ⟨200, some "application/json", none, String.ofList (Json.bridgeQuoteText quote)⟩ ∧ quote.maxAmountOut = 75 := by
  obtain ⟨swaps, bridges⟩ := quotes_served Sdk.twoChains (Link.backend 1000) Sdk.twoLinks
  have bad : firstProblem (swapProblems "1" tokenText "nowhere" "much") = some (.invalidAddress "nowhere") := by
    decide +kernel
  have good : firstProblem (bridgeProblems "1" "10" tokenText tokenText "0x64") = none := by decide +kernel
  refine ⟨swapPath_requests, bad, (swaps _ _ _ _ _ swapPath_requests (by decide)).1 _ bad, bridgePath_requests, good, ?_⟩
  have token : (Input.address tokenText).toOption = some (.ofNat 0xA1) := by decide +kernel
  have amount : (Input.amount "amount" "0x64").toOption = some 100 := by decide +kernel
  obtain ⟨c, d, i, o, a, originRead, destRead, inRead, outRead, amountRead, relays⟩ :=
    (bridges _ _ _ _ _ _ bridgePath_requests (by decide)).2 good
  have same : i = o := Except.ok.inj (inRead.symm.trans outRead)
  rw [inRead] at token
  rw [amountRead] at amount
  cases originRead
  cases destRead
  cases same
  cases token
  cases amount
  exact ⟨_, congrArg Handled.response (relays.quoted _ rfl), rfl⟩

end Http

end RouteQuote
