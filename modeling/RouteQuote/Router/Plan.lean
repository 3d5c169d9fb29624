import RouteQuote.Error
import RouteQuote.Router.Read

namespace RouteQuote

inductive Event where
  | clocked (now : UInt64)
  | asked (router : Router) (read : Read)
  | refused (router : Router) (read : Read) (reason : String)
  | routeless (origin dest : ChainId) (candidates : Nat)
  | selected (origin dest : ChainId) (symbol : String) (maxAmountOut feeAmount : Amount)
deriving DecidableEq, Repr

-- A computation that reads the clock and puts questions to routers: it says what comes next, and how to go on with
-- what was read or answered. A question that is not answered ends it. Two questions may be put to a router together.
inductive Plan (α : Type) where
  | done (a : α)
  | fail (e : Error)
  | note (event : Event) (next : Plan α)
  | clock (next : UInt64 → Plan α)
  | ask (router : Router) (read : Read) (next : read.Answer → Plan α)
  | askBoth (router : Router) (one two : Read) (next : one.Answer → two.Answer → Plan α)

namespace Plan

def bind : Plan α → (α → Plan β) → Plan β
  | .done a, f => f a
  | .fail e, _ => .fail e
  | .note event next, f => .note event (next.bind f)
  | .clock next, f => .clock fun now => (next now).bind f
  | .ask router read next, f => .ask router read fun answer => (next answer).bind f
  | .askBoth router one two next, f => .askBoth router one two fun first second => (next first second).bind f

instance : Monad Plan where
  pure := .done
  bind := .bind

def ofExcept : Except Error α → Plan α
  | .ok a => .done a
  | .error e => .fail e

instance : MonadLift (Except Error) Plan := ⟨ofExcept⟩

def now : Plan UInt64 := .clock .done

def read (router : Router) (question : Read) : Plan question.Answer := .ask router question .done

def readBoth (router : Router) (one two : Read) : Plan (one.Answer × two.Answer) :=
  .askBoth router one two fun first second => .done (first, second)

def emit (event : Event) : Plan Unit := .note event (.done ())

end Plan

-- How two questions that are put together overlap: the first is over with before the second is put, or both are on
-- their way and the first or the second comes back before the other.
inductive Timing where
  | atOnce
  | firstBack
  | secondBack
deriving DecidableEq, Repr

-- Routers that answer, or say why they do not, and a clock; what they answer and what it shows may depend on what
-- happened before.
structure Backend (σ : Type) where
  answer : Router → (question : Read) → σ → Except String question.Answer × σ
  timing : Router → Read → Read → σ → Timing
  clock : σ → UInt64 × σ

-- What becomes of two questions put together. A first question that is refused at once keeps the second from being
-- put; otherwise the refusal that comes back first counts, and the other question is given up.
inductive Joint (one two : Read) where
  | answered (first : one.Answer) (second : two.Answer)
  | barred (reason : String)
  | firstRefused (reason : String) (second : Except String two.Answer)
  | secondRefused (first : Except String one.Answer) (reason : String)

def Joint.ofReplies (timing : Timing) (first : Except String one.Answer) (second : Except String two.Answer) :
    Joint one two :=
  match first, second with
  | .ok a, .ok b => .answered a b
  | .ok a, .error reason => .secondRefused (.ok a) reason
  | .error reason, .ok b => .firstRefused reason (.ok b)
  | .error one, .error two =>
    if timing = .secondBack then .secondRefused (.error one) two else .firstRefused one (.error two)

def Backend.both (backend : Backend σ) (router : Router) (one two : Read) (s : σ) : Joint one two × σ :=
  let timing := backend.timing router one two s
  match backend.answer router one s, timing with
  | (.error reason, s), .atOnce => (.barred reason, s)
  | (first, s), timing =>
    let (second, s) := backend.answer router two s
    (.ofReplies timing first second, s)

def Plan.refusal (router : Router) (question : Read) (reason : String) : Error :=
  .contract router.chainId question.call (.refused reason)

-- Both answers, or the error that the plan ends with and what happened before it did.
def Joint.settle (router : Router) : Joint one two → Except (Error × List Event) (one.Answer × two.Answer)
  | .answered first second => .ok (first, second)
  | .barred reason =>
    .error (Plan.refusal router one reason, [.asked router one, .refused router one reason])
  | .firstRefused reason _ =>
    .error (Plan.refusal router one reason, [.asked router one, .asked router two, .refused router one reason])
  | .secondRefused _ reason =>
    .error (Plan.refusal router two reason, [.asked router one, .asked router two, .refused router two reason])

-- How a plan ended, what happened, and the state the routers were left in.
structure Outcome (σ α : Type) where
  result : Except Error α
  events : List Event
  state : σ

namespace Plan

def run (backend : Backend σ) : Plan α → σ → Outcome σ α
  | .done a, s => ⟨.ok a, [], s⟩
  | .fail e, s => ⟨.error e, [], s⟩
  | .note event next, s =>
    let rest := next.run backend s
    { rest with events := event :: rest.events }
  | .clock next, s =>
    let (now, s) := backend.clock s
    let rest := (next now).run backend s
    { rest with events := .clocked now :: rest.events }
  | .ask router question next, s =>
    match backend.answer router question s with
    | (.ok answer, s) =>
      let rest := (next answer).run backend s
      { rest with events := .asked router question :: rest.events }
    | (.error reason, s) =>
      ⟨.error (refusal router question reason), [.asked router question, .refused router question reason], s⟩
  | .askBoth router one two next, s =>
    let (joint, s) := backend.both router one two s
    match joint.settle router with
    | .ok (first, second) =>
      let rest := (next first second).run backend s
      { rest with events := .asked router one :: .asked router two :: rest.events }
    | .error (e, events) => ⟨.error e, events, s⟩

end Plan

def Event.calls (events : List Event) : List (Router × Read) :=
  events.filterMap fun
    | .asked router question => some (router, question)
    | _ => none

end RouteQuote
