import RouteQuote.Router.Plan

namespace RouteQuote

structure Exchange where
  router : Router
  question : Read
  reply : Except String question.Answer

namespace Exchange

def call (e : Exchange) : Router × Read := (e.router, e.question)

-- The call without its arguments.
def callee (e : Exchange) : Router × String := (e.router, e.question.call)

end Exchange

theorem Event.calls_cons (event : Event) (rest : List Event) :
    Event.calls (event :: rest) = Event.calls [event] ++ Event.calls rest := by
  cases event <;> rfl

theorem Event.mem_calls {events : List Event} {router : Router} {question : Read} :
    (router, question) ∈ Event.calls events ↔ .asked router question ∈ events := by
  unfold Event.calls
  rw [List.mem_filterMap]
  constructor
  · rintro ⟨event, member, asked⟩
    cases event <;> simp_all
  · intro member
    exact ⟨_, member, rfl⟩

-- Which of two questions put together were put, and the replies to them. A reply that is not waited for is one as well.
def Joint.exchanges (router : Router) {one two : Read} : Joint one two → List Exchange
  | .answered first second => [⟨router, one, .ok first⟩, ⟨router, two, .ok second⟩]
  | .barred reason => [⟨router, one, .error reason⟩]
  | .firstRefused reason second => [⟨router, one, .error reason⟩, ⟨router, two, second⟩]
  | .secondRefused first reason => [⟨router, one, first⟩, ⟨router, two, .error reason⟩]

-- What can become of two questions that overlap so. Of two refusals the one that comes back first counts.
inductive Joint.Meets {one two : Read} (timing : Timing) : Joint one two → Prop where
  | answered (first : one.Answer) (second : two.Answer) : Meets timing (.answered first second)
  | barred (early : timing = .atOnce) (reason : String) : Meets timing (.barred reason)
  | firstRefused (pending : timing ≠ .atOnce) (reason : String) {second : Except String two.Answer}
      (counts : timing = .secondBack → ∃ answer, second = .ok answer) : Meets timing (.firstRefused reason second)
  | secondRefused (reason : String) {first : Except String one.Answer}
      (counts : timing ≠ .secondBack → ∃ answer, first = .ok answer) : Meets timing (.secondRefused first reason)

section

variable {backend : Backend σ} {router : Router} {one two : Read} {s after : σ}

theorem Joint.ofReplies_meets {timing : Timing} (first : Except String one.Answer) (second : Except String two.Answer)
    (waited : ∀ reason, first = .error reason → timing ≠ .atOnce) :
    Joint.Meets timing (.ofReplies timing first second) := by
  cases first with
  | ok a =>
    cases second with
    | ok b => exact .answered a b
    | error reason => exact .secondRefused reason fun _ => ⟨a, rfl⟩
  | error reason =>
    have pending := waited reason rfl
    cases second with
    | ok b => exact .firstRefused pending reason fun _ => ⟨b, rfl⟩
    | error other =>
      unfold Joint.ofReplies
      dsimp only
      by_cases late : timing = .secondBack
      · rw [if_pos late]
        exact .secondRefused other fun early => absurd late early
      · rw [if_neg late]
        exact .firstRefused pending reason fun back => absurd back late

theorem Backend.both_meets (backend : Backend σ) (router : Router) (one two : Read) (s : σ) :
    Joint.Meets (backend.timing router one two s) (backend.both router one two s).1 := by
  unfold Backend.both
  cases said : backend.answer router one s with
  | mk first after =>
    cases first with
    | ok a => exact Joint.ofReplies_meets (.ok a) _ nofun
    | error reason =>
      cases timed : backend.timing router one two s with
      | atOnce => exact .barred rfl reason
      | firstBack => exact Joint.ofReplies_meets (.error reason) _ fun _ _ => nofun
      | secondBack => exact Joint.ofReplies_meets (.error reason) _ fun _ _ => nofun

-- How the questions overlap does not matter when the first is answered.
theorem Backend.both_answered {answer : one.Answer} (said : backend.answer router one s = (.ok answer, after)) :
    backend.both router one two s =
      match backend.answer router two after with
      | (.ok other, last) => (.answered answer other, last)
      | (.error reason, last) => (.secondRefused (.ok answer) reason, last) := by
  unfold Backend.both
  rw [said]
  cases other : backend.answer router two after with
  | mk second last => cases second <;> simp only [other] <;> rfl

end

namespace Plan

variable {backend : Backend σ} {router : Router} {question one two : Read} {s after : σ}

def exchanges (backend : Backend σ) : Plan α → σ → List Exchange
  | .done _, _ => []
  | .fail _, _ => []
  | .note _ next, s => next.exchanges backend s
  | .clock next, s => (next (backend.clock s).1).exchanges backend (backend.clock s).2
  | .ask router question next, s =>
    ⟨router, question, (backend.answer router question s).1⟩ ::
      match backend.answer router question s with
      | (.ok answer, s) => (next answer).exchanges backend s
      | (.error _, _) => []
  | .askBoth router one two next, s =>
    (backend.both router one two s).1.exchanges router ++
      match backend.both router one two s with
      | (.answered first second, s) => (next first second).exchanges backend s
      | _ => []

-- What was asked is noted by the run, and by nothing that the plan notes itself; so is what the clock shows.
def Plain : Plan α → Prop
  | .done _ => True
  | .fail _ => True
  | .note event next => Event.calls [event] = [] ∧ (∀ now, event ≠ .clocked now) ∧ next.Plain
  | .clock next => ∀ now, (next now).Plain
  | .ask _ _ next => ∀ answer, (next answer).Plain
  | .askBoth _ _ _ next => ∀ first second, (next first second).Plain

theorem Plain.bind {plan : Plan α} {next : α → Plan β} (plain : plan.Plain) (rest : ∀ a, (next a).Plain) :
    (plan >>= next).Plain := by
  induction plan with
  | done a => exact rest a
  | fail e => trivial
  | note event inner ih => exact ⟨plain.1, plain.2.1, ih plain.2.2⟩
  | clock inner ih => exact fun now => ih now (plain now)
  | ask router question inner ih => exact fun answer => ih answer (plain answer)
  | askBoth router one two inner ih => exact fun first second => ih first second (plain first second)

theorem plain_ofExcept (value : Except Error α) : (ofExcept value).Plain := by
  cases value <;> trivial

theorem plain_read (router : Router) (question : Read) : (read router question).Plain := fun _ => trivial

theorem plain_readBoth (router : Router) (one two : Read) : (readBoth router one two).Plain := fun _ _ => trivial

theorem calls_run {plan : Plan α} (plain : plan.Plain) (backend : Backend σ) (s : σ) :
    Event.calls (plan.run backend s).events = (plan.exchanges backend s).map Exchange.call := by
  induction plan generalizing s with
  | done a => rfl
  | fail e => rfl
  | note event next ih =>
    have rest := ih plain.2.2 s
    simp only [run, exchanges]
    rw [Event.calls_cons, plain.1, List.nil_append, rest]
  | clock next ih => exact ih (backend.clock s).1 (plain _) (backend.clock s).2
  | ask router question next ih =>
    cases said : backend.answer router question s with
    | mk reply after =>
      cases reply with
      | error reason => simp [run, exchanges, said, Event.calls, Exchange.call]
      | ok answer =>
        have rest := ih answer (plain answer) after
        simp only [run, exchanges, said, List.map_cons]
        rw [Event.calls_cons, rest]
        rfl
  | askBoth router one two next ih =>
    cases met : backend.both router one two s with
    | mk joint after =>
      cases joint with
      | answered first second =>
        have rest := ih first second (plain first second) after
        simp only [run, exchanges, met, Joint.settle, Joint.exchanges, List.map_append]
        rw [Event.calls_cons, Event.calls_cons (.asked router two), rest]
        rfl
      | barred | firstRefused | secondRefused =>
        simp [run, exchanges, met, Joint.settle, Joint.exchanges, Event.calls, Exchange.call]

-- The clock is not read, whatever is answered.
def Timeless : Plan α → Prop
  | .done _ => True
  | .fail _ => True
  | .note _ next => next.Timeless
  | .clock _ => False
  | .ask _ _ next => ∀ answer, (next answer).Timeless
  | .askBoth _ _ _ next => ∀ first second, (next first second).Timeless

theorem timeless_ofExcept (value : Except Error α) : (ofExcept value).Timeless := by
  cases value <;> trivial

theorem timeless_given {value : Except Error α} {next : α → Plan β} (rest : ∀ a, (next a).Timeless) :
    (ofExcept value >>= next).Timeless := by
  cases value with
  | error e => trivial
  | ok a => exact rest a

theorem timeless_read {next : question.Answer → Plan α} (rest : ∀ answer, (next answer).Timeless) :
    (read router question >>= next).Timeless := rest

-- The clock is read in front of everything else, if at all.
def ClockFirst : Plan α → Prop
  | .clock next => ∀ now, (next now).Timeless
  | plan => plan.Timeless

theorem Timeless.clockFirst {plan : Plan α} (timeless : plan.Timeless) : plan.ClockFirst := by
  cases plan with
  | clock next => exact timeless.elim
  | _ => exact timeless

theorem clockFirst_given {value : Except Error α} {next : α → Plan β} (rest : ∀ a, (next a).ClockFirst) :
    (ofExcept value >>= next).ClockFirst := by
  cases value with
  | error e => trivial
  | ok a => exact rest a

theorem settle_unclocked {joint : Joint one two} {e : Error} {events : List Event}
    (settled : joint.settle router = .error (e, events)) (now : UInt64) : .clocked now ∉ events := by
  cases joint with
  | answered => cases settled
  | barred | firstRefused | secondRefused =>
    cases settled
    simp

theorem unclocked_run {plan : Plan α} (plain : plan.Plain) (timeless : plan.Timeless) (backend : Backend σ) (s : σ)
    (now : UInt64) : .clocked now ∉ (plan.run backend s).events := by
  induction plan generalizing s with
  | done a => exact List.not_mem_nil
  | fail e => exact List.not_mem_nil
  | note event next ih =>
    rw [run, List.mem_cons, not_or]
    exact ⟨(plain.2.1 now).symm, ih plain.2.2 timeless s⟩
  | clock next ih => exact timeless.elim
  | ask router question next ih =>
    cases said : backend.answer router question s with
    | mk reply after =>
      cases reply with
      | error reason => simp [run, said]
      | ok answer => simpa [run, said] using ih answer (plain answer) (timeless answer) after
  | askBoth router one two next ih =>
    cases met : backend.both router one two s with
    | mk joint after =>
      cases settled : joint.settle router with
      | error ended => simpa [run, met, settled] using settle_unclocked settled now
      | ok answers => simpa [run, met, settled] using ih _ _ (plain _ _) (timeless _ _) after

-- What holds of a plan that asks first, from what holds after a refusal and after every answer.
theorem read_cases {P : List Exchange → Except Error α → Prop} {next : question.Answer → Plan α}
    (refused : ∀ reason, P [⟨router, question, .error reason⟩] (.error (refusal router question reason)))
    (answered : ∀ answer after, P (⟨router, question, .ok answer⟩ :: (next answer).exchanges backend after)
      ((next answer).run backend after).result) :
    P ((read router question >>= next).exchanges backend s) ((read router question >>= next).run backend s).result := by
  have step : (read router question >>= next) = .ask router question next := rfl
  rw [step]
  cases said : backend.answer router question s with
  | mk reply after =>
    cases reply with
    | error reason => simpa [run, exchanges, said] using refused reason
    | ok answer => simpa [run, exchanges, said] using answered answer after

-- The same of a plan that asks two questions together; what became of them fits the way in which they overlapped.
theorem readBoth_cases {P : List Exchange → Except Error α → Prop} {next : one.Answer × two.Answer → Plan α}
    (refused : ∀ (joint : Joint one two) e events, Joint.Meets (backend.timing router one two s) joint →
      joint.settle router = .error (e, events) → P (joint.exchanges router) (.error e))
    (answered : ∀ first second after, P (⟨router, one, .ok first⟩ :: ⟨router, two, .ok second⟩ ::
      (next (first, second)).exchanges backend after) ((next (first, second)).run backend after).result) :
    P ((readBoth router one two >>= next).exchanges backend s)
      ((readBoth router one two >>= next).run backend s).result := by
  have step : (readBoth router one two >>= next) = .askBoth router one two fun first second => next (first, second) := rfl
  rw [step]
  have meets := backend.both_meets router one two s
  cases met : backend.both router one two s with
  | mk joint after =>
    rw [met] at meets
    cases joint with
    | answered first second => simpa [run, exchanges, met, Joint.settle, Joint.exchanges] using answered first second after
    | barred | firstRefused | secondRefused =>
      simpa [run, exchanges, met, Joint.settle] using refused _ _ _ meets rfl

theorem run_answered {next : question.Answer → Plan α} {answer : question.Answer}
    (said : backend.answer router question s = (.ok answer, after)) :
    (read router question >>= next).run backend s =
      let rest := (next answer).run backend after
      ⟨rest.result, .asked router question :: rest.events, rest.state⟩ := by
  have step : (read router question >>= next) = .ask router question next := rfl
  rw [step, run, said]

theorem result_read {next : question.Answer → Plan α} {answer : question.Answer}
    (said : backend.answer router question s = (.ok answer, after)) :
    ((read router question >>= next).run backend s).result = ((next answer).run backend after).result := by
  rw [run_answered said]

theorem exchanges_read {next : question.Answer → Plan α} {answer : question.Answer}
    (said : backend.answer router question s = (.ok answer, after)) :
    (read router question >>= next).exchanges backend s =
      ⟨router, question, .ok answer⟩ :: (next answer).exchanges backend after := by
  have step : (read router question >>= next) = .ask router question next := rfl
  rw [step, exchanges, said]

-- Whether the last question is answered or not, it is put.
theorem calls_read_last (make : question.Answer → α) :
    ((read router question >>= fun answer => pure (make answer)).exchanges backend s).map Exchange.call =
      [(router, question)] := by
  have step : (read router question >>= fun answer => pure (make answer)) =
      .ask router question fun answer => .done (make answer) := rfl
  rw [step, exchanges]
  split
  · rfl
  · rfl

end Plan

end RouteQuote

namespace RouteQuote

-- What is asked of the routers in question gets equal replies from related states, which stay related. The ways in
-- which two questions overlap may differ where the first is answered.
structure Backend.Alike (left : Backend σ) (right : Backend τ) (among : Router → Prop) (rel : σ → τ → Prop) : Prop where
  reply : ∀ router question s t, among router → rel s t →
    (left.answer router question s).1 = (right.answer router question t).1
  after : ∀ router question s t, among router → rel s t →
    rel (left.answer router question s).2 (right.answer router question t).2
  timing : ∀ router one two s t, among router → rel s t →
    (∃ answer, (left.answer router one s).1 = .ok answer) ∨ left.timing router one two s = right.timing router one two t

section

variable {left : Backend σ} {right : Backend τ} {among : Router → Prop} {rel : σ → τ → Prop}

theorem Backend.Alike.both (alike : left.Alike right among rel) {router : Router} (known : among router) (one two : Read)
    {s : σ} {t : τ} (related : rel s t) : (left.both router one two s).1 = (right.both router one two t).1 ∧
      rel (left.both router one two s).2 (right.both router one two t).2 := by
  have same := alike.reply router one s t known related
  have still := alike.after router one s t known related
  have timed := alike.timing router one two s t known related
  cases leftSaid : left.answer router one s with
  | mk reply leftAfter =>
    cases rightSaid : right.answer router one t with
    | mk other rightAfter =>
      rw [leftSaid, rightSaid] at same still
      obtain rfl : reply = other := same
      have next := alike.reply router two leftAfter rightAfter known still
      have last := alike.after router two leftAfter rightAfter known still
      cases reply with
      | ok answer =>
        rw [Backend.both_answered leftSaid, Backend.both_answered rightSaid]
        cases leftNext : left.answer router two leftAfter with
        | mk second leftLast =>
          cases rightNext : right.answer router two rightAfter with
          | mk again rightLast =>
            rw [leftNext, rightNext] at next last
            obtain rfl : second = again := next
            cases second <;> exact ⟨rfl, last⟩
      | error reason =>
        have timed : left.timing router one two s = right.timing router one two t := by
          rw [leftSaid] at timed
          exact timed.resolve_left (by simp)
        unfold Backend.both
        rw [leftSaid, rightSaid, timed]
        cases right.timing router one two t with
        | atOnce => exact ⟨rfl, still⟩
        | firstBack => exact ⟨congrArg (Joint.ofReplies .firstBack (.error reason)) next, last⟩
        | secondBack => exact ⟨congrArg (Joint.ofReplies .secondBack (.error reason)) next, last⟩

end

namespace Plan

variable {among : Router → Prop}

-- Whatever is answered, only routers in question are asked.
def Asks (among : Router → Prop) : Plan α → Prop
  | .done _ => True
  | .fail _ => True
  | .note _ next => next.Asks among
  | .clock next => ∀ now, (next now).Asks among
  | .ask router _ next => among router ∧ ∀ answer, (next answer).Asks among
  | .askBoth router _ _ next => among router ∧ ∀ first second, (next first second).Asks among

theorem asks_ofExcept (value : Except Error α) : (ofExcept value).Asks among := by
  cases value <;> trivial

theorem asks_given {value : Except Error α} {next : α → Plan β} (rest : ∀ a, value = .ok a → (next a).Asks among) :
    (ofExcept value >>= next).Asks among := by
  cases value with
  | error e => trivial
  | ok a => exact rest a rfl

theorem asks_read {router : Router} {question : Read} {next : question.Answer → Plan α} (known : among router)
    (rest : ∀ answer, (next answer).Asks among) : (read router question >>= next).Asks among := ⟨known, rest⟩

theorem asks_readBoth {router : Router} {one two : Read} {next : one.Answer × two.Answer → Plan α} (known : among router)
    (rest : ∀ answers, (next answers).Asks among) : (readBoth router one two >>= next).Asks among :=
  ⟨known, fun first second => rest (first, second)⟩

-- By induction on the plan: after equal replies both sides go on with the same plan from related states.
theorem run_alike {left : Backend σ} {right : Backend τ} {rel : σ → τ → Prop} {plan : Plan α}
    (alike : left.Alike right among rel) (timeless : plan.Timeless) (asks : plan.Asks among) {s : σ} {t : τ}
    (related : rel s t) :
    (plan.run left s).result = (plan.run right t).result ∧ (plan.run left s).events = (plan.run right t).events := by
  induction plan generalizing s t with
  | done a => exact ⟨rfl, rfl⟩
  | fail e => exact ⟨rfl, rfl⟩
  | note event next ih =>
    obtain ⟨result, events⟩ := ih timeless asks related
    exact ⟨result, congrArg (event :: ·) events⟩
  | clock next ih => exact timeless.elim
  | ask router question next ih =>
    have same := alike.reply router question s t asks.1 related
    have still := alike.after router question s t asks.1 related
    cases leftSaid : left.answer router question s with
    | mk reply leftAfter =>
      cases rightSaid : right.answer router question t with
      | mk other rightAfter =>
        rw [leftSaid, rightSaid] at same still
        obtain rfl : reply = other := same
        cases reply with
        | error reason => simp only [run, leftSaid, rightSaid, and_self]
        | ok answer =>
          obtain ⟨result, events⟩ := ih answer (timeless answer) (asks.2 answer) still
          simp only [run, leftSaid, rightSaid]
          exact ⟨result, congrArg _ events⟩
  | askBoth router one two next ih =>
    obtain ⟨same, still⟩ := alike.both asks.1 one two related
    cases leftMet : left.both router one two s with
    | mk joint leftAfter =>
      cases rightMet : right.both router one two t with
      | mk other rightAfter =>
        rw [leftMet, rightMet] at same still
        obtain rfl : joint = other := same
        cases settled : joint.settle router with
        | error ended => simp only [run, leftMet, rightMet, settled, and_self]
        | ok answers =>
          obtain ⟨result, events⟩ := ih answers.1 answers.2 (timeless _ _) (asks.2 _ _) still
          simp only [run, leftMet, rightMet, settled]
          exact ⟨result, congrArg (fun rest => .asked router one :: .asked router two :: rest) events⟩

-- A clock that is read in front of everything else only has to show the same where the run starts.
theorem run_alike_clocked {left : Backend σ} {right : Backend τ} {rel : σ → τ → Prop} {plan : Plan α}
    (alike : left.Alike right among rel) (clockFirst : plan.ClockFirst) (asks : plan.Asks among) {s : σ} {t : τ}
    (reading : (left.clock s).1 = (right.clock t).1) (related : rel s t)
    (ticked : rel (left.clock s).2 (right.clock t).2) :
    (plan.run left s).result = (plan.run right t).result ∧ (plan.run left s).events = (plan.run right t).events := by
  cases plan with
  | clock next =>
    obtain ⟨result, events⟩ := run_alike alike (clockFirst (left.clock s).1) (asks _) ticked
    simp only [run]
    rw [reading] at result events ⊢
    exact ⟨result, congrArg _ events⟩
  | _ => exact run_alike alike clockFirst asks related

end Plan

end RouteQuote
