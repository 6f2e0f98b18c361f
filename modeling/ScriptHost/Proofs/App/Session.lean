/-
ScriptHost.Proofs.App.Session — a session that goes from run to run.

A visitor comes again and again: the session in the response to one request
goes into the next (`Chain`). The calls of all these runs, in a row, make one
history of changes, and what a session function returns in the midst of it
is what the changes before it have left (`Call.Heeds`, `sessions_of_chain`).
So a message is returned once, and a value until it is overwritten or
removed; both are gone when the session is destroyed, and that is never
forgotten.
-/
import ScriptHost.Proofs.App.Response
import ScriptHost.Proofs.Capability.SessionData
import ScriptHost.Proofs.Web.Session

namespace ScriptHost

open Argument (nth text)

/-! ## Calls of session functions -/

namespace Call

/-- The function of `session` that a call reaches, with the arguments that
it gets. -/
def asked? (c : Call Capability) : Option (SessionFunction × List Value) :=
  match c.function with
  | .member name (.session f) =>
    some (f, c.world.interpreter.stripNamespace name c.args)
  | .plain (.session f) => some (f, c.args)
  | _ => none

/-- The call reads the message under a key. -/
def ReadsFlash (c : Call Capability) (key : String) : Prop :=
  ∃ args, c.asked? = some (.getFlash, args) ∧ text (nth args 0) = .ok key

/-- What a call does to the session, nothing if it fails. -/
def change? (c : Call Capability) : Option SessionChange :=
  c.part?.bind Part.session?

variable {c : Call Capability} {f : SessionFunction} {args : List Value}

theorem asked_cases (asked : c.asked? = some (f, args)) :
    (∃ name, c.function = .member name (.session f)
        ∧ c.world.interpreter.stripNamespace name c.args = args)
      ∨ (c.function = .plain (.session f) ∧ c.args = args) := by
  unfold asked? at asked
  split at asked
  case h_1 name g hfunction =>
    obtain ⟨rfl, rfl⟩ := Prod.mk.inj (Option.some.inj asked)
    exact .inl ⟨name, hfunction, rfl⟩
  case h_2 g hfunction =>
    obtain ⟨rfl, rfl⟩ := Prod.mk.inj (Option.some.inj asked)
    exact .inr ⟨hfunction, rfl⟩
  case h_3 => cases asked

theorem ended_asked (asked : c.asked? = some (f, args)) :
    c.ended = (f.run args : Action Capability _).run.run c.world := by
  unfold ended
  rcases asked_cases asked with ⟨name, hfunction, rfl⟩ | ⟨hfunction, rfl⟩
  all_goals
    rw [hfunction]
    rfl

theorem function_part?_asked (asked : c.asked? = some (f, args)) :
    c.function.part? c.args c.world = f.part? args c.world := by
  rcases asked_cases asked with ⟨name, hfunction, rfl⟩ | ⟨hfunction, rfl⟩
  all_goals
    rw [hfunction]
    rfl

/-- A call whose function succeeds returns what that returns, and does to
the session what that does. -/
theorem asked_succeeds {values : List Value} {w : World Capability}
    (asked : c.asked? = some (f, args))
    (runs : (f.run args).run.run c.world = (.ok values, w)) :
    c.change? = (f.part? args c.world).bind Part.session?
      ∧ c.ended.1 = .ok values := by
  have ends : c.ended.1 = .ok values := by rw [ended_asked asked, runs]
  refine ⟨?_, ends⟩
  rw [change?, part?, succeeds, ends, if_pos rfl, function_part?_asked asked]

end Call

/-! ## What a call returns -/

/-- The session of the run is what some changes have made of an empty one. -/
def World.Recalls (past : List SessionChange) (w : World Capability) : Prop :=
  ∃ ex, w.interpreter.exchange = some ex
    ∧ ex.session = Session.replay {} past

namespace Call

/-- A call after some changes of the session returns what they have left. -/
structure Heeds (past : List SessionChange) (c : Call Capability) :
    Prop where
  /-- A message is read as it was left, and is gone then. -/
  getFlash : ∀ key, c.ReadsFlash key →
    c.change? = some (.takeFlash key)
      ∧ ∃ message?, c.ended.1 = .ok [.ofText? message?]
        ∧ ∀ message, message? = some message
          ↔ Left (SessionChange.onFlash key) past message
  setFlash : ∀ args key message, c.asked? = some (.setFlash, args) →
    text (nth args 0) = .ok key → text (nth args 1) = .ok message →
    c.change? = some (.setFlash key message) ∧ c.ended.1 = .ok []
  /-- A value is that of the data that was left. -/
  get : ∀ args key, c.asked? = some (.get, args) →
    text (nth args 0) = .ok key →
    ∃ value?, c.ended
          = (.ok [(c.world.interpreter.heap.ofJson? value?).1],
            c.world.withData value?)
        ∧ ∀ value, value? = some value
          ↔ Left (SessionChange.onValue key) past value
  set : ∀ args key value, c.asked? = some (.set, args) →
    text (nth args 0) = .ok key →
    c.world.interpreter.heap.toJson (nth args 1) = .ok value →
    c.change? = some (.set key value) ∧ c.ended.1 = .ok []
  destroy : ∀ args, c.asked? = some (.destroy, args) →
    c.change? = some .destroy ∧ c.ended.1 = .ok []
  isLogged : ∀ args, c.asked? = some (.isLogged, args) →
    ∃ b, c.ended.1 = .ok [.bool b]
      ∧ (b = true ↔ Left (SessionChange.onValue Session.loggedKey) past
        (.bool true))
  isAdmin : ∀ args, c.asked? = some (.isAdmin, args) →
    ∃ b, c.ended.1 = .ok [.bool b]
      ∧ (b = true ↔
        Left (SessionChange.onValue Session.loggedKey) past (.bool true)
        ∧ Left (SessionChange.onValue Session.adminKey) past (.bool true))
  loggedAccount : ∀ args, c.asked? = some (.loggedAccount, args) →
    ∃ account?, c.ended
          = (.ok [(c.world.interpreter.heap.ofJson? account?).1],
            c.world.withData account?)
        ∧ ∀ account, account? = some account ↔
          Left (SessionChange.onValue Session.loggedKey) past (.bool true)
          ∧ Left (SessionChange.onValue Session.accountKey) past account
  /-- Nothing else changes the session. -/
  only : ∀ change, c.change? = some change → c.succeeds = true
    ∧ ∃ f args, c.asked? = some (f, args)
      ∧ f.part? args c.world = some (.session change)
  /-- Only who is logged in has all rights. -/
  rights : ∀ args args', c.world.answerTo .isAdmin args = .ok [.bool true] →
    c.world.answerTo .isLogged args' = .ok [.bool true]
  /-- Only who is logged in has an account. -/
  account : ∀ args args' v, c.world.answerTo .loggedAccount args = .ok [v] →
    v ≠ .nil → c.world.answerTo .isLogged args' = .ok [.bool true]
  /-- A session is marked once it was destroyed. -/
  destroyed : ∃ ex, c.world.interpreter.exchange = some ex
    ∧ (ex.session.destroyed = true ↔ .destroy ∈ past)

/-- Parts of other modules leave the session alone. -/
theorem asked_of_change {c : Call Capability} {change : SessionChange}
    (h : c.change? = some change) :
    c.succeeds = true ∧ ∃ f args, c.asked? = some (f, args)
      ∧ f.part? args c.world = some (.session change) := by
  obtain ⟨p, hpart, hchange⟩ := Option.bind_eq_some_iff.mp h
  obtain rfl : p = .session change := by
    cases p with
    | session change' =>
      rw [Option.some.inj hchange]
    | _ => cases hchange
  unfold part? at hpart
  split at hpart
  case isFalse => cases hpart
  case isTrue hsucceeds =>
    refine ⟨hsucceeds, ?_⟩
    obtain ⟨function, values, w⟩ := c
    cases function with
    | member name f | plain f =>
      obtain ⟨g, rfl, hg⟩ := Capability.session_of_part? hpart
      exact ⟨g, _, rfl, hg⟩
    | reserved _ | inert => cases hpart

/-- **A call in a world that recalls some changes heeds them.** -/
theorem heeds {past : List SessionChange} {c : Call Capability}
    (recalls : c.world.Recalls past) : c.Heeds past := by
  obtain ⟨ex, hex, hsession⟩ := recalls
  constructor
  case getFlash =>
    rintro key ⟨args, asked, hkey⟩
    obtain ⟨hchange, hended⟩ :=
      asked_succeeds asked (SessionFunction.run_getFlash hex hkey)
    refine ⟨hchange.trans ?_, ex.session.flash.get? key, hended,
      fun message => ?_⟩
    · simp [SessionFunction.part?, hkey, Except.toOption, Part.session?]
    · rw [hsession, Session.flash_iff]
  case setFlash =>
    intro args key message asked hkey hmessage
    obtain ⟨hchange, hended⟩ := asked_succeeds asked
      (SessionFunction.run_setFlash hex hkey hmessage)
    refine ⟨hchange.trans ?_, hended⟩
    simp [SessionFunction.part?, hkey, hmessage, Except.toOption,
      Part.session?]
  case get =>
    intro args key asked hkey
    refine ⟨ex.session.get? key, ?_, fun value => ?_⟩
    · rw [ended_asked asked, SessionFunction.run_get hex hkey]
    · rw [hsession, Session.value_iff]
  case set =>
    intro args key value asked hkey hvalue
    obtain ⟨hchange, hended⟩ := asked_succeeds asked
      (SessionFunction.run_set hex hkey hvalue)
    refine ⟨hchange.trans ?_, hended⟩
    simp [SessionFunction.part?, hkey, hvalue, Except.toOption,
      Part.session?]
  case destroy =>
    intro args asked
    exact asked_succeeds asked (SessionFunction.run_destroy hex)
  case isLogged =>
    intro args asked
    refine ⟨ex.session.isLogged, ?_, ?_⟩
    · rw [ended_asked asked, SessionFunction.run_isLogged hex]
    · rw [hsession, Session.isLogged_iff]
  case isAdmin =>
    intro args asked
    refine ⟨ex.session.isAdmin, ?_, ?_⟩
    · rw [ended_asked asked, SessionFunction.run_isAdmin hex]
    · rw [hsession, Session.isAdmin_iff]
  case loggedAccount =>
    intro args asked
    refine ⟨ex.session.account?, ?_, fun account => ?_⟩
    · rw [ended_asked asked, SessionFunction.run_loggedAccount hex]
    · rw [hsession, Session.account?_iff]
  case only => exact fun change h => asked_of_change h
  case rights =>
    exact fun args args' => SessionFunction.isLogged_of_isAdmin hex
  case account =>
    exact fun args args' v => SessionFunction.isLogged_of_account hex
  case destroyed =>
    refine ⟨ex, hex, ?_⟩
    rw [hsession, Session.destroyed_iff]

end Call

/-! ## Chains of runs -/

/-- A run of a script for a request. -/
structure Visit where
  inst : Instance ScriptInterpreter
  shared : Shared
  request : Request
  script : Script

namespace Visit

/-- What the run leaves behind. -/
def executed (v : Visit) : Executed Capability (List Record) :=
  v.inst.execute v.script.run v.request v.shared

/-- The calls of the run. -/
def calls (v : Visit) : List (Call Capability) :=
  v.script.calls (v.inst.begun v.shared v.request)

end Visit

/-- Runs that succeed, each of which hands its session to the next. -/
inductive Chain : Session → List Visit → Session → Prop where
  | nil (s : Session) : Chain s [] s
  | cons {v : Visit} {visits : List Visit} {response : Response}
      {final : Session} (succeeds : v.executed.outcome = .ok response)
      (rest : Chain response.session visits final) :
      Chain v.request.session (v :: visits) final

/-- The changes that some calls make are those of their parts. -/
theorem Call.filterMap_change? (cs : List (Call Capability)) :
    (cs.filterMap Call.part?).filterMap Part.session?
      = cs.filterMap Call.change? := by
  rw [List.filterMap_filterMap]
  rfl

section Runs

variable {past : List SessionChange} {request : Request}

theorem Exchange.Answers.recalls {cs : List (Call Capability)}
    {ex : Exchange} (h : ex.Answers request (cs.filterMap Call.part?))
    (start : request.session = Session.replay {} past) :
    ex.session = Session.replay {} (past ++ cs.filterMap Call.change?) := by
  rw [Session.replay_append, ← start, ← Call.filterMap_change?]
  exact h.response.session

/-- **One run goes on with the changes of those before it.** -/
theorem Visit.recalls {v : Visit} {earlier : List (Call Capability)}
    (start : v.request.session
      = Session.replay {} (earlier.filterMap Call.change?)) :
    Call.Throughout
        (fun cs w => w.Recalls (cs.filterMap Call.change?)) earlier v.calls
      ∧ ∀ response, v.executed.outcome = .ok response →
        response.session = Session.replay {}
          ((earlier ++ v.calls).filterMap Call.change?) := by
  obtain ⟨hcalls, ex, hex, hend⟩ :=
    v.inst.answering_throughout v.shared v.request v.script
  constructor
  · intro before c after hsplit
    obtain ⟨ex, hex, hanswers⟩ := hcalls before c after hsplit
    refine ⟨ex, hex, ?_⟩
    rw [List.filterMap_append]
    exact hanswers.recalls start
  · intro response hok
    change Instance.outcomeOf
      (v.script.run.run (v.inst.begun v.shared v.request)).1.ending
      (v.script.run.run
        (v.inst.begun v.shared v.request)).2.interpreter.exchange = _ at hok
    rw [hex] at hok
    rw [← Instance.eq_of_outcomeOf hok, List.filterMap_append]
    exact hend.recalls start

/-- **So does a whole chain.** -/
theorem Chain.recalls {start final : Session} {visits : List Visit}
    (chain : Chain start visits final) :
    ∀ earlier : List (Call Capability),
      start = Session.replay {} (earlier.filterMap Call.change?) →
      Call.Throughout (fun cs w => w.Recalls (cs.filterMap Call.change?))
          earlier (visits.flatMap Visit.calls)
        ∧ final = Session.replay {} ((earlier
          ++ visits.flatMap Visit.calls).filterMap Call.change?) := by
  induction chain with
  | nil s =>
    intro earlier hstart
    refine ⟨Call.throughout_nil _ earlier, ?_⟩
    rw [List.flatMap_nil, List.append_nil]
    exact hstart
  | @cons v visits response final succeeds rest ih =>
    intro earlier hstart
    obtain ⟨hcalls, hresponse⟩ := v.recalls hstart
    obtain ⟨hlater, hfinal⟩ :=
      ih (earlier ++ v.calls) (hresponse response succeeds)
    refine ⟨Call.throughout_append hcalls hlater, ?_⟩
    rw [List.flatMap_cons, ← List.append_assoc]
    exact hfinal

end Runs

/-- A message that is returned was left after the key was last read. -/
theorem Call.Heeds.flash_since {before between : List (Call Capability)}
    {c d : Call Capability} {key message : String}
    (first : c.Heeds (before.filterMap change?))
    (second : d.Heeds ((before ++ c :: between).filterMap change?))
    (read : c.ReadsFlash key) (again : d.ReadsFlash key)
    (returned : d.ended.1 = .ok [.ofText message]) :
    .setFlash key message ∈ between.filterMap change? := by
  obtain ⟨hchange, -⟩ := first.getFlash key read
  obtain ⟨-, message?, hreturned, hleft⟩ := second.getFlash key again
  have hmessage : message? = some message := by
    rw [returned] at hreturned
    exact Value.ofText?_eq_ofText.mp
      (List.cons.inj (Except.ok.inj hreturned)).1.symm
  have hpast : (before ++ c :: between).filterMap change?
      = before.filterMap change?
        ++ .takeFlash key :: between.filterMap change? := by
    rw [List.filterMap_append, List.filterMap_cons_some hchange]
  have hclears : SessionChange.onFlash key (.takeFlash key) = .clears :=
    if_pos rfl
  obtain ⟨change, hmem, hwrites⟩ :=
    left_since hclears (hpast ▸ (hleft message).mp hmessage)
  rwa [SessionChange.eq_setFlash hwrites] at hmem

/-- **Sessions across runs.** In a chain of runs that starts with an empty
session, every call heeds the changes that the calls before it have made. No
message is returned twice unless it was left twice, and in the end the
session is marked if it was ever destroyed. -/
theorem sessions_of_chain {visits : List Visit} {final : Session}
    (chain : Chain {} visits final) :
    let calls := visits.flatMap Visit.calls
    (∀ before c after, calls = before ++ c :: after →
        c.Heeds (before.filterMap Call.change?))
      ∧ (∀ before c between d after,
        calls = before ++ c :: (between ++ d :: after) →
        ∀ key message, c.ReadsFlash key → d.ReadsFlash key →
          d.ended.1 = .ok [.ofText message] →
          .setFlash key message ∈ between.filterMap Call.change?)
      ∧ (final.destroyed = true
        ↔ .destroy ∈ calls.filterMap Call.change?) := by
  intro calls
  obtain ⟨hrecalls, hfinal⟩ := chain.recalls [] rfl
  have hheeds : ∀ before c after, calls = before ++ c :: after →
      c.Heeds (before.filterMap Call.change?) :=
    fun before c after hsplit =>
      Call.heeds (hrecalls before c after hsplit)
  refine ⟨hheeds, ?_, ?_⟩
  · intro before c between d after hsplit key message hread hagain hreturned
    have hsplit' : calls = (before ++ c :: between) ++ d :: after := by
      rw [hsplit, List.append_assoc, List.cons_append]
    exact (hheeds before c _ hsplit).flash_since
      (hheeds _ d after hsplit') hread hagain hreturned
  · rw [hfinal, Session.destroyed_iff, List.nil_append]

namespace Visit

/-- A visitor leaves a message and a value. -/
def leaving : Script :=
  [{ deed := .call (.method "session" "setFlash")
      [.scalar (.ofText "notice"), .scalar (.ofText "Saved")] },
    { deed := .call (.member "session" "set")
        [.scalar (.ofText "cart"), .scalar (.int 3)] }]

/-- The visitor finds both, and leaves for good. -/
def returning : Script :=
  [{ deed := .call (.member "session" "getFlash")
      [.scalar (.ofText "notice")] },
    { deed := .call (.member "session" "getFlash")
        [.scalar (.ofText "notice")] },
    { deed := .call (.member "session" "get") [.scalar (.ofText "cart")] },
    { deed := .call (.member "session" "destroy") [] },
    { deed := .call (.member "session" "get") [.scalar (.ofText "cart")] }]

/-- The first visit. -/
def first (i : ScriptInterpreter) : Visit :=
  ⟨⟨0, 0, i⟩, {}, .internal, leaving⟩

/-- The second, with a session. -/
def second (i : ScriptInterpreter) (s : Session) : Visit :=
  ⟨⟨1, 0, i⟩, {}, { Request.internal with session := s }, returning⟩

/-- What calls return, nothing if they fail. -/
def returned (visits : List Visit) : List (Option (List Value)) :=
  (visits.flatMap calls).map fun c => c.ended.1.toOption

theorem sessions_of_returning :
    ∃ (i : ScriptInterpreter) (s final : Session),
      Instance.pageHost.configure = .ok i
      ∧ Chain {} [first i, second i s] final
      ∧ returned [first i, second i s]
        = [some [], some [], some [.ofText "Saved"], some [.nil],
          some [.int 3], some [], some [.nil]]
      ∧ .destroy ∈ ([first i, second i s].flatMap calls).filterMap
        Call.change? := by
  have hseen : (Instance.pageHost.configure.toOption.map fun i => do
      let s := (← (first i).executed.outcome.toOption).session
      let final := (← (second i s).executed.outcome.toOption).session
      some (decide (final.destroyed = true
        ∧ returned [first i, second i s]
          = [some [], some [], some [.ofText "Saved"], some [.nil],
            some [.int 3], some [], some [.nil]])))
      = some (some true) := by
    decide +kernel
  obtain ⟨i, h, hruns⟩ := Instance.pageHost.configure_of_map hseen
  cases hfirst : (first i).executed.outcome with
  | error e =>
    rw [hfirst] at hruns
    cases hruns
  | ok r =>
    cases hsecond : (second i r.session).executed.outcome with
    | error e => simp [Except.toOption, hfirst, hsecond] at hruns
    | ok r' =>
      simp only [hfirst, Except.toOption, Option.bind_eq_bind,
        Option.bind_some, hsecond] at hruns
      obtain ⟨hdestroyed, hreturned⟩ :=
        of_decide_eq_true (Option.some.inj hruns)
      have chain : Chain {} [first i, second i r.session] r'.session :=
        .cons hfirst (.cons hsecond (.nil _))
      exact ⟨i, r.session, r'.session, h, chain, hreturned,
        (sessions_of_chain chain).2.2.mp hdestroyed⟩

end Visit

end ScriptHost
