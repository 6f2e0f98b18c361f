/-
ScriptHost.Proofs.App.Response — the response of a run, from its calls.

A run of a script is a row of calls, and its response is what the parts of
those that succeed make of an empty one, in their order
(`Instance.response_of_calls`). A call of any other function, and a call
that fails, has no part. The same holds of the response so far in front of
each call, and meanwhile the request stays as it was
(`Instance.answering_throughout`), whether the script succeeds or not.

A header is kept under its name as a script spells it, while requests are
searched for headers whatever the case of their names. So two headers of one
response can have names that are equal but for their case:
`Instance.headers_of_calls` says when, and when a page brings its content type
with it. A script that spells its content type as a page does never comes to
this, and one that spells it otherwise has two of them as soon as it renders a
page (`Instance.headers_of_two_content_types`).
-/
import ScriptHost.App.Application
import ScriptHost.Host.Canned
import ScriptHost.Proofs.Capability.Response
import ScriptHost.Proofs.Engine.Configured
import ScriptHost.Proofs.Script.Calls

namespace ScriptHost

/-! ## The parts of a run -/

/-- The part that a call of a function adds if it succeeds. -/
def Callable.part? (args : List Value) (w : World Capability) :
    Callable Capability → Option Part
  | .member name f => f.part? (w.interpreter.stripNamespace name args) w
  | .plain f => f.part? args w
  | .reserved _ | .inert => none

/-- The part that a call adds, none if it fails. -/
def Call.part? (c : Call Capability) : Option Part :=
  if c.succeeds then c.function.part? c.args c.world else none

theorem Call.filterMap_part?_concat (cs : List (Call Capability))
    (c : Call Capability) :
    (cs ++ [c]).filterMap Call.part?
      = cs.filterMap Call.part? ++ c.part?.toList := by
  rw [List.filterMap_append]
  cases hpart : c.part? <;> simp [hpart]

/-- The exchange is that of a request, answered with some parts so far. -/
structure Exchange.Answers (request : Request) (parts : List Part)
    (ex : Exchange) : Prop where
  response : ex.response.Shows request.session parts
  /-- Of the request, only the session is on the other side. -/
  request : ex.request = { request with session := {} }

/-- A request is being answered, with some parts so far. -/
def World.Answering (request : Request) (parts : List Part)
    (w : World Capability) : Prop :=
  ∃ ex, w.interpreter.exchange = some ex ∧ ex.Answers request parts

/-! ## Steps of a run -/

section Steps

variable {request : Request} {parts : List Part}

theorem Exchange.answers_start (request : Request) :
    (Exchange.start request).Answers request [] :=
  ⟨Response.shows_start request.session, rfl⟩

theorem Exchange.Answers.addPart {ex : Exchange}
    (h : ex.Answers request parts) (p : Option Part) :
    (ex.addPart p).Answers request (parts ++ p.toList) := by
  cases p with
  | none =>
    rw [Option.toList_none, List.append_nil]
    exact h
  | some p => exact ⟨h.response.add p, h.request⟩

theorem Callable.contributes (c : Callable Capability) (args : List Value) :
    Action.Contributes (Action.invoke c args) (c.part? args) := by
  cases c with
  | member name f =>
    intro w
    exact f.contributes (w.interpreter.stripNamespace name args) w
  | plain f => exact f.contributes args
  | reserved name =>
    exact (Action.KeepsExchange.of_quiet (.complain _)).contributes
  | inert => exact (Action.KeepsExchange.of_quiet (.pure _)).contributes

/-- A call adds its part, and nothing else. -/
theorem Call.exchange_ended (c : Call Capability) {ex : Exchange}
    (hex : c.world.interpreter.exchange = some ex) :
    c.ended.2.interpreter.exchange = some (ex.addPart c.part?) := by
  have hadds := c.function.contributes c.args c.world ex hex
  unfold Call.part? Call.succeeds
  rcases hended : c.ended with ⟨e | values, w'⟩
  all_goals
    rw [show (Action.invoke c.function c.args).run.run c.world = _ from
      hended] at hadds
    exact hadds

theorem Call.answering (c : Call Capability)
    (h : c.world.Answering request parts) :
    c.ended.2.Answering request (parts ++ c.part?.toList) := by
  obtain ⟨ex, hex, hanswers⟩ := h
  exact ⟨ex.addPart c.part?, c.exchange_ended hex, hanswers.addPart c.part?⟩

/-- A script's own work adds nothing. -/
theorem World.Answering.worked {w w' : World Capability}
    (h : w.Answering request parts) (work : w.Worked w') :
    w'.Answering request parts := by
  obtain ⟨ex, hex, hanswers⟩ := h
  exact ⟨ex, work.exchange.trans hex, hanswers⟩

end Steps

/-! ## Runs -/

/-- A run that succeeds returns the response of its exchange. -/
theorem Instance.eq_of_outcomeOf {ending : Except Abort Unit} {ex : Exchange}
    {response : Response}
    (h : outcomeOf ending (some ex) = .ok response) :
    ex.response = response := by
  cases ending with
  | ok _ =>
    cases h
    rfl
  | error e => cases e <;> cases h

namespace Instance

variable (inst : Instance ScriptInterpreter) (shared : Shared)
  (request : Request) (script : Script)

/-- The world in which a run for a request begins. -/
def begun : World Capability :=
  ⟨{ inst.state with exchange := some (Exchange.start request) }, shared⟩

/-- **Throughout a run the request is as it was, and the response is made of
the parts of the calls so far.** -/
theorem answering_throughout :
    let calls := script.calls (inst.begun shared request)
    (∀ before c after, calls = before ++ c :: after →
        c.world.Answering request (before.filterMap Call.part?))
      ∧ (script.run.run (inst.begun shared request)).2.Answering request
        (calls.filterMap Call.part?) := by
  have start : (inst.begun shared request).Answering request
      (List.filterMap Call.part? []) :=
    ⟨_, rfl, Exchange.answers_start request⟩
  refine Script.runFrom_calls
    (P := fun cs w => w.Answering request (cs.filterMap Call.part?))
    (fun _ _ _ h work => h.worked work) (fun _ _ h => h) ?_
    script #[] _ [] start
  intro cs c h
  rw [Call.filterMap_part?_concat]
  exact c.answering h

/-- **The response of a run that succeeds is what the parts of its calls
make of an empty one.** -/
theorem response_of_calls {response : Response}
    (h : (inst.execute script.run request shared).outcome = .ok response) :
    let calls := script.calls (inst.begun shared request)
    response.Shows request.session (calls.filterMap Call.part?)
      ∧ (∀ before c after, calls = before ++ c :: after →
        c.world.Answering request (before.filterMap Call.part?))
      ∧ (script.run.run (inst.begun shared request)).2.Answering request
        (calls.filterMap Call.part?) := by
  obtain ⟨hcalls, hend⟩ :=
    inst.answering_throughout shared request script
  refine ⟨?_, hcalls, hend⟩
  obtain ⟨ex, hex, hanswers⟩ := hend
  change outcomeOf (script.run.run (inst.begun shared request)).1.ending
    (script.run.run
      (inst.begun shared request)).2.interpreter.exchange = _ at h
  rw [hex] at h
  cases hending : (script.run.run (inst.begun shared request)).1.ending with
  | ok _ =>
    rw [hending] at h
    cases h
    exact hanswers.response
  | error e =>
    rw [hending] at h
    cases e <;> cases h

/-- A host with a service that draws pages. -/
def pageHost : Blueprint Capability where
  registry := { modules :=
    [Capability.group "http" .http HttpFunction.named,
      Capability.group "session" .session SessionFunction.named] }
  context :=
    { services := CannedServices.services { templates := some ⟨(), []⟩ } }
  searchPath := Blueprint.modulePattern ""

/-- A visitor comes in and is sent on. One call fails, for a header needs a
value. -/
def greeting : Script :=
  [{ deed := .call (.member "http" "write") [.scalar (.ofText "Hello ")] },
    { deed := .call (.method "http" "render") [.scalar (.ofText "home")] },
    { deed := .call (.member "http" "setHeader") [.scalar (.ofText "X")] },
    { deed := .call (.member "session" "set")
        [.scalar (.ofText "name"), .scalar (.int 1)] },
    { deed := .call (.member "http" "redirect") [.scalar (.ofText "/")] }]

theorem response_of_greeting :
    ∃ (i : ScriptInterpreter) (response : Response),
      pageHost.configure = .ok i
      ∧ (execute greeting.run .internal ⟨0, 0, i⟩ {}).outcome = .ok response
      ∧ (greeting.calls (begun ⟨0, 0, i⟩ {} .internal)).map Call.succeeds
        = [true, true, false, true, true]
      ∧ response.body = Utf8.ofString "Hello [page home null]"
      ∧ response.status = 302
      ∧ response.headers.get? "X" = none := by
  have hseen : (pageHost.configure.toOption.map fun i =>
      let calls := greeting.calls (begun ⟨0, 0, i⟩ {} .internal)
      let parts := calls.filterMap Call.part?
      decide ((execute greeting.run .internal ⟨0, 0, i⟩ {}).outcome.toBool
        ∧ calls.map Call.succeeds = [true, true, false, true, true]
        ∧ parts.flatMap Part.body = Utf8.ofString "Hello [page home null]"
        ∧ Part.last? Part.redirect? parts = some (302, "/")
        ∧ Response.headerOf parts "X" = none)) = some true := by
    decide +kernel
  obtain ⟨i, h, hparts⟩ := pageHost.configure_of_map hseen
  obtain ⟨hends, hcalls, hbody, hredirect, hheader⟩ :=
    of_decide_eq_true hparts
  cases hrun : (execute greeting.run .internal ⟨0, 0, i⟩ {}).outcome with
  | error e =>
    rw [hrun] at hends
    cases hends
  | ok response =>
    have hshows := (response_of_calls ⟨0, 0, i⟩ {} .internal greeting hrun).1
    refine ⟨i, response, h, hrun, hcalls, ?_, ?_, ?_⟩
    · rw [hshows.body, hbody]
    · rw [hshows.status, hredirect]
      rfl
    · rw [hshows.header, hheader]

/-! ## Headers -/

open HttpFunction ScriptHost.Part

/-- **The headers of a run.** In front of each call of a run and behind it,
and in the response in the end, there are the headers that the calls so far
have set, and the content type of a page if one was rendered. No two of them
have names that are equal but for their case, exactly if the script has
spelled each name in one way, and its content type as a page does in case it
has rendered one. A call that renders a page adds the default content type
exactly if there is no header of this very name yet; if the script has spelled
its content type in no other way, it has then set none at all. -/
theorem headers_of_calls :
    let calls := script.calls (inst.begun shared request)
    (∀ before c after, calls = before ++ c :: after →
      let parts := before.filterMap Call.part?
      ∃ ex ex', c.world.interpreter.exchange = some ex
        ∧ c.ended.2.interpreter.exchange = some ex'
        ∧ ex.response.HeadersOf parts
        ∧ ex'.response.HeadersOf (parts ++ c.part?.toList)
        ∧ ∀ text, c.part? = some (.page text) →
          (contentType ∈ names parts ∨ parts.any isPage = true →
            ex'.response.headers = ex.response.headers)
          ∧ (¬ (contentType ∈ names parts ∨ parts.any isPage = true) →
            ex'.response.headers
              = ex.response.headers.insert contentType htmlContentType
            ∧ (Usual parts → ∀ name ∈ names parts,
              sameIgnoringCase name contentType = false)))
    ∧ ∀ response,
      (inst.execute script.run request shared).outcome = .ok response →
      response.HeadersOf (calls.filterMap Call.part?) := by
  intro calls
  obtain ⟨hcalls, hend⟩ := inst.answering_throughout shared request script
  refine ⟨fun before c after hsplit => ?_, fun response h => ?_⟩
  · intro parts
    obtain ⟨ex, hex, hanswers⟩ := hcalls before c after hsplit
    have hheaders := hanswers.response.headersOf
    refine ⟨ex, ex.addPart c.part?, hex, c.exchange_ended hex, hheaders,
      (hanswers.addPart c.part?).response.headersOf, fun text hpage => ?_⟩
    rw [hpage]
    obtain ⟨stays, comes⟩ := hheaders.page text
    exact ⟨stays, fun hnone => ⟨comes hnone, fun usual =>
      Response.not_same_contentType usual fun h => hnone (.inl h)⟩⟩
  · obtain ⟨ex, hex, hanswers⟩ := hend
    change outcomeOf (script.run.run (inst.begun shared request)).1.ending
      (script.run.run
        (inst.begun shared request)).2.interpreter.exchange = _ at h
    rw [hex] at h
    rw [← eq_of_outcomeOf h]
    exact hanswers.response.headersOf

/-- A script that sets its content type, in some spelling, and then renders a
page. -/
def rendering (name : String) : Script :=
  [{ deed := .call (.member "http" "setHeader")
        [.scalar (.ofText name), .scalar (.ofText "text/plain")] },
    { deed := .call (.method "http" "render") [.scalar (.ofText "home")] }]

/-- Spelled as a page spells it, it is the only one: the page leaves the
headers as they are. -/
theorem headers_of_one_content_type :
    ∃ (i : ScriptInterpreter) (response : Response) (first second : Call _)
        (ex ex' : Exchange),
      let script := rendering "Content-Type"
      pageHost.configure = .ok i
      ∧ (execute script.run .internal ⟨0, 0, i⟩ {}).outcome = .ok response
      ∧ response.Distinct
      ∧ response.headers.contains "content-type" = false
      ∧ script.calls (begun ⟨0, 0, i⟩ {} .internal) = [first, second]
      ∧ second.world.interpreter.exchange = some ex
      ∧ second.ended.2.interpreter.exchange = some ex'
      ∧ ex'.response.headers = ex.response.headers := by
  let script := rendering "Content-Type"
  have hseen : (pageHost.configure.toOption.map fun i =>
      let calls := script.calls (begun ⟨0, 0, i⟩ {} .internal)
      let parts := calls.filterMap Call.part?
      decide ((execute script.run .internal ⟨0, 0, i⟩ {}).outcome.toBool
        ∧ Consistent parts ∧ Usual parts ∧ "content-type" ∉ names parts
        ∧ calls.map (fun c => c.part?.map isPage) = [some false, some true]
        ∧ contentType ∈ names ((calls.take 1).filterMap Call.part?)))
      = some true := by
    decide +kernel
  obtain ⟨i, h, hparts⟩ := pageHost.configure_of_map hseen
  obtain ⟨hends, hconsistent, husual, habsent, hcalls, hset⟩ :=
    of_decide_eq_true hparts
  cases hrun : (execute script.run .internal ⟨0, 0, i⟩ {}).outcome with
  | error e =>
    rw [hrun] at hends
    cases hends
  | ok response =>
    obtain ⟨duringRun, afterRun⟩ :=
      headers_of_calls ⟨0, 0, i⟩ {} .internal script
    have hheaders := afterRun response hrun
    have hdistinct := hheaders.distinct.mpr ⟨hconsistent, fun _ => husual⟩
    have hother : response.headers.contains "content-type" = false := by
      rw [Bool.eq_false_iff, ne_eq, hheaders.names]
      exact fun hthere => hthere.elim habsent fun h => absurd h.1 (by decide)
    obtain ⟨first, rest, hcons, -, hrest⟩ := List.map_eq_cons_iff.mp hcalls
    obtain ⟨second, others, rfl, hpage, hothers⟩ := List.map_eq_cons_iff.mp hrest
    obtain rfl := List.map_eq_nil_iff.mp hothers
    rw [hcons] at hset
    obtain ⟨ex, ex', hex, hex', -, -, rendered⟩ :=
      duringRun [first] second [] hcons
    obtain ⟨text, htext⟩ : ∃ text, second.part? = some (.page text) := by
      cases hpart : second.part? with
      | none => simp [hpart] at hpage
      | some p =>
        cases p with
        | page text => exact ⟨text, rfl⟩
        | _ => simp [hpart, isPage] at hpage
    exact ⟨i, response, first, second, ex, ex', h, hrun, hdistinct, hother,
      hcons, hex, hex', (rendered text htext).1 (.inl hset)⟩

/-- **Spelled otherwise, there are two.** The script sets one header, and sets
it once. -/
theorem headers_of_two_content_types :
    ∃ (i : ScriptInterpreter) (response : Response),
      pageHost.configure = .ok i
      ∧ (execute (rendering "content-type").run .internal ⟨0, 0, i⟩ {}).outcome
        = .ok response
      ∧ response.headers.get? "content-type" = some "text/plain"
      ∧ response.headers.get? "Content-Type" = some htmlContentType
      ∧ sameIgnoringCase "content-type" "Content-Type" = true := by
  have hseen : (pageHost.configure.toOption.map fun i =>
      (execute (rendering "content-type").run .internal ⟨0, 0, i⟩
        {}).outcome.toOption.map fun response =>
        decide (response.headers.get? "content-type" = some "text/plain"
          ∧ response.headers.get? "Content-Type" = some htmlContentType))
      = some (some true) := by
    decide +kernel
  obtain ⟨i, h, hresponse⟩ := pageHost.configure_of_map hseen
  cases hrun : (execute (rendering "content-type").run .internal ⟨0, 0, i⟩
      {}).outcome with
  | error e =>
    rw [hrun] at hresponse
    cases hresponse
  | ok response =>
    rw [hrun] at hresponse
    obtain ⟨hset, hpage⟩ := of_decide_eq_true (Option.some.inj hresponse)
    exact ⟨i, response, h, hrun, hset, hpage, by decide⟩

end Instance

end ScriptHost
