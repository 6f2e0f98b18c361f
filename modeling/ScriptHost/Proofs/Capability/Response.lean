/-
ScriptHost.Proofs.Capability.Response — what a call adds to the response of
a run.

`Capability.part?` names the part that a call adds if it succeeds, in terms
of its arguments and of the world in which it is made. Only functions of
`http` and `session` add any. `Capability.contributes` says that this is all
a call does to the exchange of the run: a call that fails, or that has no
part, leaves it alone.
-/
import ScriptHost.Proofs.Capability.Careful
import ScriptHost.Proofs.Web.Part

namespace ScriptHost

variable {F : Type}

open ScriptHost.Action

/-! ## The parts of calls -/

/-- The part that a function of `http` adds. -/
def HttpFunction.part? (args : List Value) (w : World F) :
    HttpFunction → Option Part
  | redirect => do
    let location ← (Argument.text (Argument.nth args 0)).toOption
    let status ← (Argument.optional (Argument.integer Argument.word16)
      (Argument.nth args 1)).toOption
    some (.redirect ((status.map Int.toNat).getD redirectStatus) location)
  | render => do
    let template ← (Argument.text (Argument.nth args 0)).toOption
    let data ← (w.interpreter.heap.toJson (Argument.nth args 1)).toOption
    let services := (← w.interpreter.host).services
    (services.answer w.shared.history
      (.renderPage template data)).toOption.map .page
  | write => do
    some (.bytes (← (Argument.bytes (Argument.nth args 0)).toOption))
  | serveFile => do
    some (.file (← (Argument.text (Argument.nth args 0)).toOption))
  | setHeader => do
    let name ← (Argument.text (Argument.nth args 0)).toOption
    let value ← (Argument.text (Argument.nth args 1)).toOption
    some (.header name value)
  | get | postForm | getHeader | getRemoteAddress => none

/-- The part that a function of `session` adds. -/
def SessionFunction.part? (args : List Value) (w : World F) :
    SessionFunction → Option Part
  | getFlash => do
    let key ← (Argument.text (Argument.nth args 0)).toOption
    some (.session (.takeFlash key))
  | setFlash => do
    let key ← (Argument.text (Argument.nth args 0)).toOption
    let message ← (Argument.text (Argument.nth args 1)).toOption
    some (.session (.setFlash key message))
  | set => do
    let key ← (Argument.text (Argument.nth args 0)).toOption
    let value ← (w.interpreter.heap.toJson (Argument.nth args 1)).toOption
    some (.session (.set key value))
  | destroy => some (.session .destroy)
  | isLogged | isAdmin | get | loggedAccount => none

/-- The part that a function adds. All other modules add none. -/
def Capability.part? (args : List Value) (w : World F) :
    Capability → Option Part
  | .http f => f.part? args w
  | .session f => f.part? args w
  | _ => none

/-- The exchange with a part added, if there is one. -/
def Exchange.addPart (ex : Exchange) : Option Part → Exchange
  | some p => ex.mapResponse p.add
  | none => ex

/-! ## What calls do to the exchange -/

namespace Action

variable {α β : Type}

/-- The action leaves request and response as they are. -/
abbrev KeepsExchange (a : Action F α) : Prop :=
  Preserves (fun w w' => w'.interpreter.exchange = w.interpreter.exchange) a

namespace KeepsExchange

theorem of_quiet {a : Action F α} (h : Quiet a) : KeepsExchange a :=
  h.mono fun _ _ hintact => congrArg Interpreter.exchange hintact.interpreter

theorem of_indifferent {a : Action F α} (h : Indifferent a) :
    KeepsExchange a := by
  intro w
  have hsame := h w w.interpreter.exchange
  exact congrArg (fun r => r.2.interpreter.exchange) hsame

theorem bind {a : Action F α} {f : α → Action F β} (ha : KeepsExchange a)
    (hf : ∀ x, KeepsExchange (f x)) : KeepsExchange (a >>= f) :=
  Preserves.bind (fun _ _ _ h h' => h'.trans h) ha hf

end KeepsExchange

/-- In a run the action adds a part to the response if it succeeds, and else
leaves the exchange as it is. -/
def Contributes (a : Action F α) (part? : World F → Option Part) : Prop :=
  ∀ w ex, w.interpreter.exchange = some ex →
    match a.run.run w with
    | (.ok _, w') => w'.interpreter.exchange = some (ex.addPart (part? w))
    | (.error _, w') => w'.interpreter.exchange = some ex

theorem KeepsExchange.contributes {a : Action F α} (h : KeepsExchange a) :
    Contributes a fun _ => none := by
  intro w ex hex
  have hkept := h w
  rcases hrun : a.run.run w with ⟨e | x, w'⟩
  all_goals
    rw [hrun] at hkept
    exact hkept.trans hex

/-! ## Rules -/

namespace Contributes

/-- The part may depend on an argument. -/
theorem argument {read : Argument.Reader α} {args : List Value} {n : Nat}
    {f : α → Action F β} {part? : α → World F → Option Part}
    (hf : ∀ x, Contributes (f x) (part? x)) :
    Contributes (do f (← Action.argument read args n))
      (fun w => do part? (← (read (Argument.nth args n)).toOption) w) := by
  intro w ex hex
  rw [run_bind, run_argument]
  cases read (Argument.nth args n) with
  | ok x => exact hf x w ex hex
  | error e => exact hex

/-- The same for an argument that is taken as data. -/
theorem toJson {v : Value} {f : Json → Action F β}
    {part? : Json → World F → Option Part}
    (hf : ∀ j, Contributes (f j) (part? j)) :
    Contributes (do f (← Action.toJson v))
      (fun w => do part? (← (w.interpreter.heap.toJson v).toOption) w) := by
  intro w ex hex
  rw [run_bind, run_toJson]
  dsimp only
  cases w.interpreter.heap.toJson v with
  | ok j => exact hf j w ex hex
  | error e => exact hex

/-- The part may be what a service answers. -/
theorem serve {call : ServiceCall} {f : call.Reply → Action F β}
    {part : call.Reply → Part}
    (hf : ∀ reply, Contributes (f reply) fun _ => some (part reply)) :
    Contributes (do f (← Action.serve call)) (fun w => do
      let services := (← w.interpreter.host).services
      (services.answer w.shared.history call).toOption.map part) := by
  intro w ex hex
  rw [run_bind, run_serve]
  cases hhost : w.interpreter.host with
  | none => exact hex
  | some context =>
    dsimp only
    cases context.services.provides call.kind with
    | false => exact hex
    | true =>
      rw [if_pos rfl]
      cases hanswer : context.services.answer w.shared.history call with
      | ok reply =>
        have hadds := hf reply
          { w with shared.history := ⟨call, false⟩ :: w.shared.history } ex hex
        simpa [hhost, hanswer, Except.toOption] using hadds
      | error e => exact hex

/-- Changing the exchange is the last deed of a function. -/
theorem deed {f : Exchange → Exchange} (p : Part) (v : β)
    (adds : ∀ ex, f ex = ex.addPart (some p)) :
    Contributes (do modifyExchange f; pure v : Action F β)
      fun _ => some p := by
  intro w ex hex
  rw [run_bind, run_modifyExchange, hex]
  exact congrArg some (adds ex)

end Contributes

end Action

/-! ## The functions of `http` -/

namespace HttpFunction

theorem respond_contributes (p : Part) :
    Contributes (respond p.add : Action F (List Value)) fun _ => some p :=
  .deed p [] fun _ => rfl

theorem textOf_keeps (texts : KeyMap String) (key : Option String) :
    KeepsExchange (textOf texts key : Action F (List Value)) := by
  cases key with
  | some k => exact .of_quiet (.pure _)
  | none =>
    exact .of_indifferent ((Indifferent.ofJson _).bind fun _ => .pure _)

theorem contributes (f : HttpFunction) (args : List Value) :
    Contributes (f.run args : Action F (List Value)) (f.part? args) := by
  cases f with
  | get | postForm =>
    exact ((KeepsExchange.of_quiet (.argument _ _ _)).bind fun key =>
      (KeepsExchange.of_quiet .exchange).bind fun ex =>
        textOf_keeps _ key).contributes
  | getHeader =>
    exact (KeepsExchange.of_quiet ((Quiet.argument _ _ _).bind fun name =>
      Quiet.exchange.bind fun ex => .pure _)).contributes
  | getRemoteAddress =>
    exact (KeepsExchange.of_quiet
      (Quiet.exchange.bind fun ex => .pure _)).contributes
  | redirect =>
    exact .argument fun location => .argument fun status =>
      respond_contributes (.redirect _ location)
  | render =>
    exact .argument fun template => .toJson fun data => .serve fun page =>
      respond_contributes (.page page)
  | write => exact .argument fun bytes => respond_contributes (.bytes bytes)
  | serveFile => exact .argument fun path => respond_contributes (.file path)
  | setHeader =>
    exact .argument fun name => .argument fun value =>
      respond_contributes (.header name value)

end HttpFunction

/-! ## The functions of `session` -/

namespace SessionFunction

theorem run_session {w : World F} {ex : Exchange}
    (hex : w.interpreter.exchange = some ex) :
    session.run.run w = (.ok ex.session, w) := by
  rw [session, run_bind, run_exchange, hex]
  rfl

theorem change_contributes (change : SessionChange) (v : List Value) :
    Contributes (do SessionFunction.change change.apply; pure v : Action F _)
      fun _ => some (.session change) :=
  .deed _ v fun _ => rfl

/-- A message is read and taken away at once. -/
theorem takeFlash_contributes (key : String) :
    Contributes (do
        let (message, rest) := (← session).takeFlash key
        change fun _ => rest
        pure [.ofText? message] : Action F (List Value))
      fun _ => some (.session (.takeFlash key)) := by
  intro w ex hex
  rw [run_bind, run_session hex]
  dsimp only
  rw [run_bind, change, run_modifyExchange, hex]
  rfl

theorem contributes (f : SessionFunction) (args : List Value) :
    Contributes (f.run args : Action F (List Value)) (f.part? args) := by
  cases f with
  | isLogged | isAdmin =>
    exact (KeepsExchange.of_quiet
      (session_quiet.bind fun _ => .pure _)).contributes
  | get =>
    exact ((KeepsExchange.of_quiet (.argument _ _ _)).bind fun key =>
      (KeepsExchange.of_quiet session_quiet).bind fun s =>
        .of_indifferent
          ((Indifferent.ofJson? _).bind fun _ => .pure _)).contributes
  | loggedAccount =>
    exact ((KeepsExchange.of_quiet session_quiet).bind fun s =>
      .of_indifferent
        ((Indifferent.ofJson? _).bind fun _ => .pure _)).contributes
  | getFlash => exact .argument fun key => takeFlash_contributes key
  | setFlash =>
    exact .argument fun key => .argument fun message =>
      change_contributes (.setFlash key message) []
  | set =>
    exact .argument fun key => .toJson fun value =>
      change_contributes (.set key value) []
  | destroy => exact change_contributes .destroy []

end SessionFunction

/-! ## All functions -/

/-- Checking a captcha looks at the request, and no more. -/
theorem CaptchaFunction.verify_keepsExchange (args : List Value) :
    KeepsExchange (CaptchaFunction.verify.run args
      : Action F (List Value)) := by
  refine (KeepsExchange.of_quiet (.argument _ _ _)).bind fun response => ?_
  refine (KeepsExchange.of_quiet .host).bind fun context => ?_
  dsimp only
  split
  · exact .of_quiet (.pure _)
  · exact (KeepsExchange.of_quiet .exchange).bind fun ex =>
      .of_indifferent ((Indifferent.serve _).bind fun _ => .pure _)

/-- **What a function adds to the response of a run.** -/
theorem Capability.contributes (c : Capability) (args : List Value) :
    Contributes (c.run args : Action F (List Value)) (c.part? args) := by
  cases h : c.usesRequest with
  | false =>
    have hnone : c.part? args = fun _ : World F => none := by
      cases c with
      | http f | session f => cases h
      | _ => rfl
    rw [hnone]
    exact (KeepsExchange.of_indifferent (c.indifferent h args)).contributes
  | true =>
    cases c with
    | http f => exact f.contributes args
    | session f => exact f.contributes args
    | captcha f =>
      cases f with
      | verify => exact (CaptchaFunction.verify_keepsExchange args).contributes
      | isEnabled => cases h
    | _ => cases h

end ScriptHost
