/-
ScriptHost.Proofs.Capability.Request — which functions need a request.

The functions of `http` and `session` need one (`HttpFunction.needsRequest`,
`SessionFunction.needsRequest`), and so does `captcha.verify` where captchas
are switched on. All others are indifferent (`Capability.indifferent`). No
function at all starts a run or ends one (`Capability.staysOutside`).
-/
import ScriptHost.Capability.Basic
import ScriptHost.Proofs.Script.Request

namespace ScriptHost

variable {F : Type}

open ScriptHost.Action

/-! ## Functions that need no request -/

@[grind ←] theorem Action.Indifferent.mapM {α β : Type} {f : α → Action F β}
    (hf : ∀ x, Indifferent (f x)) (row : List α) :
    Indifferent (row.mapM f) := by
  induction row with
  | nil => exact .pure _
  | cons x rest ih =>
    rw [List.mapM_cons]
    exact (hf x).bind fun _ => ih.bind fun _ => .pure _

@[grind .] theorem CryptoFunction.randomText_indifferent
    (letters : List Char) (count : Nat) :
    Indifferent (CryptoFunction.randomText letters count : Action F Value) := by
  grind [CryptoFunction.randomText]

@[grind .] theorem DatabaseFunction.statement_indifferent
    (args : List Value) :
    Indifferent
      (DatabaseFunction.statement args : Action F (String × List Json)) := by
  unfold DatabaseFunction.statement
  split <;> grind

@[grind .] theorem CacheFunction.lifetime_indifferent
    (seconds : Option Binary64) :
    Indifferent (CacheFunction.lifetime seconds : Action F (Option Nat)) := by
  cases seconds <;> grind [CacheFunction.lifetime]

@[grind .] theorem CacheFunction.expiry_indifferent (lifetime : Option Nat) :
    Indifferent (CacheFunction.expiry lifetime : Action F (Option Nat)) := by
  cases lifetime <;> grind [CacheFunction.expiry]

@[grind .] theorem PaymentFunction.requireEnabled_indifferent :
    Indifferent (PaymentFunction.requireEnabled : Action F Unit) := by
  grind [PaymentFunction.requireEnabled]

@[grind .] theorem PlayerFunction.key_indifferent (v : Value) :
    Indifferent (PlayerFunction.key v : Action F PlayerKey) := by
  cases v <;> grind [PlayerFunction.key]

@[grind .] theorem PlayerFunction.find_indifferent (args : List Value) :
    Indifferent (PlayerFunction.find args : Action F (List Value)) := by
  grind [PlayerFunction.find]

@[grind .] theorem PlayerFunction.record_indifferent (args : List Value) :
    Indifferent (PlayerFunction.record args : Action F PlayerRecord) := by
  grind [PlayerFunction.record]

@[grind .] theorem ImageFunction.change_indifferent (object : TableId)
    (f : ImageSpec → ImageSpec) :
    Indifferent (ImageFunction.change object f : Action F (List Value)) := by
  grind [ImageFunction.change]

@[grind .] theorem XmlFunction.read_indifferent (source : String) :
    Indifferent (XmlFunction.read source : Action F Value) := by
  grind [XmlFunction.read]

/-- The interpreter is looked at, but not its request. -/
@[grind .] theorem XmlFunction.nodeOf_indifferent (v : Value) :
    Indifferent (XmlFunction.nodeOf v : Action F XmlNode) := by
  refine .reading (fun i => ?_) fun _ _ => rfl
  grind

@[grind .] theorem MailFunction.addresses_indifferent (v : Value) :
    Indifferent (MailFunction.addresses v : Action F (List String)) := by
  unfold MailFunction.addresses
  split
  · grind
  · exact .reading (fun i => .mapM (fun _ => .ofExcept _) _) fun _ _ => rfl
  · grind

@[grind .] theorem MailFunction.recipients_indifferent (v : Value) :
    Indifferent (MailFunction.recipients v : Action F (List String)) := by
  grind [MailFunction.recipients]

@[grind .] theorem UrlFunction.refuse_indifferent (e : Form.Refusal) :
    Indifferent (UrlFunction.refuse e : Action F (List Value)) := by
  cases e <;> grind [UrlFunction.refuse]

@[grind .] theorem TimeFunction.refuse_indifferent (text : String)
    (e : Duration.Refusal) :
    Indifferent (TimeFunction.refuse text e : Action F (List Value)) := by
  cases e <;> grind [TimeFunction.refuse]

theorem CryptoFunction.indifferent (f : CryptoFunction) (args : List Value) :
    Indifferent (f.run args : Action F (List Value)) := by
  cases f <;> grind [CryptoFunction.run]

theorem DatabaseFunction.indifferent (f : DatabaseFunction) (args : List Value) :
    Indifferent (f.run args : Action F (List Value)) := by
  cases f <;> grind [DatabaseFunction.run]

theorem SettingsFunction.indifferent (f : SettingsFunction) (args : List Value) :
    Indifferent (f.run args : Action F (List Value)) := by
  cases f
  grind [SettingsFunction.run]

theorem ValidatorFunction.indifferent (f : ValidatorFunction) (args : List Value) :
    Indifferent (f.run args : Action F (List Value)) := by
  cases f <;> grind [ValidatorFunction.run, ValidatorFunction.name]

theorem MapFunction.indifferent (f : MapFunction) (args : List Value) :
    Indifferent (f.run args : Action F (List Value)) := by
  cases f <;> grind [MapFunction.run, MapFunction.gameData]

theorem XmlFunction.indifferent (f : XmlFunction) (args : List Value) :
    Indifferent (f.run args : Action F (List Value)) := by
  cases f <;> grind [XmlFunction.run, XmlFunction.gameData]

theorem MailFunction.indifferent (f : MailFunction) (args : List Value) :
    Indifferent (f.run args : Action F (List Value)) := by
  cases f
  grind [MailFunction.run]

theorem CacheFunction.indifferent (f : CacheFunction) (args : List Value) :
    Indifferent (f.run args : Action F (List Value)) := by
  cases f with
  | set =>
    refine (Indifferent.argument _ _ _).bind fun key => ?_
    refine (Indifferent.argument _ _ _).bind fun seconds => ?_
    refine (lifetime_indifferent seconds).bind fun lifetime => ?_
    grind
  | get | delete => grind [CacheFunction.run]

theorem UrlFunction.indifferent (f : UrlFunction) (args : List Value) :
    Indifferent (f.run args : Action F (List Value)) := by
  cases f <;> grind [UrlFunction.run]

theorem TimeFunction.indifferent (f : TimeFunction) (args : List Value) :
    Indifferent (f.run args : Action F (List Value)) := by
  cases f <;> grind [TimeFunction.run]

theorem JsonFunction.indifferent (f : JsonFunction) (args : List Value) :
    Indifferent (f.run args : Action F (List Value)) := by
  cases f <;> grind [JsonFunction.run]

theorem StorageFunction.indifferent (f : StorageFunction) (args : List Value) :
    Indifferent (f.run args : Action F (List Value)) := by
  cases f <;> grind [StorageFunction.run]

theorem WidgetFunction.indifferent (f : WidgetFunction) (args : List Value) :
    Indifferent (f.run args : Action F (List Value)) := by
  cases f
  grind [WidgetFunction.run]

theorem EventsFunction.indifferent (f : EventsFunction) (args : List Value) :
    Indifferent (f.run args : Action F (List Value)) := by
  cases f
  grind [EventsFunction.run]

theorem EventFunction.indifferent (f : EventFunction) (args : List Value) :
    Indifferent (f.run args : Action F (List Value)) := by
  cases f
  grind [EventFunction.run]

theorem PaymentFunction.indifferent (f : PaymentFunction) (args : List Value) :
    Indifferent (f.run args : Action F (List Value)) := by
  cases f <;> grind [PaymentFunction.run]

theorem ImagesFunction.indifferent (f : ImagesFunction) (args : List Value) :
    Indifferent (f.run args : Action F (List Value)) := by
  cases f
  grind [ImagesFunction.run]

theorem ImageFunction.indifferent (f : ImageFunction) (args : List Value) :
    Indifferent (f.run args : Action F (List Value)) := by
  cases f <;> grind [ImageFunction.run]

theorem FileFunction.indifferent (f : FileFunction) (args : List Value) :
    Indifferent (f.run args : Action F (List Value)) := by
  cases f <;> grind [FileFunction.run]

theorem EnvironmentFunction.indifferent (f : EnvironmentFunction) (args : List Value) :
    Indifferent (f.run args : Action F (List Value)) := by
  cases f <;> grind [EnvironmentFunction.run]

theorem PlayerFunction.indifferent (f : PlayerFunction) (args : List Value) :
    Indifferent (f.run args : Action F (List Value)) := by
  cases f <;> grind [PlayerFunction.run, PlayerFunction.recordOf]

theorem DebugFunction.indifferent (f : DebugFunction) (args : List Value) :
    Indifferent (f.run args : Action F (List Value)) := by
  cases f
  exact .reading (fun _ => .pure _) fun _ _ => rfl

theorem SampleFunction.indifferent (f : SampleFunction) (args : List Value) :
    Indifferent (f.run args : Action F (List Value)) := by
  cases f with
  | size =>
    exact (Indifferent.argument _ _ _).bind fun id =>
      .reading (fun _ => .pure _) fun _ _ => rfl
  | echo | add | greet | failing | toggle | isLit | newLamp =>
    grind [SampleFunction.run]

/-- Can a function belong to the request of a run? -/
def Capability.usesRequest : Capability → Bool
  | .http _ => true
  | .session _ => true
  | .captcha .verify => true
  | _ => false

/-- **All other functions are indifferent.** -/
theorem Capability.indifferent {c : Capability}
    (h : c.usesRequest = false) (args : List Value) :
    Indifferent (c.run args : Action F (List Value)) := by
  cases c with
  | http f => cases h
  | session f => cases h
  | captcha f =>
    cases f with
    | verify => cases h
    | isEnabled => exact Indifferent.host.bind fun _ => .pure _
  | findPlayer => exact PlayerFunction.find_indifferent args
  | crypto f => exact f.indifferent args
  | database f => exact f.indifferent args
  | settings f => exact f.indifferent args
  | validator f => exact f.indifferent args
  | map f => exact f.indifferent args
  | xml f => exact f.indifferent args
  | mail f => exact f.indifferent args
  | cache f => exact f.indifferent args
  | debug f => exact f.indifferent args
  | url f => exact f.indifferent args
  | time f => exact f.indifferent args
  | json f => exact f.indifferent args
  | storage f => exact f.indifferent args
  | widget f => exact f.indifferent args
  | events f => exact f.indifferent args
  | event f => exact f.indifferent args
  | payment f => exact f.indifferent args
  | images f => exact f.indifferent args
  | image f => exact f.indifferent args
  | file f => exact f.indifferent args
  | environment f => exact f.indifferent args
  | player f => exact f.indifferent args
  | sample f => exact f.indifferent args

/-! ## Functions that need a request -/

@[grind .] theorem HttpFunction.respond_needsRequest
    (f : Response → Response) :
    NeedsRequest (HttpFunction.respond f : Action F (List Value)) :=
  (NeedsRequest.modifyExchange _).first

@[grind .] theorem SessionFunction.session_needsRequest :
    NeedsRequest (SessionFunction.session : Action F Session) :=
  NeedsRequest.exchange.first

@[grind .] theorem SessionFunction.change_needsRequest
    (f : Session → Session) :
    NeedsRequest (SessionFunction.change f : Action F Unit) :=
  NeedsRequest.modifyExchange _

theorem HttpFunction.needsRequest (f : HttpFunction) (args : List Value) :
    NeedsRequest (f.run args : Action F (List Value)) := by
  cases f <;> grind [HttpFunction.run]

theorem SessionFunction.needsRequest (f : SessionFunction)
    (args : List Value) :
    NeedsRequest (f.run args : Action F (List Value)) := by
  cases f <;> grind [SessionFunction.run]

/-- Does a function need a request on a host? -/
def Capability.IsRequestScoped (host : Option HostContext) :
    Capability → Prop
  | .http _ => True
  | .session _ => True
  | .captcha .verify => ∀ context, host = some context →
    context.config.captcha.enabled = true
  | _ => False

/-- Where captchas are switched on, checking one needs a request. -/
theorem CaptchaFunction.verify_needsRequest (args : List Value)
    {w : World F} (hw : w.Outside)
    (enabled : ∀ context, w.interpreter.host = some context →
      context.config.captcha.enabled = true) :
    NeedsRequestAt (CaptchaFunction.verify.run args) w := by
  refine NeedsRequest.bind_at (.argument _ _ _) fun response w₁ hw₁ => ?_
  rw [run_argument] at hw₁
  obtain ⟨-, rfl⟩ := Prod.mk.inj hw₁
  refine NeedsRequest.bind_at .host fun context w₂ hw₂ => ?_
  rw [run_host] at hw₂
  obtain ⟨hok, rfl⟩ := Prod.mk.inj hw₂
  have hhost : w.interpreter.host = some context := by
    cases hhost : w.interpreter.host with
    | none =>
      rw [hhost] at hok
      cases hok
    | some c =>
      rw [hhost] at hok
      cases hok
      rfl
  dsimp only
  rw [enabled context hhost]
  exact (NeedsRequest.exchange.first w hw).1

theorem CaptchaFunction.staysOutside (f : CaptchaFunction)
    (args : List Value) :
    StaysOutside (f.run args : Action F (List Value)) := by
  cases f <;> grind [CaptchaFunction.run]

/-! ## All functions -/

/-- **A function that needs a request fails outside of a run.** -/
theorem Capability.needsRequest {c : Capability} {w : World F}
    (hw : w.Outside) (needs : c.IsRequestScoped w.interpreter.host)
    (args : List Value) : NeedsRequestAt (c.run args) w := by
  cases c with
  | http f => exact (f.needsRequest args w hw).1
  | session f => exact (f.needsRequest args w hw).1
  | captcha f =>
    cases f with
    | verify => exact CaptchaFunction.verify_needsRequest args hw needs
    | isEnabled => cases needs
  | _ => cases needs

/-- **No function starts a run.** -/
theorem Capability.staysOutside (c : Capability) (args : List Value) :
    StaysOutside (c.run args : Action F (List Value)) := by
  cases h : c.usesRequest with
  | false => exact .of_indifferent (c.indifferent h args)
  | true =>
    cases c with
    | http f => exact .of_needsRequest (f.needsRequest args)
    | session f => exact .of_needsRequest (f.needsRequest args)
    | captcha f => exact f.staysOutside args
    | _ => cases h

end ScriptHost
