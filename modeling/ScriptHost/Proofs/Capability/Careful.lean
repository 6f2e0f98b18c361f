/-
ScriptHost.Proofs.Capability.Careful — functions that leave no trace when
they fail.

Nearly all functions are careful by themselves (`Capability.careful`): what
they check comes before their one deed. Two of them make an object after
they have asked a service, so they are careful only where the type of the
object is there (`EventsFunction.carefulAt`, `PlayerFunction.find_carefulAt`).
All of them keep the frame of the interpreter in any case
(`Capability.keepsFrame`).
-/
import ScriptHost.Proofs.Capability.Request
import ScriptHost.Proofs.Script.Careful

namespace ScriptHost

variable {F : Type}

open ScriptHost.Action

/-! ## Functions that ask and answer -/

@[grind .] theorem CryptoFunction.randomText_sure (letters : List Char)
    (count : Nat) :
    Sure (CryptoFunction.randomText letters count : Action F Value) := by
  grind [CryptoFunction.randomText]

@[grind .] theorem CryptoFunction.randomText_careful (letters : List Char)
    (count : Nat) :
    Careful (CryptoFunction.randomText letters count : Action F Value) :=
  .of_sure (randomText_sure letters count)

@[grind .] theorem DatabaseFunction.statement_quiet (args : List Value) :
    Quiet
      (DatabaseFunction.statement args : Action F (String × List Json)) := by
  unfold DatabaseFunction.statement
  split <;> grind

@[grind .] theorem PaymentFunction.requireEnabled_quiet :
    Quiet (PaymentFunction.requireEnabled : Action F Unit) := by
  grind [PaymentFunction.requireEnabled]

@[grind .] theorem PlayerFunction.key_quiet (v : Value) :
    Quiet (PlayerFunction.key v : Action F PlayerKey) := by
  cases v <;> grind [PlayerFunction.key]

@[grind .] theorem PlayerFunction.record_quiet (args : List Value) :
    Quiet (PlayerFunction.record args : Action F PlayerRecord) := by
  grind [PlayerFunction.record]

@[grind .] theorem MapFunction.gameData_quiet :
    Quiet (MapFunction.gameData : Action F GameData) := by
  grind [MapFunction.gameData]

@[grind .] theorem XmlFunction.gameData_quiet :
    Quiet (XmlFunction.gameData : Action F GameData) := by
  grind [XmlFunction.gameData]

@[grind .] theorem XmlFunction.read_careful (source : String) :
    Careful (XmlFunction.read source : Action F Value) := by
  grind [XmlFunction.read]

@[grind .] theorem XmlFunction.nodeOf_quiet (v : Value) :
    Quiet (XmlFunction.nodeOf v : Action F XmlNode) := by
  grind [XmlFunction.nodeOf]

@[grind .] theorem MailFunction.addresses_quiet (v : Value) :
    Quiet (MailFunction.addresses v : Action F (List String)) := by
  cases v <;> grind [MailFunction.addresses]

@[grind .] theorem MailFunction.recipients_quiet (v : Value) :
    Quiet (MailFunction.recipients v : Action F (List String)) := by
  grind [MailFunction.recipients]

@[grind .] theorem ValidatorFunction.name_quiet (args : List Value) :
    Quiet (ValidatorFunction.name args : Action F String) := by
  grind [ValidatorFunction.name]

@[grind .] theorem UrlFunction.refuse_careful (e : Form.Refusal) :
    Careful (UrlFunction.refuse e : Action F (List Value)) := by
  cases e <;> grind [UrlFunction.refuse]

@[grind .] theorem TimeFunction.refuse_careful (text : String)
    (e : Duration.Refusal) :
    Careful (TimeFunction.refuse text e : Action F (List Value)) := by
  cases e <;> grind [TimeFunction.refuse]

theorem CryptoFunction.careful (f : CryptoFunction) (args : List Value) :
    Careful (f.run args : Action F (List Value)) := by
  cases f <;> grind [CryptoFunction.run]

theorem DatabaseFunction.careful (f : DatabaseFunction) (args : List Value) :
    Careful (f.run args : Action F (List Value)) := by
  cases f <;> grind [DatabaseFunction.run]

theorem SettingsFunction.careful (f : SettingsFunction) (args : List Value) :
    Careful (f.run args : Action F (List Value)) := by
  cases f
  grind [SettingsFunction.run]

theorem ValidatorFunction.careful (f : ValidatorFunction)
    (args : List Value) :
    Careful (f.run args : Action F (List Value)) := by
  cases f <;> grind [ValidatorFunction.run]

theorem CaptchaFunction.careful (f : CaptchaFunction) (args : List Value) :
    Careful (f.run args : Action F (List Value)) := by
  cases f <;> grind [CaptchaFunction.run]

theorem MapFunction.careful (f : MapFunction) (args : List Value) :
    Careful (f.run args : Action F (List Value)) := by
  cases f <;> grind [MapFunction.run]

theorem XmlFunction.careful (f : XmlFunction) (args : List Value) :
    Careful (f.run args : Action F (List Value)) := by
  cases f <;> grind [XmlFunction.run]

theorem MailFunction.careful (f : MailFunction) (args : List Value) :
    Careful (f.run args : Action F (List Value)) := by
  cases f
  grind [MailFunction.run]

theorem DebugFunction.careful (f : DebugFunction) (args : List Value) :
    Careful (f.run args : Action F (List Value)) := by
  cases f
  grind [DebugFunction.run]

theorem UrlFunction.careful (f : UrlFunction) (args : List Value) :
    Careful (f.run args : Action F (List Value)) := by
  cases f <;> grind [UrlFunction.run]

theorem TimeFunction.careful (f : TimeFunction) (args : List Value) :
    Careful (f.run args : Action F (List Value)) := by
  cases f <;> grind [TimeFunction.run]

theorem JsonFunction.careful (f : JsonFunction) (args : List Value) :
    Careful (f.run args : Action F (List Value)) := by
  cases f <;> grind [JsonFunction.run]

theorem WidgetFunction.careful (f : WidgetFunction) (args : List Value) :
    Careful (f.run args : Action F (List Value)) := by
  cases f
  grind [WidgetFunction.run]

theorem EventFunction.careful (f : EventFunction) (args : List Value) :
    Careful (f.run args : Action F (List Value)) := by
  cases f
  grind [EventFunction.run]

theorem PaymentFunction.careful (f : PaymentFunction) (args : List Value) :
    Careful (f.run args : Action F (List Value)) := by
  cases f <;> grind [PaymentFunction.run]

theorem ImagesFunction.careful (f : ImagesFunction) (args : List Value) :
    Careful (f.run args : Action F (List Value)) := by
  cases f
  grind [ImagesFunction.run]

theorem FileFunction.careful (f : FileFunction) (args : List Value) :
    Careful (f.run args : Action F (List Value)) := by
  cases f <;> grind [FileFunction.run]

theorem PlayerFunction.careful (f : PlayerFunction) (args : List Value) :
    Careful (f.run args : Action F (List Value)) := by
  cases f <;> grind [PlayerFunction.run, PlayerFunction.recordOf]

theorem SampleFunction.careful (f : SampleFunction) (args : List Value) :
    Careful (f.run args : Action F (List Value)) := by
  cases f <;> grind [SampleFunction.run]

/-! ## Functions with a deed -/

theorem HttpFunction.respond_careful (f : Response → Response) :
    Careful (HttpFunction.respond f : Action F (List Value)) :=
  (Careful.modifyExchange _).before_sure fun _ => .pure _

theorem HttpFunction.textOf_careful (texts : KeyMap String)
    (key : Option String) :
    Careful (HttpFunction.textOf texts key : Action F (List Value)) := by
  cases key with
  | some k => exact .pure _
  | none => exact (Careful.ofJson _).before_sure fun _ => .pure _

theorem HttpFunction.careful (f : HttpFunction) (args : List Value) :
    Careful (f.run args : Action F (List Value)) := by
  cases f with
  | redirect =>
    exact .after_quiet (.argument _ _ _) fun location =>
      .after_quiet (.argument _ _ _) fun status => respond_careful _
  | render =>
    -- The page is drawn before it is known that there is a response.
    exact .after_quiet (.argument _ _ _) fun template =>
      .after_quiet (.toJson _) fun data =>
        .after_quiet (.serve rfl) fun page => respond_careful _
  | write =>
    exact .after_quiet (.argument _ _ _) fun bytes => respond_careful _
  | serveFile =>
    exact .after_quiet (.argument _ _ _) fun path => respond_careful _
  | get | postForm =>
    exact .after_quiet (.argument _ _ _) fun key =>
      .after_quiet .exchange fun ex => textOf_careful _ key
  | setHeader =>
    exact .after_quiet (.argument _ _ _) fun name =>
      .after_quiet (.argument _ _ _) fun value => respond_careful _
  | getHeader =>
    exact .after_quiet (.argument _ _ _) fun name =>
      .after_quiet .exchange fun ex => .pure _
  | getRemoteAddress =>
    exact .after_quiet .exchange fun ex => .pure _

theorem SessionFunction.change_careful (f : Session → Session) :
    Careful (SessionFunction.change f : Action F Unit) :=
  .modifyExchange _

theorem SessionFunction.session_quiet :
    Quiet (SessionFunction.session : Action F Session) :=
  Quiet.exchange.bind fun _ => .pure _

theorem SessionFunction.careful (f : SessionFunction) (args : List Value) :
    Careful (f.run args : Action F (List Value)) := by
  cases f with
  | isLogged | isAdmin => exact .after_quiet session_quiet fun s => .pure _
  | getFlash =>
    exact .after_quiet (.argument _ _ _) fun key =>
      .after_quiet session_quiet fun s =>
        (change_careful _).before_sure fun _ => .pure _
  | setFlash =>
    exact .after_quiet (.argument _ _ _) fun key =>
      .after_quiet (.argument _ _ _) fun message =>
        (change_careful _).before_sure fun _ => .pure _
  | get =>
    exact .after_quiet (.argument _ _ _) fun key =>
      .after_quiet session_quiet fun s =>
        (Careful.ofJson? _).before_sure fun _ => .pure _
  | set =>
    exact .after_quiet (.argument _ _ _) fun key =>
      .after_quiet (.toJson _) fun value =>
        (change_careful _).before_sure fun _ => .pure _
  | destroy => exact (change_careful _).before_sure fun _ => .pure _
  | loggedAccount =>
    exact .after_quiet session_quiet fun s =>
      (Careful.ofJson? _).before_sure fun _ => .pure _

theorem CacheFunction.lifetime_quiet (seconds : Option Binary64) :
    Quiet (CacheFunction.lifetime seconds : Action F (Option Nat)) := by
  cases seconds with
  | none => exact .pure _
  | some x => exact (Quiet.ofOption _ _).bind fun _ => .pure _

/-- A lifetime that no clock can hold is found out before the cache is
written. -/
theorem CacheFunction.expiry_quiet (lifetime : Option Nat) :
    Quiet (CacheFunction.expiry lifetime : Action F (Option Nat)) := by
  cases lifetime with
  | none => exact .pure _
  | some ns =>
    refine Quiet.shared.bind fun s => ?_
    split
    · exact .pure _
    · exact .panic

theorem CacheFunction.careful (f : CacheFunction) (args : List Value) :
    Careful (f.run args : Action F (List Value)) := by
  cases f with
  | get =>
    exact .after_quiet (.argument _ _ _) fun key =>
      .after_quiet .host fun _ => .after_quiet .shared fun s =>
        (Careful.ofJson? _).before_sure fun _ => .pure _
  | set =>
    exact .after_quiet (.argument _ _ _) fun key =>
      .after_quiet (.argument _ _ _) fun seconds =>
        .after_quiet (lifetime_quiet seconds) fun lifetime =>
          .after_quiet (.toJson _) fun value =>
            .after_quiet .host fun _ =>
              .after_quiet (expiry_quiet lifetime) fun expiry =>
                .of_sure ((Sure.modifyShared _).bind fun _ => .pure _)
  | delete =>
    exact .after_quiet (.argument _ _ _) fun key =>
      .after_quiet .host fun _ => .after_quiet .shared fun s =>
        .of_sure ((Sure.modifyShared _).bind fun _ => .pure _)

theorem StorageFunction.careful (f : StorageFunction) (args : List Value) :
    Careful (f.run args : Action F (List Value)) := by
  cases f with
  | get =>
    exact .after_quiet (.argument _ _ _) fun key =>
      .after_quiet .host fun _ => .after_quiet .shared fun s =>
        (Careful.ofJson? _).before_sure fun _ => .pure _
  | set =>
    exact .after_quiet (.argument _ _ _) fun key =>
      .after_quiet (.toJson _) fun value => .after_quiet .host fun _ =>
        .of_sure ((Sure.modifyShared _).bind fun _ => .pure _)

theorem EnvironmentFunction.careful (f : EnvironmentFunction)
    (args : List Value) : Careful (f.run args : Action F (List Value)) := by
  cases f with
  | get =>
    exact .after_quiet (.argument _ _ _) fun name =>
      .after_quiet .shared fun s => .pure _
  | set =>
    refine .after_quiet (.argument _ _ _) fun name =>
      .after_quiet (.argument _ _ _) fun value => ?_
    split
    · exact .of_sure ((Sure.modifyShared _).bind fun _ => .pure _)
    · exact .complain _

/-- Whose state a handle stands for is found out before the state of an
image is written. -/
theorem ImageFunction.change_careful (object : TableId)
    (f : ImageSpec → ImageSpec) :
    Careful (ImageFunction.change object f : Action F (List Value)) :=
  .after_quiet (.stateOf _ _) fun _ =>
    (Careful.setState _ _).before_sure fun _ => .pure _

theorem ImageFunction.careful (f : ImageFunction) (args : List Value) :
    Careful (f.run args : Action F (List Value)) := by
  cases f with
  | writeText =>
    exact .after_quiet (.argument _ _ _) fun object =>
      .after_quiet (.argument _ _ _) fun text =>
        .after_quiet (.argument _ _ _) fun x =>
          .after_quiet (.argument _ _ _) fun y =>
            .after_quiet (.argument _ _ _) fun size =>
              .after_quiet (.argument _ _ _) fun color =>
                change_careful object _
  | setBackground =>
    exact .after_quiet (.argument _ _ _) fun object =>
      .after_quiet (.argument _ _ _) fun path => change_careful object _
  | save =>
    exact .after_quiet (.argument _ _ _) fun object =>
      .after_quiet (.argument _ _ _) fun path =>
        .after_quiet (.stateOf _ _) fun spec =>
          (Careful.serve _).before_sure fun _ => .pure _

/-! ## Functions that make an object after their deed -/

theorem EventsFunction.carefulAt (f : EventsFunction) (args : List Value)
    {w : World F} (h : w.interpreter.HasType eventType) :
    CarefulAt w (f.run args : Action F (List Value)) := by
  cases f with
  | add =>
    refine .after_quiet (.argument _ _ _) fun seconds w₁ h₁ =>
      .after_quiet (.argument _ _ _) fun script w₂ h₂ =>
        .after_quiet (.ofOption _ _) fun interval w₃ h₃ => ?_
    refine (Careful.schedule interval script w₃).followed
      fun id w₄ hrun => ?_
    have hframe := (Careful.schedule interval script).keepsFrame.after hrun
    have h₄ : w₄.interpreter.HasType eventType := by
      rw [hframe.hasType, h₃, h₂, h₁]
      exact h
    obtain ⟨v, w₅, hmade, hframe'⟩ := Careful.newObject_sure (.event id) h₄
    exact ⟨_, w₅, by rw [run_bind, hmade]; rfl, hframe'⟩

theorem EventsFunction.keepsFrame (f : EventsFunction) (args : List Value) :
    KeepsFrame (f.run args : Action F (List Value)) := by
  cases f with
  | add =>
    exact (Quiet.argument _ _ _).keepsFrame.bind fun seconds =>
      (Quiet.argument _ _ _).keepsFrame.bind fun script =>
        (Quiet.ofOption _ _).keepsFrame.bind fun interval =>
          (Careful.schedule _ _).keepsFrame.bind fun id =>
            (Careful.newObject _ _).keepsFrame.bind fun v =>
              (Quiet.pure _).keepsFrame

theorem PlayerFunction.find_carefulAt (args : List Value) {w : World F}
    (h : w.interpreter.HasType playerType) :
    CarefulAt w (PlayerFunction.find args : Action F (List Value)) := by
  refine .after_quiet (key_quiet _) fun key w₁ h₁ => ?_
  refine (Careful.serve (.findPlayer key) w₁).followed
    fun found w₂ hrun => ?_
  have hframe := (Careful.serve (.findPlayer key)).keepsFrame.after hrun
  have h₂ : w₂.interpreter.HasType playerType := by
    rw [hframe.hasType, h₁]
    exact h
  cases found with
  | none => exact ⟨_, _, rfl, .refl _⟩
  | some record =>
    obtain ⟨v, w₃, hmade, hframe'⟩ :=
      Careful.newObject_sure (.player record) h₂
    exact ⟨_, w₃, by dsimp only; rw [run_bind, hmade]; rfl, hframe'⟩

theorem PlayerFunction.find_keepsFrame (args : List Value) :
    KeepsFrame (PlayerFunction.find args : Action F (List Value)) := by
  refine (key_quiet _).keepsFrame.bind fun key =>
    (Careful.serve _).keepsFrame.bind fun found => ?_
  cases found with
  | none => exact (Quiet.pure _).keepsFrame
  | some record =>
    exact (Careful.newObject _ _).keepsFrame.bind fun v =>
      (Quiet.pure _).keepsFrame

/-! ## All functions -/

/-- Does a function make an object after its deed? -/
def Capability.makesLate : Capability → Bool
  | .events _ => true
  | .findPlayer => true
  | _ => false

/-- **All other functions are careful.** -/
theorem Capability.careful {c : Capability} (h : c.makesLate = false)
    (args : List Value) : Careful (c.run args : Action F (List Value)) := by
  cases c with
  | events f => cases h
  | findPlayer => cases h
  | crypto f => exact f.careful args
  | database f => exact f.careful args
  | settings f => exact f.careful args
  | http f => exact f.careful args
  | validator f => exact f.careful args
  | session f => exact f.careful args
  | captcha f => exact f.careful args
  | map f => exact f.careful args
  | xml f => exact f.careful args
  | mail f => exact f.careful args
  | cache f => exact f.careful args
  | debug f => exact f.careful args
  | url f => exact f.careful args
  | time f => exact f.careful args
  | json f => exact f.careful args
  | storage f => exact f.careful args
  | widget f => exact f.careful args
  | event f => exact f.careful args
  | payment f => exact f.careful args
  | images f => exact f.careful args
  | image f => exact f.careful args
  | file f => exact f.careful args
  | environment f => exact f.careful args
  | player f => exact f.careful args
  | sample f => exact f.careful args

/-- **Every function is careful where the object types are there.** -/
theorem Capability.carefulAt (c : Capability) (args : List Value)
    {w : World F} (event : w.interpreter.HasType eventType)
    (player : w.interpreter.HasType playerType) :
    CarefulAt w (c.run args : Action F (List Value)) := by
  cases h : c.makesLate with
  | false => exact careful h args w
  | true =>
    cases c with
    | events f => exact f.carefulAt args event
    | findPlayer => exact PlayerFunction.find_carefulAt args player
    | _ => cases h

/-- **No function changes the frame of the interpreter.** -/
theorem Capability.keepsFrame (c : Capability) (args : List Value) :
    KeepsFrame (c.run args : Action F (List Value)) := by
  cases h : c.makesLate with
  | false => exact (careful h args).keepsFrame
  | true =>
    cases c with
    | events f => exact f.keepsFrame args
    | findPlayer => exact PlayerFunction.find_keepsFrame args
    | _ => cases h

end ScriptHost
