/-
ScriptHost.Host.Canned — services that answer from a list.

A host can be tried out with services whose answers are fixed beforehand.
Each one is there if it has a list of answers. What is changed through them,
such as values stored for players or events that are active, is seen from
what was asked before. Every service can be told to fail at certain names.
-/
import ScriptHost.Host.Service
import ScriptHost.Json.Text

namespace ScriptHost

/-- The answers of the database, by statement. -/
structure CannedDatabase where
  rows : KeyMap (List Row) := ∅
  results : KeyMap ExecResult := ∅

/-- The answers of the player service. -/
structure CannedPlayers where
  records : List PlayerRecord := []
  online : List Int := []
  /-- Player, key and value of what is stored. -/
  storage : List (Int × Int × Int) := []

/-- Answers that are fixed beforehand, with the names at which a service
fails. -/
structure Canned (A : Type) where
  answers : A
  fail : List String := []

/-- The answers of all services that are there. -/
structure CannedServices where
  database : Option (Canned CannedDatabase) := none
  templates : Option (Canned Unit) := none
  mailer : Option (Canned Unit) := none
  /-- What is known of payments. -/
  payments : Option (Canned (KeyMap Json)) := none
  /-- The right answers of captchas. -/
  captcha : Option (Canned (List String)) := none
  images : Option (Canned Unit) := none
  players : Option (Canned CannedPlayers) := none
  events : Option (Canned Unit) := none

namespace CannedServices

/-- Is the service there? -/
def provides (c : CannedServices) : ServiceKind → Bool
  | .database => c.database.isSome
  | .template => c.templates.isSome
  | .mail => c.mailer.isSome
  | .payment => c.payments.isSome
  | .captcha => c.captcha.isSome
  | .image => c.images.isSome
  | .player => c.players.isSome
  | .event => c.events.isSome

/-- Answers, unless the service fails at the name. -/
def unlessFailing {A B : Type} (service : Option (Canned A)) (name : String)
    (answer : A → B) : Except HostFault B :=
  match service with
  | some s =>
    if s.fail.contains name then .error (.service (name ++ " failed"))
    else .ok (answer s.answers)
  | none => .error (.service (name ++ " failed"))

/-- A name with its data, in brackets. -/
def drawing (kind name : String) (data : Json) : String :=
  "[" ++ kind ++ " " ++ name ++ " " ++ data.render ++ "]"

/-! ## Players -/

/-- A key of a player, as a name to fail at. -/
def keyText : PlayerKey → String
  | .id id => Decimal.intText id
  | .name name => name

/-- Is it the player that is meant? -/
def isMeant (key : PlayerKey) (r : PlayerRecord) : Bool :=
  match key with
  | .id id => r.id = id
  | .name name => sameIgnoringCase r.name name

/-- The value last written for a player. -/
def written? (player key : Int) : List Interaction → Option Int
  | [] => none
  | ⟨.setStorageValue p k v, false⟩ :: rest =>
    if p = player ∧ k = key then some v else written? player key rest
  | _ :: rest => written? player key rest

/-- The value stored for a player, the one last written first. -/
def stored? (history : List Interaction) (player key : Int)
    (players : CannedPlayers) : Option Int :=
  match written? player key history with
  | some v => some v
  | none =>
    (players.storage.reverse.find? fun (p, k, _) => p = player && k = key).map
      fun (_, _, v) => v

/-- The name at which questions about a player fail. -/
def playerName (question : String) (player : Int) : String :=
  question ++ " " ++ Decimal.intText player

/-! ## Events -/

/-- How many events were scheduled. -/
def scheduled : List Interaction → Nat
  | [] => 0
  | ⟨.schedule .., false⟩ :: rest => scheduled rest + 1
  | _ :: rest => scheduled rest

/-- Was an event cancelled? -/
def wasCancelled (event : EventId) : List Interaction → Bool
  | [] => false
  | ⟨.cancel id, _⟩ :: rest => id = event || wasCancelled event rest
  | _ :: rest => wasCancelled event rest

/-! ## Payments -/

/-- The record of a new payment. -/
def createdPayment (payment : Json) : Json :=
  .ofPairs [("id", .str "PAY-1"), ("state", .str "created"),
    ("payment", payment)]

/-- The record of a payment that was made. -/
def completedPayment (id payer : String) : Json :=
  .ofPairs [("id", .str id), ("payer", .str payer),
    ("state", .str "completed")]

/-- The answer to a question. -/
def answer (c : CannedServices) (history : List Interaction) :
    (call : ServiceCall) → Except HostFault call.Reply
  | .query sql _ =>
    unlessFailing c.database sql fun d => (d.rows.get? sql).getD []
  | .execute sql _ =>
    unlessFailing c.database sql fun d => (d.results.get? sql).getD {}
  | .renderPage name data =>
    unlessFailing c.templates name fun _ => drawing "page" name data
  | .renderWidget name data =>
    unlessFailing c.templates name fun _ => drawing "widget" name data
  | .sendMail mail => unlessFailing c.mailer mail.subject fun _ => ()
  | .createPayment payment =>
    unlessFailing c.payments "create" fun _ => createdPayment payment
  | .paymentInformation id =>
    unlessFailing c.payments id fun info => (info.get? id).getD .null
  | .executePayment id payer =>
    unlessFailing c.payments id fun _ => completedPayment id payer
  | .verifyCaptcha _ response _ =>
    unlessFailing c.captcha response fun accept => accept.contains response
  | .saveImage _ path => unlessFailing c.images path fun _ => ()
  | .findPlayer key =>
    unlessFailing c.players (keyText key) fun p =>
      p.records.find? (isMeant key)
  | .isOnline player =>
    unlessFailing c.players (playerName "online" player) fun p =>
      p.online.contains player
  | .storageValue player key =>
    unlessFailing c.players (playerName "storage" player)
      (stored? history player key)
  | .setStorageValue player _ _ =>
    unlessFailing c.players (playerName "storage" player) fun _ => ()
  | .schedule _ script =>
    unlessFailing c.events script fun _ => scheduled history
  | .cancel event =>
    .ok (decide (event < scheduled history)
      && !wasCancelled event history)

/-- The services with these answers. -/
def services (c : CannedServices) : Services where
  provides := c.provides
  answer := c.answer

end CannedServices

/-! ## Answers from data -/

open Json.Decode

def ExecResult.decode : Json.Decoder ExecResult := fun j => do
  match ← slots true ["rows_affected", "last_insert_id"] j with
  | [rows, id] =>
    pure {
      rowsAffected := ← withDefault 0 (natUpTo Word.max64) rows
      lastInsertId := ← withDefault none (optional int64) id }
  | _ => none

def PlayerRecord.decode : Json.Decoder PlayerRecord := fun j => do
  match ← slots true ["id", "name", "account_id", "level", "vocation",
    "town_id", "sex", "balance", "premium_days"] j with
  | [id, name, accountId, level, vocation, townId, sex, balance, days] =>
    pure {
      id := ← required int64 id
      name := ← required text name
      accountId := ← required int64 accountId
      level := ← required int64 level
      vocation := ← required int64 vocation
      townId := ← required int64 townId
      sex := ← required int64 sex
      balance := ← required int64 balance
      premiumDays := ← required int64 days }
  | _ => none

namespace CannedServices

/-- Any data at all. -/
def any : Json.Decoder Json := some

/-- A stored value: player, key and value. -/
def triple : Json.Decoder (Int × Int × Int)
  | .arr [p, k, v] => do pure (← int64 p, ← int64 k, ← int64 v)
  | _ => none

/-- A field of an object, or its default. -/
def field {A : Type} (j : Json) (name : String) (default : A)
    (item : Json.Decoder A) : Option A :=
  withDefault default item (j.field? name)

/-- The answers of a service, with the names at which it fails. -/
def service {A : Type} (answers : Json.Decoder A) :
    Json.Decoder (Canned A) := fun j => do
  pure { answers := ← answers j, fail := ← field j "fail" [] (list text) }

/-- No answers. -/
def nothing : Json.Decoder Unit := fun _ => some ()

def databaseAnswers : Json.Decoder CannedDatabase := fun j => do
  pure {
    rows := ← field j "query" ∅ (map (list (map any)))
    results := ← field j "execute" ∅ (map ExecResult.decode) }

def playerAnswers : Json.Decoder CannedPlayers := fun j => do
  pure {
    records := ← field j "records" [] (list PlayerRecord.decode)
    online := ← field j "online" [] (list int64)
    storage := ← field j "storage" [] (list triple) }

/-- A service that may be missing. -/
def maybe {A : Type} (j : Json) (name : String) (answers : Json.Decoder A) :
    Option (Option (Canned A)) :=
  field j name none fun spec => (service answers spec).map some

/-- The answers of all services that are there. -/
def decode : Json.Decoder CannedServices := fun j => do
  pure {
    database := ← maybe j "database" databaseAnswers
    templates := ← maybe j "templates" nothing
    mailer := ← maybe j "mailer" nothing
    payments := ← maybe j "payments" fun p => field p "info" ∅ (map any)
    captcha := ← maybe j "captcha" fun p => field p "accept" [] (list text)
    images := ← maybe j "images" nothing
    players := ← maybe j "players" playerAnswers
    events := ← maybe j "events" nothing }

end CannedServices

end ScriptHost
