/-
ScriptHost.Proofs.Web.Response — a response as data, and back.

A record that is written by field names is read field by field
(`slots_ofPairs`), a map entry by entry (`map_entries`). The body is the one
field with two forms. Writing asks whether its bytes are a text, reading
only which form it finds; the two agree because bytes that read as a text
are the bytes of that text (`Utf8.toString?_eq_ok_iff`). So every response
comes back as it was, and the data tells bodies apart (`decode_toJson`).
-/
import ScriptHost.Proofs.Data.KeyMap
import ScriptHost.Proofs.Text.Utf8
import ScriptHost.Web.Response

namespace ScriptHost

namespace Json.Decode

variable {α : Type}

/-- Of a record that was written by field names, each place holds its
field. -/
theorem slots_ofPairs (exact : Bool) {pairs : List (String × Json)}
    (h : (pairs.map Prod.fst).Nodup) :
    slots exact (pairs.map Prod.fst) (.ofPairs pairs)
      = some (pairs.map fun p => some p.2) := by
  rw [Json.ofPairs, slots, List.map_map]
  refine congrArg some (List.map_congr_left fun p hp => ?_)
  rw [Function.comp, Fields.find?_ofList h, Fields.find?_of_mem h hp]

/-- A map of data is read back if its values are. -/
theorem map_entries (item : Decoder α) (write : α → Json)
    (h : ∀ a, item (write a) = some a) (m : KeyMap α) :
    map item (.obj (m.entries.map fun (k, a) => (k, write a))) = some m := by
  have hitem : (fun p : String × α => (item (write p.2)).map (p.1, ·))
      = fun p => pure p := by
    funext p
    rw [h]
    rfl
  rw [map, List.mapM_map]
  show (m.entries.mapM fun p => (item (write p.2)).map (p.1, ·)).bind _ = _
  rw [hitem, List.mapM_pure, List.map_id']
  exact congrArg some (KeyMap.ext (Fields.ofList_of_sorted m.sorted))

/-- A text or null is read back. -/
theorem optional_text (s : Option String) :
    optional text (.ofOption .str s) = some s := by
  cases s <;> rfl

end Json.Decode

namespace Session

/-- Values of any kind, messages and the mark are read back. -/
theorem decode_written (s : Session) : decode s.toJson = some s := by
  have hslots : Json.Decode.slots true ["values", "flash", "destroyed"]
      s.toJson = some [some (.ofMap s.values),
        some _,
        some (.bool s.destroyed)] :=
    Json.Decode.slots_ofPairs true (by simp)
  have hvalues : Json.Decode.map anyData (.ofMap s.values)
      = some s.values := by
    have hall := Json.Decode.map_entries anyData id (fun _ => rfl) s.values
    have hid : s.values.entries.map id = s.values.entries := List.map_id _
    rw [Json.ofMap, ← hid]
    exact hall
  have hflash := Json.Decode.map_entries Json.Decode.text .str
    (fun _ => rfl) s.flash
  simp only [decode, hslots, Json.Decode.required, hvalues, hflash,
    Json.Decode.bool, Json.bool?, Option.bind_eq_bind, Option.bind_some,
    Option.pure_def]

end Session

namespace Response

/-! ## The body -/

/-- A byte is read back from its number. -/
theorem decode_byte (b : UInt8) :
    (Json.Decode.natUpTo 255 (.int b.toNat)).map UInt8.ofNat = some b := by
  have hb : b.toNat < 256 := b.toNat_lt
  have hrange : (0 : Int) ≤ b.toNat ∧ (b.toNat : Int) ≤ (255 : Nat) := by
    omega
  rw [Json.Decode.natUpTo, Json.Decode.intIn, if_pos hrange]
  simp

/-- **A body is read back byte for byte**, as a text or as an array. -/
theorem decodeBody_bodyJson (body : Bytes) :
    decodeBody (bodyJson body) = some body := by
  unfold bodyJson
  cases htext : Utf8.toString? body with
  | ok text =>
    rw [Utf8.toString?_eq_ok_iff.mp htext]
    rfl
  | error e =>
    have hbytes : (fun b : UInt8 =>
        (Json.Decode.natUpTo 255 (.int b.toNat)).map UInt8.ofNat)
          = fun b => pure b := funext decode_byte
    dsimp only
    rw [decodeBody, List.mapM_map]
    show body.mapM (fun b => (Json.Decode.natUpTo 255 (.int b.toNat)).map
        UInt8.ofNat) = _
    rw [hbytes, List.mapM_pure, List.map_id']
    rfl

/-- Different bodies are different data. -/
theorem bodyJson_injective : Function.Injective bodyJson := by
  intro a b h
  have ha := decodeBody_bodyJson a
  rw [h, decodeBody_bodyJson] at ha
  exact (Option.some.inj ha).symm

/-! ## The whole response -/

theorem slots_toJson (r : Response) :
    Json.Decode.slots true
        ["status", "headers", "body", "redirect", "file", "session"] r.toJson
      = some [some (.int r.status),
        some (.obj (r.headers.entries.map fun (k, v) => (k, .str v))),
        some (bodyJson r.body), some (.ofOption .str r.redirect),
        some (.ofOption .str r.file), some r.session.toJson] :=
  Json.Decode.slots_ofPairs true (by simp)

/-- Equal data has equal bodies. -/
theorem body_of_toJson {r r' : Response} (h : r.toJson = r'.toJson) :
    r.body = r'.body := by
  have hslots := slots_toJson r
  rw [h, slots_toJson] at hslots
  injection hslots with hslots
  injection hslots with _ hslots
  injection hslots with _ hslots
  injection hslots with hbody _
  exact (bodyJson_injective (Option.some.inj hbody)).symm

/-- **A response comes back from its data as it was**: its status, which has
16 bits, its headers, every byte of its body, where it redirects to, the
file that it serves, and its session with all data in it. Responses with
different bodies are different data. -/
theorem decode_toJson (r : Response) (h : r.status ≤ 65535) :
    decode r.toJson = some r
      ∧ ∀ r' : Response, r'.body ≠ r.body → r'.toJson ≠ r.toJson := by
  have hstatus : Json.Decode.natUpTo 65535 (.int r.status)
      = some r.status := by
    have hrange : (0 : Int) ≤ r.status
        ∧ (r.status : Int) ≤ (65535 : Nat) := by omega
    rw [Json.Decode.natUpTo, Json.Decode.intIn, if_pos hrange]
    simp
  have hheaders := Json.Decode.map_entries Json.Decode.text .str
    (fun _ => rfl) r.headers
  refine ⟨?_, fun r' hbody hsame => hbody (body_of_toJson hsame)⟩
  simp only [decode, slots_toJson, Json.Decode.required, optionalText,
    hstatus, hheaders, decodeBody_bodyJson, Json.Decode.optional_text,
    Session.decode_written, Option.bind_eq_bind, Option.bind_some,
    Option.pure_def]

/-- A response with bytes that are no text, of a visitor who has been
greeted. -/
def picture : Response where
  status := 404
  headers := .ofList [("Content-Type", "image/png")]
  body := [0x89, 0x50, 0xFF]
  file := some "missing.png"
  session :=
    { values := .ofList [("seen", .arr [.int 1, .null, .obj [("a", .null)]])]
      flash := .ofList [("notice", "not found")]
      destroyed := true }

theorem decode_picture :
    picture.status ≤ 65535
      ∧ bodyJson picture.body
        = .arr [.int 0x89, .int 0x50, .int 0xFF]
      ∧ decode picture.toJson = some picture := by
  have h : picture.status ≤ 65535 := by decide
  exact ⟨h, rfl, (decode_toJson picture h).1⟩

end Response

end ScriptHost
