/-
ScriptHost.Proofs.Web.Part — a response as what its parts make of it.

A `Part` is what one call adds to a response. `Response.Shows` reads a
response off the parts that were added, in their order: the body is all
bytes and pages in a row, redirect, file and headers are those of the last
part that sets them, a page brings its content type unless the header is
there, and the session has gone through its changes. `Response.Shows.add`
says that adding one more part keeps this so.

A response keeps its headers by their names as they are spelled. It has those
that its parts set, and the content type of a page if there is one
(`Shows.contains_iff`). So two of its headers have names that are equal but
for their case only if two parts spell such a name in different ways, or if
there is a page and a part sets a content type in another spelling than a page
does (`Shows.distinct_iff`).
-/
import ScriptHost.Capability.Http
import ScriptHost.Proofs.Data.KeyMap
import ScriptHost.Text.Character

namespace ScriptHost

/-! ## Parts -/

/-- A change of a session. -/
inductive SessionChange where
  /-- A message was read, and is gone. -/
  | takeFlash (key : String)
  | setFlash (key message : String)
  | set (key : String) (value : Json)
  | destroy

/-- The session after a change. -/
def SessionChange.apply : SessionChange → Session → Session
  | takeFlash key, s => (s.takeFlash key).2
  | setFlash key message, s => s.setFlash key message
  | set key value, s => s.set key value
  | destroy, s => s.destroy

/-- What a call adds to a response. -/
inductive Part where
  | bytes (bytes : Bytes)
  | page (text : String)
  | redirect (status : Nat) (location : String)
  | file (path : String)
  | header (name value : String)
  | session (change : SessionChange)

namespace Part

/-- The response with one more part. -/
def add : Part → Response → Response
  | bytes b, r => HttpFunction.appendBody b r
  | page text, r =>
    HttpFunction.appendBody (Utf8.ofString text)
      (HttpFunction.addContentType r)
  | redirect status location, r =>
    { r with status := status, redirect := some location }
  | file path, r => { r with file := some path }
  | header name value, r =>
    { r with headers := r.headers.insert name value }
  | session change, r => { r with session := change.apply r.session }

/-- What a part adds to the body. -/
def body : Part → Bytes
  | bytes b => b
  | page text => Utf8.ofString text
  | _ => []

/-- The status and the location that a part sets. -/
def redirect? : Part → Option (Nat × String)
  | redirect status location => some (status, location)
  | _ => none

/-- The file that a part sets. -/
def file? : Part → Option String
  | file path => some path
  | _ => none

/-- The value that a part sets for a header of just this name. -/
def header? (name : String) : Part → Option String
  | header n value => if n = name then some value else none
  | _ => none

/-- Is it a page? -/
def isPage : Part → Bool
  | page _ => true
  | _ => false

/-- What a part does to the session. -/
def session? : Part → Option SessionChange
  | session change => some change
  | _ => none

/-- What the last of some parts sets that sets anything. -/
def last? {α : Type} (select : Part → Option α) (parts : List Part) :
    Option α :=
  (parts.filterMap select).getLast?

theorem last?_append {α : Type} (select : Part → Option α)
    (parts : List Part) (p : Part) :
    last? select (parts ++ [p]) = (select p).or (last? select parts) := by
  unfold last?
  rw [List.filterMap_append]
  cases h : select p with
  | none => simp [h]
  | some x => simp [h]

end Part

/-! ## Responses -/

namespace Response

/-- The header of a name that a row of parts leads to: what the last part
sets that sets it. If none does, it was absent at every page, so the first
page has brought the default. -/
def headerOf (parts : List Part) (name : String) : Option String :=
  match Part.last? (Part.header? name) parts with
  | some value => some value
  | none =>
    if name = HttpFunction.contentType ∧ parts.any Part.isPage = true then
      some HttpFunction.htmlContentType
    else none

/-- The response is what the parts make of one that holds nothing but a
session. -/
structure Shows (start : Session) (parts : List Part) (r : Response) :
    Prop where
  body : r.body = parts.flatMap Part.body
  status : r.status = ((Part.last? Part.redirect? parts).map Prod.fst).getD 200
  redirect : r.redirect = (Part.last? Part.redirect? parts).map Prod.snd
  file : r.file = Part.last? Part.file? parts
  header : ∀ name, r.headers.get? name = headerOf parts name
  session : r.session = (parts.filterMap Part.session?).foldl
    (fun s change => change.apply s) start

/-- A response without parts. -/
theorem shows_start (start : Session) : Shows start [] { session := start } :=
  ⟨rfl, rfl, rfl, rfl, fun _ => by simp [headerOf, Part.last?]; rfl, rfl⟩

variable {start : Session} {parts : List Part} {r : Response}

theorem headerOf_header (name value other : String) :
    headerOf (parts ++ [.header name value]) other
      = if name = other then some value else headerOf parts other := by
  unfold headerOf
  rw [Part.last?_append]
  by_cases h : name = other
  · simp [Part.header?, h]
  · simp [Part.header?, h, Part.isPage]

/-- A page sets a header only where none was set. -/
theorem headerOf_page (text other : String) :
    headerOf (parts ++ [.page text]) other
      = if headerOf parts other = none ∧ other = HttpFunction.contentType then
          some HttpFunction.htmlContentType
        else headerOf parts other := by
  unfold headerOf
  rw [Part.last?_append]
  cases Part.last? (Part.header? other) parts with
  | some value => simp [Part.header?]
  | none =>
    by_cases h : other = HttpFunction.contentType
    · simp [Part.header?, Part.isPage, h]
    · simp [Part.header?, h]

theorem headerOf_other {p : Part} (header : ∀ name, p.header? name = none)
    (page : p.isPage = false) (other : String) :
    headerOf (parts ++ [p]) other = headerOf parts other := by
  unfold headerOf
  rw [Part.last?_append, header]
  simp [page]

/-- A page is added to the body and to the headers alone. -/
theorem add_page (text : String) (r : Response) :
    (Part.page text).add r
      = { r with
          body := r.body ++ Utf8.ofString text
          headers := (HttpFunction.addContentType r).headers } := by
  show HttpFunction.appendBody _ (HttpFunction.addContentType r) = _
  unfold HttpFunction.addContentType
  split <;> rfl

theorem header_addContentType (r : Response) (name : String) :
    (HttpFunction.addContentType r).headers.get? name
      = if r.headers.get? name = none ∧ name = HttpFunction.contentType then
          some HttpFunction.htmlContentType
        else r.headers.get? name := by
  unfold HttpFunction.addContentType KeyMap.contains
  by_cases h : name = HttpFunction.contentType
  · subst h
    cases hget : r.headers.get? HttpFunction.contentType with
    | none => simp [KeyMap.get?_insert]
    | some value => simp [hget]
  · split
    · simp [h]
    · simp [KeyMap.get?_insert, h, Ne.symm h]

/-- **One more part.** -/
theorem Shows.add (h : Shows start parts r) (p : Part) :
    Shows start (parts ++ [p]) (p.add r) where
  body := by
    rw [List.flatMap_append, ← h.body]
    cases p with
    | page text =>
      rw [add_page]
      simp [Part.body]
    | _ => simp [Part.add, Part.body, HttpFunction.appendBody]
  status := by
    rw [Part.last?_append]
    cases p with
    | page text =>
      rw [add_page]
      exact h.status
    | redirect status location => rfl
    | _ => exact h.status
  redirect := by
    rw [Part.last?_append]
    cases p with
    | page text =>
      rw [add_page]
      exact h.redirect
    | redirect status location => rfl
    | _ => exact h.redirect
  file := by
    rw [Part.last?_append]
    cases p with
    | page text =>
      rw [add_page]
      exact h.file
    | file path => rfl
    | _ => exact h.file
  header name := by
    cases p with
    | page text =>
      rw [headerOf_page, ← h.header, add_page]
      exact header_addContentType r name
    | header n value =>
      rw [headerOf_header, ← h.header]
      exact r.headers.get?_insert n value name
    | _ =>
      rw [headerOf_other (fun _ => rfl) rfl]
      exact h.header name
  session := by
    rw [List.filterMap_append, List.foldl_append, ← h.session]
    cases p with
    | page text =>
      rw [add_page]
      rfl
    | _ => rfl

end Response

theorem sameIgnoringCase_comm (a b : String) :
    sameIgnoringCase a b = sameIgnoringCase b a := by
  simp only [sameIgnoringCase, eq_comm]

/-! ## Names of headers -/

namespace Part

/-- The name of the header that a part sets. -/
def name? : Part → Option String
  | header name _ => some name
  | _ => none

/-- The names of the headers that some parts set. -/
def names (parts : List Part) : List String := parts.filterMap name?

/-- The name of each header is always spelled in one way. -/
def Consistent (parts : List Part) : Prop :=
  ∀ a ∈ names parts, ∀ b ∈ names parts, sameIgnoringCase a b = true → a = b

/-- Every content type that is set is spelled as a page spells it. -/
def Usual (parts : List Part) : Prop :=
  ∀ a ∈ names parts, sameIgnoringCase a HttpFunction.contentType = true →
    a = HttpFunction.contentType

instance (parts : List Part) : Decidable (Consistent parts) :=
  inferInstanceAs (Decidable (∀ a ∈ names parts, ∀ b ∈ names parts,
    sameIgnoringCase a b = true → a = b))

instance (parts : List Part) : Decidable (Usual parts) :=
  inferInstanceAs (Decidable (∀ a ∈ names parts,
    sameIgnoringCase a HttpFunction.contentType = true →
    a = HttpFunction.contentType))

/-- A header is set if some part sets it last. -/
theorem mem_names_iff {parts : List Part} {name : String} :
    name ∈ names parts ↔ (last? (header? name) parts).isSome = true := by
  have hname (p : Part) :
      p.name? = some name ↔ (p.header? name).isSome = true := by
    cases p with
    | header n value => by_cases h : n = name <;> simp [name?, header?, h]
    | _ => simp [name?, header?]
  rw [names, List.mem_filterMap, last?, List.getLast?_isSome, ne_eq,
    List.filterMap_eq_nil_iff]
  simp only [hname, Option.isSome_iff_ne_none]
  push Not
  rfl

end Part

/-! ## Headers of a response -/

namespace Response

open ScriptHost.Part

/-- No two headers have names that are equal but for their case. -/
def Distinct (r : Response) : Prop :=
  ∀ a b, r.headers.contains a = true → r.headers.contains b = true →
    sameIgnoringCase a b = true → a = b

variable {start : Session} {parts : List Part} {r : Response}

/-- **Which headers a response has.** -/
theorem Shows.contains_iff (h : Shows start parts r) (name : String) :
    r.headers.contains name = true
      ↔ name ∈ names parts
        ∨ (name = HttpFunction.contentType ∧ parts.any isPage = true) := by
  rw [KeyMap.contains, h.header, headerOf, mem_names_iff]
  cases last? (header? name) parts with
  | some value => simp
  | none => split <;> simp_all

/-- **When no two headers of a response have names that are equal but for
their case.** -/
theorem Shows.distinct_iff (h : Shows start parts r) :
    r.Distinct
      ↔ Consistent parts ∧ (parts.any isPage = true → Usual parts) := by
  simp only [Distinct, h.contains_iff]
  constructor
  · intro distinct
    exact ⟨fun a ha b hb => distinct a b (.inl ha) (.inl hb),
      fun hpage a ha => distinct a _ (.inl ha) (.inr ⟨rfl, hpage⟩)⟩
  · rintro ⟨consistent, usual⟩ a b (ha | ⟨rfl, hpage⟩) (hb | ⟨rfl, hpage'⟩) same
    · exact consistent a ha b hb same
    · exact usual hpage' a ha same
    · rw [sameIgnoringCase_comm] at same
      exact (usual hpage b hb same).symm
    · rfl

/-- The headers of a response that some parts have made. -/
structure HeadersOf (parts : List Part) (r : Response) : Prop where
  names : ∀ name, r.headers.contains name = true
    ↔ name ∈ Part.names parts
      ∨ (name = HttpFunction.contentType ∧ parts.any isPage = true)
  distinct : r.Distinct
    ↔ Consistent parts ∧ (parts.any isPage = true → Usual parts)

theorem Shows.headersOf (h : Shows start parts r) : HeadersOf parts r :=
  ⟨h.contains_iff, h.distinct_iff⟩

/-- **A page brings its content type** unless a header of this very name is
there. -/
theorem HeadersOf.page (h : HeadersOf parts r) (text : String) :
    let there := HttpFunction.contentType ∈ Part.names parts
      ∨ parts.any isPage = true
    (there → ((Part.page text).add r).headers = r.headers)
      ∧ (¬ there → ((Part.page text).add r).headers
        = r.headers.insert HttpFunction.contentType
          HttpFunction.htmlContentType) := by
  intro there
  have hthere : r.headers.contains HttpFunction.contentType = true ↔ there :=
    (h.names _).trans (or_congr_right (and_iff_right rfl))
  rw [add_page, HttpFunction.addContentType]
  exact ⟨fun h => by rw [if_pos (hthere.mpr h)],
    fun h => by rw [if_neg (mt hthere.mp h)]⟩

/-- Where all content types are spelled as a page spells them, to find none of
this very name is to find none at all. -/
theorem not_same_contentType (usual : Usual parts)
    (absent : HttpFunction.contentType ∉ Part.names parts) :
    ∀ name ∈ Part.names parts,
      sameIgnoringCase name HttpFunction.contentType = false := by
  intro name hname
  rw [Bool.eq_false_iff]
  exact fun same => absent (usual name hname same ▸ hname)

end Response

end ScriptHost
