/-
ScriptHost.Proofs.Capability.Image — what functions do to images.

An object has its image behind the handle in one of its fields, where
scripts can write (`World.handle?`, `World.imageAt`). A script may hence give
an object the handle of another one, or something else, or take it away. A
method draws its stroke on the image behind the handle that it finds, and on
no other (`ImageFunction.run_drawing`); or it has this image saved
(`ImageFunction.run_save`). A new image is blank and has a handle of its own
(`ImagesFunction.run_new`). All other functions leave images alone
(`Capability.keepsImages`).
-/
import ScriptHost.Proofs.Capability.Careful
import ScriptHost.Proofs.Script.Heap

namespace ScriptHost

variable {F α β : Type}

/-! ## Images behind objects -/

/-- The image behind a handle, if it is the handle of an image. -/
def World.imageAt (w : World F) (h : HandleId) : Option ImageSpec :=
  (w.interpreter.handles[h]?).bind ImageFunction.image?

/-- The handle that an object carries at this time. -/
def World.handle? (w : World F) : Value → Option HandleId
  | .table id =>
    match (w.interpreter.table id).field Action.handleField with
    | .handle h => some h
    | _ => none
  | _ => none

/-- The value carries no handle of an image. -/
def World.Imageless (w : World F) (v : Value) : Prop :=
  ∀ h, w.handle? v = some h → w.imageAt h = none

/-- The world with another image behind a handle. -/
def World.setImage (w : World F) (h : HandleId) (spec : ImageSpec) :
    World F :=
  { w with interpreter.handles :=
      w.interpreter.handles.setIfInBounds h (.image spec) }

/-- Another state behind a handle. -/
theorem World.imageAt_set {w w' : World F} {h : HandleId}
    (there : h < w.interpreter.handles.size) {state : ObjectState}
    (hset : w'.interpreter.handles
      = w.interpreter.handles.setIfInBounds h state) :
    w'.imageAt
      = Function.update w.imageAt h (ImageFunction.image? state) := by
  funext k
  by_cases hk : k = h
  · subst hk
    simp [imageAt, hset, there]
  · rw [Function.update_of_ne hk]
    simp [imageAt, hset, Ne.symm hk]

/-- One more state, behind a new handle. -/
theorem World.imageAt_push {w w' : World F} {state : ObjectState}
    (hpush : w'.interpreter.handles = w.interpreter.handles.push state) :
    w'.imageAt = Function.update w.imageAt w.interpreter.handles.size
      (ImageFunction.image? state) := by
  funext k
  by_cases hk : k = w.interpreter.handles.size
  · subst hk
    simp [imageAt, hpush]
  · rw [Function.update_of_ne hk]
    simp [imageAt, hpush, Array.getElem?_push, hk]

theorem World.imageAt_size (w : World F) :
    w.imageAt w.interpreter.handles.size = none := by
  simp [imageAt]

/-- State that is there lies within the bounds. -/
theorem World.lt_of_state {w : World F} {h : HandleId}
    {kind : ObjectState → Option α} {a : α}
    (there : (w.interpreter.handles[h]?).bind kind = some a) :
    h < w.interpreter.handles.size := by
  obtain ⟨state, hstate, -⟩ := Option.bind_eq_some_iff.mp there
  exact (Array.getElem?_eq_some_iff.mp hstate).1

/-- Where an image was, there is the other one. -/
theorem World.imageAt_setImage {w : World F} {h : HandleId}
    {spec : ImageSpec} (there : w.imageAt h = some spec)
    (spec' : ImageSpec) :
    (w.setImage h spec').imageAt
      = Function.update w.imageAt h (some spec') := by
  have hset : (w.setImage h spec').interpreter.handles
      = w.interpreter.handles.setIfInBounds h (.image spec') := rfl
  exact imageAt_set (lt_of_state there) hset

/-! ## Strokes -/

/-- What a method draws on an image. -/
inductive Stroke where
  | text (spec : TextSpec)
  | background (path : String)
  deriving DecidableEq, Repr

namespace Stroke

/-- The text of a stroke. -/
def text? : Stroke → Option TextSpec
  | text spec => some spec
  | background _ => none

/-- The background of a stroke. -/
def background? : Stroke → Option String
  | text _ => none
  | background path => some path

end Stroke

/-- An image with strokes on it: the last background counts, and the texts
follow one another. -/
def ImageSpec.drawn (image : ImageSpec) (strokes : List Stroke) :
    ImageSpec :=
  { image with
    background :=
      (strokes.filterMap Stroke.background?).getLast?.or image.background
    texts := image.texts ++ strokes.filterMap Stroke.text? }

theorem ImageSpec.drawn_nil (image : ImageSpec) : image.drawn [] = image := by
  simp [drawn]

theorem ImageSpec.drawn_concat (image : ImageSpec) (strokes : List Stroke)
    (s : Stroke) :
    image.drawn (strokes ++ [s]) = (image.drawn strokes).drawn [s] := by
  cases s <;> simp [drawn, Stroke.text?, Stroke.background?]

theorem ImageSpec.drawn_text (spec : TextSpec) (image : ImageSpec) :
    { image with texts := image.texts ++ [spec] }
      = image.drawn [.text spec] := rfl

theorem ImageSpec.drawn_background (path : String) (image : ImageSpec) :
    { image with background := some path }
      = image.drawn [.background path] := by
  simp [drawn, Stroke.text?, Stroke.background?]

/-- The stroke of a method, with its arguments. -/
def ImageFunction.stroke? (args : List Value) : ImageFunction → Option Stroke
  | writeText => do
    let text ← (Argument.text (Argument.nth args 1)).toOption
    let x ← (Argument.integer Argument.int64
      (Argument.nth args 2)).toOption
    let y ← (Argument.integer Argument.int64
      (Argument.nth args 3)).toOption
    let size ← (Argument.optional Argument.float
      (Argument.nth args 4)).toOption
    let color ← (Argument.optional Argument.text
      (Argument.nth args 5)).toOption
    some (.text { text, x, y, size := size.getD defaultSize
                  color := color.getD defaultColor })
  | setBackground => do
    some (.background (← (Argument.text (Argument.nth args 1)).toOption))
  | save => none

/-! ## Objects -/

namespace Action

/-- The handle of an object is read, or the action fails. -/
theorem run_handleOf (object : TableId) (w : World F) :
    (∃ h, w.handle? (.table object) = some h
        ∧ (handleOf object).run.run w = (.ok h, w))
      ∨ (w.handle? (.table object) = none
        ∧ ∃ e, (handleOf object).run.run w = (.error (.raised e), w)) := by
  rw [World.handle?, handleOf, run_bind, run_interpreter]
  dsimp only
  cases (w.interpreter.table object).field handleField with
  | handle h => exact .inl ⟨h, rfl, rfl⟩
  | _ => exact .inr ⟨rfl, _, rfl⟩

/-- The state behind the handle of an object, as one kind of it. -/
theorem run_stateOf (kind : ObjectState → Option α) (object : TableId)
    (w : World F) :
    (∃ h a, w.handle? (.table object) = some h
        ∧ (w.interpreter.handles[h]?).bind kind = some a
        ∧ (stateOf kind object).run.run w = (.ok a, w))
      ∨ ((∀ h, w.handle? (.table object) = some h →
          (w.interpreter.handles[h]?).bind kind = none)
        ∧ ∃ e, (stateOf kind object).run.run w = (.error (.raised e), w)) := by
  rw [stateOf, run_bind]
  obtain ⟨h, hhandle, hrun⟩ | ⟨hnone, e, hrun⟩ := run_handleOf object w
  · rw [hrun]
    dsimp only
    rw [run_bind, run_interpreter]
    dsimp only
    cases hkind : (w.interpreter.handles[h]?).bind kind with
    | some a => exact .inl ⟨h, a, hhandle, hkind, rfl⟩
    | none =>
      refine .inr ⟨fun h' hh' => ?_, _, rfl⟩
      rwa [← Option.some.inj (hhandle.symm.trans hh')]
  · rw [hrun]
    exact .inr ⟨fun h hh => (nomatch hnone.symm.trans hh), e, rfl⟩

/-- The state behind the handle of an object is replaced. -/
theorem run_setState {object : TableId} {h : HandleId} {w : World F}
    (carries : w.handle? (.table object) = some h) (state : ObjectState) :
    (setState object state).run.run w
      = (.ok (), { w with interpreter.handles :=
          w.interpreter.handles.setIfInBounds h state }) := by
  rw [setState, run_bind]
  obtain ⟨h', hhandle, hrun⟩ | ⟨hnone, -⟩ := run_handleOf object w
  · obtain rfl := Option.some.inj (carries.symm.trans hhandle)
    rw [hrun]
    rfl
  · cases carries.symm.trans hnone

/-- A new object carries a new handle. -/
theorem run_newObject (className : String) (state : ObjectState)
    (w : World F) :
    (∃ e, (newObject className state).run.run w = (.error (.raised e), w))
      ∨ ∃ v w', (newObject className state).run.run w = (.ok v, w')
        ∧ w'.handle? v = some w.interpreter.handles.size
        ∧ w'.interpreter.handles = w.interpreter.handles.push state := by
  rw [newObject, run_bind, run_interpreter]
  dsimp only
  split
  · exact .inl ⟨_, rfl⟩
  · refine .inr ⟨_, _, rfl, ?_, rfl⟩
    unfold World.handle?
    dsimp only [Heap.allocValue, Heap.alloc]
    rw [show ∀ (i : Interpreter F) t handles,
      Interpreter.table
        { i with heap := ⟨i.heap.tables.push t⟩, handles := handles }
        i.heap.tables.size = t from fun i t _ => Heap.table_alloc i.heap t]
    simp [Table.field, Table.get, Table.find, Value.ofText, Value.asKey]

end Action

/-! ## Methods -/

namespace ImageFunction

open ScriptHost.Action

/-- The action draws a stroke behind the handle of an object; without the
stroke or an image it fails, and changes nothing. -/
def Draws (object : TableId) (a : Action F (List Value))
    (stroke? : Option Stroke) : Prop :=
  ∀ w : World F,
    (∃ h spec s, w.handle? (.table object) = some h
        ∧ w.imageAt h = some spec ∧ stroke? = some s
        ∧ a.run.run w = (.ok [], w.setImage h (spec.drawn [s])))
      ∨ ((stroke? = none ∨ w.Imageless (.table object))
        ∧ ∃ e, a.run.run w = (.error (.raised e), w))

theorem Draws.change {object : TableId} {f : ImageSpec → ImageSpec}
    {s : Stroke} (draws : ∀ image, f image = image.drawn [s]) :
    Draws object (change object f : Action F _) (some s) := by
  intro w
  rw [ImageFunction.change, run_bind]
  obtain ⟨h, spec, hhandle, hspec, hrun⟩ | ⟨hnone, e, hrun⟩ :=
    run_stateOf image? object w
  · refine .inl ⟨h, spec, s, hhandle, hspec, rfl, ?_⟩
    rw [hrun]
    dsimp only
    rw [run_bind, run_setState hhandle, draws]
    rfl
  · refine .inr ⟨.inr hnone, e, ?_⟩
    rw [hrun]

/-- The stroke may depend on an argument. -/
theorem Draws.argument {object : TableId} {read : Argument.Reader α}
    {args : List Value} {n : Nat} {f : α → Action F (List Value)}
    {stroke? : α → Option Stroke}
    (draws : ∀ x, Draws object (f x) (stroke? x)) :
    Draws object (do f (← Action.argument read args n))
      (do stroke? (← (read (Argument.nth args n)).toOption)) := by
  intro w
  rw [run_bind, run_argument]
  cases read (Argument.nth args n) with
  | ok x => exact draws x w
  | error e => exact .inr ⟨.inl rfl, e, rfl⟩

/-- What is no table carries no handle. -/
theorem imageless_of_error {v : Value} {e : ScriptError}
    (h : Argument.table v = .error e) (w : World F) : w.Imageless v := by
  cases v with
  | table id => cases h
  | _ => exact nofun

theorem eq_of_table {v : Value} {object : TableId}
    (h : Argument.table v = .ok object) : v = .table object := by
  cases v with
  | table id => rw [Except.ok.inj h]
  | _ => cases h

/-- **Methods that draw.** -/
theorem run_drawing {f : ImageFunction} (drawing : f ≠ save)
    (args : List Value) (w : World F) :
    (∃ h spec s, w.handle? (Argument.nth args 0) = some h
        ∧ w.imageAt h = some spec ∧ f.stroke? args = some s
        ∧ (f.run args : Action F _).run.run w
          = (.ok [], w.setImage h (spec.drawn [s])))
      ∨ ((f.stroke? args = none ∨ w.Imageless (Argument.nth args 0))
        ∧ ∃ e, (f.run args : Action F _).run.run w
          = (.error (.raised e), w)) := by
  cases hobject : Argument.table (Argument.nth args 0) with
  | error e =>
    refine .inr ⟨.inr (imageless_of_error hobject w), e, ?_⟩
    cases f with
    | writeText | setBackground | save =>
      rw [run, run_bind, run_argument, hobject]
  | ok object =>
    rw [eq_of_table hobject]
    cases f with
    | writeText =>
      rw [run, run_bind, run_argument, hobject]
      exact Draws.argument (fun text => .argument fun x => .argument fun y =>
        .argument fun size => .argument fun color =>
          .change (ImageSpec.drawn_text _)) w
    | setBackground =>
      rw [run, run_bind, run_argument, hobject]
      exact Draws.argument (fun path =>
        .change (ImageSpec.drawn_background path)) w
    | save => exact absurd rfl drawing

/-- **Saving.** The service gets the image behind the handle of the object;
without an image or a path nothing happens but an error. -/
theorem run_save (args : List Value) (w : World F) :
    (∃ h spec path, w.handle? (Argument.nth args 0) = some h
        ∧ w.imageAt h = some spec
        ∧ Argument.text (Argument.nth args 1) = .ok path
        ∧ (save.run args : Action F _).run.run w
          = (do serve (.saveImage spec path); pure []
            : Action F (List Value)).run.run w)
      ∨ (((∀ path, Argument.text (Argument.nth args 1) ≠ .ok path)
          ∨ w.Imageless (Argument.nth args 0))
        ∧ ∃ e, (save.run args : Action F _).run.run w
          = (.error (.raised e), w)) := by
  rw [run, run_bind, run_argument]
  cases hobject : Argument.table (Argument.nth args 0) with
  | error e => exact .inr ⟨.inr (imageless_of_error hobject w), e, rfl⟩
  | ok object =>
    dsimp only
    rw [run_bind, run_argument, eq_of_table hobject]
    cases Argument.text (Argument.nth args 1) with
    | error e =>
      refine .inr ⟨.inl fun path hpath => ?_, e, rfl⟩
      cases hpath
    | ok path =>
      dsimp only
      rw [run_bind]
      obtain ⟨h, spec, hhandle, hspec, hrun⟩ | ⟨hnone, e, hrun⟩ :=
        run_stateOf image? object w
      · refine .inl ⟨h, spec, path, hhandle, hspec, rfl, ?_⟩
        rw [hrun]
      · refine .inr ⟨.inr hnone, e, ?_⟩
        rw [hrun]

/-- A method without an image fails, and changes nothing. -/
theorem raises_of_imageless (f : ImageFunction) {args : List Value}
    {w : World F} (none : w.Imageless (Argument.nth args 0)) :
    ∃ e, (f.run args : Action F _).run.run w = (.error (.raised e), w) := by
  by_cases drawing : f = save
  · subst drawing
    obtain ⟨h, spec, path, hhandle, hspec, -⟩ | ⟨-, hfails⟩ := run_save args w
    · cases (none h hhandle).symm.trans hspec
    · exact hfails
  · obtain ⟨h, spec, s, hhandle, hspec, -⟩ | ⟨-, hfails⟩ :=
      run_drawing drawing args w
    · cases (none h hhandle).symm.trans hspec
    · exact hfails

/-- An image that is there is saved under any path. -/
theorem asks_save {args : List Value} {w : World F} {h : HandleId}
    {spec : ImageSpec} {path : String}
    (carries : w.handle? (Argument.nth args 0) = some h)
    (there : w.imageAt h = some spec)
    (hpath : Argument.text (Argument.nth args 1) = .ok path) :
    w.Asks (.saveImage spec path)
      ((save.run args : Action F _).run.run w) := by
  obtain ⟨h', spec', path', hhandle, hspec, hpath', hrun⟩
    | ⟨hnone | hnone, -⟩ := run_save args w
  · obtain rfl := Option.some.inj (carries.symm.trans hhandle)
    obtain rfl := Option.some.inj (there.symm.trans hspec)
    obtain rfl := Except.ok.inj (hpath.symm.trans hpath')
    rw [hrun]
    exact asks_serve _ (fun _ _ => rfl) w
  · exact absurd hpath (hnone path)
  · cases (hnone h carries).symm.trans there

end ImageFunction

/-- The blank image that is made of arguments. -/
def ImagesFunction.blank? (args : List Value) : Option ImageSpec := do
  let width ← (Argument.integer Argument.word32
    (Argument.nth args 0)).toOption
  let height ← (Argument.integer Argument.word32
    (Argument.nth args 1)).toOption
  some { width := width.toNat, height := height.toNat }

/-- **A new image is blank**, and behind a handle of its own. -/
theorem ImagesFunction.run_new (args : List Value) (w : World F) :
    (∃ v w' h blank, (new.run args : Action F _).run.run w = (.ok [v], w')
        ∧ blank? args = some blank ∧ w'.handle? v = some h
        ∧ w.imageAt h = none
        ∧ w'.imageAt = Function.update w.imageAt h (some blank))
      ∨ ∃ e, (new.run args : Action F _).run.run w
        = (.error (.raised e), w) := by
  rw [run, run_bind, Action.run_argument, blank?]
  cases Argument.integer Argument.word32 (Argument.nth args 0) with
  | error e => exact .inr ⟨e, rfl⟩
  | ok width =>
    dsimp only
    rw [run_bind, Action.run_argument]
    cases Argument.integer Argument.word32 (Argument.nth args 1) with
    | error e => exact .inr ⟨e, rfl⟩
    | ok height =>
      dsimp only
      split
      · exact .inr ⟨_, rfl⟩
      · rw [run_bind]
        obtain ⟨e, hrun⟩ | ⟨v, w', hrun, hhandle, hhandles⟩ :=
          Action.run_newObject imageType
            (.image { width := width.toNat, height := height.toNat }) w
        · exact .inr ⟨e, by rw [hrun]⟩
        · exact .inl ⟨v, w', _, _, by rw [hrun]; rfl, rfl, hhandle,
            w.imageAt_size, World.imageAt_push hhandles⟩

/-! ## Actions that leave images alone -/

namespace Action

/-- No image is another one, and there are no new ones. -/
abbrev KeepsImages (a : Action F α) : Prop :=
  Preserves (fun w w' => w'.imageAt = w.imageAt) a

namespace KeepsImages

theorem of_quiet {a : Action F α} (h : Quiet a) : KeepsImages a :=
  h.mono fun _ _ hintact => by
    unfold World.imageAt
    rw [hintact.interpreter]

@[grind ←] theorem bind {a : Action F α} {f : α → Action F β}
    (ha : KeepsImages a) (hf : ∀ x, KeepsImages (f x)) :
    KeepsImages (a >>= f) :=
  Preserves.bind (fun _ _ _ h h' => h'.trans h) ha hf

@[grind ←] theorem after_quiet {a : Action F α} {f : α → Action F β}
    (ha : Quiet a) (hf : ∀ x, KeepsImages (f x)) : KeepsImages (a >>= f) :=
  (of_quiet ha).bind hf

@[grind .] theorem pure (x : α) : KeepsImages (Pure.pure x : Action F α) :=
  of_quiet (.pure x)

@[grind .] theorem raise (e : ScriptError) :
    KeepsImages (Action.raise e : Action F α) := of_quiet (.raise e)

@[grind .] theorem complain (c : Complaint) :
    KeepsImages (Action.complain c : Action F α) := of_quiet (.complain c)

@[grind .] theorem fail (f : HostFault) :
    KeepsImages (Action.fail f : Action F α) := of_quiet (.fail f)

@[grind .] theorem panic : KeepsImages (Action.panic : Action F α) :=
  of_quiet .panic

@[grind .] theorem modifyShared (f : Shared → Shared) :
    KeepsImages (Action.modifyShared f : Action F Unit) := fun _ => rfl

@[grind .] theorem modifyExchange (f : Exchange → Exchange) :
    KeepsImages (Action.modifyExchange f : Action F Unit) := by
  intro w
  rw [run_modifyExchange]
  cases w.interpreter.exchange <;> rfl

@[grind .] theorem ofJson (j : Json) :
    KeepsImages (Action.ofJson j : Action F Value) := fun _ => rfl

@[grind .] theorem ofJson? (j : Option Json) :
    KeepsImages (Action.ofJson? j : Action F Value) := by
  cases j with
  | some j => exact ofJson j
  | none => exact .of_quiet (.pure _)

/-- An object of another type. -/
@[grind ←] theorem newObject {className : String} {state : ObjectState}
    (other : ImageFunction.image? state = none) :
    KeepsImages (Action.newObject className state : Action F Value) := by
  intro w
  obtain ⟨e, hrun⟩ | ⟨v, w', hrun, -, hhandles⟩ :=
    run_newObject className state w
  · rw [hrun]
  · rw [hrun]
    dsimp only
    rw [World.imageAt_push hhandles, other, ← w.imageAt_size,
      Function.update_eq_self]

@[grind .] theorem serve (call : ServiceCall) :
    KeepsImages (Action.serve call : Action F call.Reply) := by
  intro w
  obtain ⟨e, hrun⟩ | ⟨e, hrun⟩ | ⟨reply, hrun⟩ := serve_cases call w
  all_goals exact congrArg (fun r => r.2.imageAt) hrun

@[grind .] theorem schedule (interval : Nat) (script : String) :
    KeepsImages (Action.schedule interval script : Action F EventId) := by
  refine (of_quiet .host).bind fun context => ?_
  split
  · exact serve _
  · refine (of_quiet .shared).bind fun s => ?_
    split
    · exact (modifyShared _).bind fun _ => .of_quiet (.pure _)
    · exact .of_quiet (.fail _)

@[grind .] theorem cancel (event : EventId) :
    KeepsImages (Action.cancel event : Action F Bool) := by
  refine (of_quiet .host).bind fun context => ?_
  split
  · exact serve _
  · refine (of_quiet .shared).bind fun s => ?_
    split
    · exact (modifyShared _).bind fun _ => .of_quiet (.pure _)
    · exact .of_quiet (.fail _)

end KeepsImages

end Action

open ScriptHost.Action

/-! ## Functions that leave images alone -/

@[grind .] theorem CryptoFunction.randomText_keepsImages
    (letters : List Char) (count : Nat) :
    KeepsImages (CryptoFunction.randomText letters count : Action F Value) := by
  grind [CryptoFunction.randomText]

@[grind .] theorem XmlFunction.read_keepsImages (source : String) :
    KeepsImages (XmlFunction.read source : Action F Value) := by
  grind [XmlFunction.read]

@[grind .] theorem UrlFunction.refuse_keepsImages (e : Form.Refusal) :
    KeepsImages (UrlFunction.refuse e : Action F (List Value)) := by
  cases e <;> grind [UrlFunction.refuse]

@[grind .] theorem TimeFunction.refuse_keepsImages (text : String)
    (e : Duration.Refusal) :
    KeepsImages (TimeFunction.refuse text e : Action F (List Value)) := by
  cases e <;> grind [TimeFunction.refuse]

@[grind .] theorem HttpFunction.respond_keepsImages
    (f : Response → Response) :
    KeepsImages (HttpFunction.respond f : Action F (List Value)) := by
  grind [HttpFunction.respond]

@[grind .] theorem HttpFunction.textOf_keepsImages (texts : KeyMap String)
    (key : Option String) :
    KeepsImages (HttpFunction.textOf texts key : Action F (List Value)) := by
  cases key <;> grind [HttpFunction.textOf]

@[grind .] theorem SessionFunction.change_keepsImages
    (f : Session → Session) :
    KeepsImages (SessionFunction.change f : Action F Unit) :=
  .modifyExchange _

@[grind .] theorem PlayerFunction.find_keepsImages (args : List Value) :
    KeepsImages (PlayerFunction.find args : Action F (List Value)) := by
  grind [PlayerFunction.find, ImageFunction.image?]

theorem CryptoFunction.keepsImages (f : CryptoFunction) (args : List Value) :
    KeepsImages (f.run args : Action F (List Value)) := by
  cases f <;> grind [CryptoFunction.run]

theorem DatabaseFunction.keepsImages (f : DatabaseFunction)
    (args : List Value) :
    KeepsImages (f.run args : Action F (List Value)) := by
  cases f <;> grind [DatabaseFunction.run]

theorem ImageFunction.save_keepsImages (args : List Value) :
    KeepsImages (ImageFunction.save.run args : Action F (List Value)) := by
  grind [ImageFunction.run]

theorem SettingsFunction.keepsImages (f : SettingsFunction)
    (args : List Value) :
    KeepsImages (f.run args : Action F (List Value)) := by
  cases f
  grind [SettingsFunction.run]

theorem HttpFunction.keepsImages (f : HttpFunction) (args : List Value) :
    KeepsImages (f.run args : Action F (List Value)) := by
  cases f <;> grind [HttpFunction.run]

theorem ValidatorFunction.keepsImages (f : ValidatorFunction)
    (args : List Value) :
    KeepsImages (f.run args : Action F (List Value)) := by
  cases f <;> grind [ValidatorFunction.run]

theorem MapFunction.keepsImages (f : MapFunction) (args : List Value) :
    KeepsImages (f.run args : Action F (List Value)) := by
  cases f <;> grind [MapFunction.run]

theorem XmlFunction.keepsImages (f : XmlFunction) (args : List Value) :
    KeepsImages (f.run args : Action F (List Value)) := by
  cases f <;> grind [XmlFunction.run]

theorem MailFunction.keepsImages (f : MailFunction) (args : List Value) :
    KeepsImages (f.run args : Action F (List Value)) := by
  cases f
  grind [MailFunction.run]

theorem UrlFunction.keepsImages (f : UrlFunction) (args : List Value) :
    KeepsImages (f.run args : Action F (List Value)) := by
  cases f <;> grind [UrlFunction.run]

theorem TimeFunction.keepsImages (f : TimeFunction) (args : List Value) :
    KeepsImages (f.run args : Action F (List Value)) := by
  cases f <;> grind [TimeFunction.run]

theorem JsonFunction.keepsImages (f : JsonFunction) (args : List Value) :
    KeepsImages (f.run args : Action F (List Value)) := by
  cases f <;> grind [JsonFunction.run]

theorem StorageFunction.keepsImages (f : StorageFunction) (args : List Value) :
    KeepsImages (f.run args : Action F (List Value)) := by
  cases f <;> grind [StorageFunction.run]

theorem WidgetFunction.keepsImages (f : WidgetFunction) (args : List Value) :
    KeepsImages (f.run args : Action F (List Value)) := by
  cases f
  grind [WidgetFunction.run]

theorem DebugFunction.keepsImages (f : DebugFunction) (args : List Value) :
    KeepsImages (f.run args : Action F (List Value)) := by
  cases f
  grind [DebugFunction.run]

theorem EventFunction.keepsImages (f : EventFunction) (args : List Value) :
    KeepsImages (f.run args : Action F (List Value)) := by
  cases f
  grind [EventFunction.run]

theorem PaymentFunction.keepsImages (f : PaymentFunction) (args : List Value) :
    KeepsImages (f.run args : Action F (List Value)) := by
  cases f <;> grind [PaymentFunction.run]

theorem FileFunction.keepsImages (f : FileFunction) (args : List Value) :
    KeepsImages (f.run args : Action F (List Value)) := by
  cases f <;> grind [FileFunction.run]

theorem EnvironmentFunction.keepsImages (f : EnvironmentFunction)
    (args : List Value) :
    KeepsImages (f.run args : Action F (List Value)) := by
  cases f <;> grind [EnvironmentFunction.run]

theorem SessionFunction.keepsImages (f : SessionFunction) (args : List Value) :
    KeepsImages (f.run args : Action F (List Value)) := by
  cases f <;> grind [SessionFunction.run, SessionFunction.session]

theorem EventsFunction.keepsImages (f : EventsFunction) (args : List Value) :
    KeepsImages (f.run args : Action F (List Value)) := by
  cases f
  grind [EventsFunction.run, ImageFunction.image?]

theorem PlayerFunction.keepsImages (f : PlayerFunction) (args : List Value) :
    KeepsImages (f.run args : Action F (List Value)) := by
  cases f <;> grind [PlayerFunction.run, PlayerFunction.recordOf]

theorem CaptchaFunction.keepsImages (f : CaptchaFunction)
    (args : List Value) :
    KeepsImages (f.run args : Action F (List Value)) := by
  cases f <;> grind [CaptchaFunction.run]

theorem CacheFunction.keepsImages (f : CacheFunction) (args : List Value) :
    KeepsImages (f.run args : Action F (List Value)) := by
  cases f with
  | set =>
    refine .after_quiet (.argument _ _ _) fun key =>
      .after_quiet (.argument _ _ _) fun seconds =>
        .after_quiet (lifetime_quiet seconds) fun lifetime =>
          .after_quiet (.toJson _) fun value =>
            .after_quiet .host fun _ =>
              .after_quiet (expiry_quiet lifetime) fun expiry => ?_
    grind
  | get | delete => grind [CacheFunction.run]

/-- Where a lamp is, there is no image. -/
theorem World.imageAt_of_lamp {w : World F} {h : HandleId} {lit : Bool}
    (there : (w.interpreter.handles[h]?).bind SampleFunction.lamp?
      = some lit) : w.imageAt h = none := by
  obtain ⟨state, hstate, hlit⟩ := Option.bind_eq_some_iff.mp there
  unfold imageAt
  rw [hstate]
  cases state with
  | image spec => cases hlit
  | _ => rfl

@[grind .] theorem SampleFunction.toggle_keepsImages (args : List Value) :
    KeepsImages (SampleFunction.toggle.run args : Action F (List Value)) := by
  refine .after_quiet (.argument _ _ _) fun object w => ?_
  rw [run_bind]
  obtain ⟨h, lit, hhandle, hlamp, hrun⟩ | ⟨-, e, hrun⟩ :=
    run_stateOf lamp? object w
  · rw [hrun]
    dsimp only
    rw [run_bind, run_setState hhandle]
    refine (World.imageAt_set (World.lt_of_state hlamp) rfl).trans ?_
    exact Function.update_eq_self_iff.mpr
      (World.imageAt_of_lamp hlamp).symm
  · rw [hrun]

theorem SampleFunction.keepsImages (f : SampleFunction) (args : List Value) :
    KeepsImages (f.run args : Action F (List Value)) := by
  cases f <;> grind [SampleFunction.run, ImageFunction.image?]

/-! ## All functions -/

/-- Can a function draw on images? -/
def Capability.draws : Capability → Bool
  | .images _ => true
  | .image _ => true
  | _ => false

/-- **No other function draws on an image.** -/
theorem Capability.keepsImages {c : Capability} (h : c.draws = false)
    (args : List Value) :
    KeepsImages (c.run args : Action F (List Value)) := by
  cases c with
  | images f => cases h
  | image f => cases h
  | findPlayer => exact PlayerFunction.find_keepsImages args
  | crypto f => exact f.keepsImages args
  | database f => exact f.keepsImages args
  | settings f => exact f.keepsImages args
  | http f => exact f.keepsImages args
  | validator f => exact f.keepsImages args
  | session f => exact f.keepsImages args
  | captcha f => exact f.keepsImages args
  | map f => exact f.keepsImages args
  | xml f => exact f.keepsImages args
  | mail f => exact f.keepsImages args
  | cache f => exact f.keepsImages args
  | debug f => exact f.keepsImages args
  | url f => exact f.keepsImages args
  | time f => exact f.keepsImages args
  | json f => exact f.keepsImages args
  | storage f => exact f.keepsImages args
  | widget f => exact f.keepsImages args
  | events f => exact f.keepsImages args
  | event f => exact f.keepsImages args
  | payment f => exact f.keepsImages args
  | file f => exact f.keepsImages args
  | environment f => exact f.keepsImages args
  | player f => exact f.keepsImages args
  | sample f => exact f.keepsImages args

end ScriptHost
