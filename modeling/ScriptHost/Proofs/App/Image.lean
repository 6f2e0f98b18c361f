/-
ScriptHost.Proofs.App.Image — the images of a run, from its calls.

A call does nothing to images, or it makes one, or it draws a stroke on the
one behind the handle that it is given (`Call.draws`). So in front of each
call of a run, the image behind a handle is what the strokes of the calls
through this handle make of a blank one, in their order
(`Script.images_of_calls`). This image is what is saved, whichever objects
carry the handle at that time.
-/
import ScriptHost.App.Application
import ScriptHost.Host.Canned
import ScriptHost.Proofs.Capability.Image
import ScriptHost.Proofs.Engine.Configured
import ScriptHost.Proofs.Script.Calls

namespace ScriptHost

variable {F : Type}

/-! ## Calls -/

/-- The function of the host that a call reaches, and the arguments that
reach it. -/
def Call.received? (c : Call F) : Option (F × List Value) :=
  match c.function with
  | .member name f =>
    some (f, c.world.interpreter.stripNamespace name c.args)
  | .plain f => some (f, c.args)
  | .reserved _ | .inert => none

theorem Call.ended_of_received [Dispatch F] {c : Call F} {f : F}
    {args : List Value} (h : c.received? = some (f, args)) :
    c.ended = (Dispatch.run f args).run.run c.world := by
  obtain ⟨function, all, w⟩ := c
  cases function with
  | member name g =>
    obtain ⟨rfl, rfl⟩ := Prod.mk.inj (Option.some.inj h)
    rfl
  | plain g =>
    obtain ⟨rfl, rfl⟩ := Prod.mk.inj (Option.some.inj h)
    rfl
  | _ => cases h

theorem Call.ended_of_none [Dispatch F] {c : Call F}
    (h : c.received? = none) : c.ended.2 = c.world := by
  obtain ⟨function, all, w⟩ := c
  cases function with
  | member | plain => cases h
  | reserved | inert => rfl

namespace Call

variable (c : Call Capability)

/-- The handle of the image that the call makes, and the blank image. -/
def made? : Option (HandleId × ImageSpec) :=
  match c.received?, c.ended with
  | some (.images .new, args), (.ok (v :: _), w) => do
    some (← w.handle? v, ← ImagesFunction.blank? args)
  | _, _ => none

/-- The stroke of the call, if it succeeds, and the handle that it is drawn
behind. -/
def stroke? : Option (HandleId × Stroke) :=
  match c.received? with
  | some (.image f, args) =>
    if c.succeeds then do
      some (← c.world.handle? (Argument.nth args 0), ← f.stroke? args)
    else none
  | _ => none

/-- The call does nothing to images. -/
structure Idle : Prop where
  made : c.made? = none
  stroke : c.stroke? = none
  images : c.ended.2.imageAt = c.world.imageAt

/-- The call makes a blank image behind a new handle. -/
structure Makes (h : HandleId) (blank : ImageSpec) : Prop where
  made : c.made? = some (h, blank)
  stroke : c.stroke? = none
  before : c.world.imageAt h = none
  images : c.ended.2.imageAt
    = Function.update c.world.imageAt h (some blank)

/-- The call draws a stroke on the image behind a handle. -/
structure Strokes (h : HandleId) (s : Stroke) : Prop where
  made : c.made? = none
  stroke : c.stroke? = some (h, s)
  images : ∃ spec, c.world.imageAt h = some spec
    ∧ c.ended.2.imageAt
      = Function.update c.world.imageAt h (some (spec.drawn [s]))

variable {c}

theorem makes_or_idle {args : List Value}
    (hcall : c.received? = some (.images .new, args)) :
    (∃ h blank, ImagesFunction.blank? args = some blank ∧ c.Makes h blank)
      ∨ (c.succeeds = false ∧ c.Idle) := by
  have hended := ended_of_received hcall
  have hstroke : c.stroke? = none := by
    unfold stroke?
    rw [hcall]
  obtain ⟨v, w', h, blank, hrun, hblank, hhandle, hbefore, himages⟩
    | ⟨e, hrun⟩ := ImagesFunction.run_new args c.world
  all_goals replace hended := hended.trans hrun
  · refine .inl ⟨h, blank, hblank, ?_, hstroke, hbefore, ?_⟩
    · unfold made?
      rw [hcall, hended]
      simp [hhandle, hblank]
    · rw [hended]
      exact himages
  · refine .inr ⟨?_, ?_, hstroke, ?_⟩
    · rw [succeeds, hended]
    · unfold made?
      rw [hcall, hended]
    · rw [hended]

theorem made?_of_image {f : ImageFunction} {args : List Value}
    (hcall : c.received? = some (.image f, args)) : c.made? = none := by
  unfold made?
  rw [hcall]

theorem strokes_or_idle {f : ImageFunction} {args : List Value}
    (hcall : c.received? = some (.image f, args)) :
    c.Idle ∨ ∃ h s, c.Strokes h s := by
  have hended := ended_of_received hcall
  have hmade := made?_of_image hcall
  by_cases hsave : f = .save
  · subst hsave
    refine .inl ⟨hmade, ?_, ?_⟩
    · simp [stroke?, hcall, ImageFunction.stroke?]
    · rw [hended]
      exact ImageFunction.save_keepsImages args c.world
  · obtain ⟨h, spec, s, hhandle, hspec, hs, hrun⟩ | ⟨-, e, hrun⟩ :=
      ImageFunction.run_drawing hsave args c.world
    all_goals replace hended := hended.trans hrun
    · refine .inr ⟨h, s, hmade, ?_, spec, hspec, ?_⟩
      · simp [stroke?, hcall, succeeds, hended, hhandle, hs]
      · rw [hended]
        exact World.imageAt_setImage hspec _
    · refine .inl ⟨hmade, ?_, ?_⟩
      · simp [stroke?, hcall, succeeds, hended]
      · rw [hended]

/-- **What a call does to images**: nothing, or it makes one, or it draws on
the one behind the handle that it is given. -/
theorem draws (c : Call Capability) :
    c.Idle ∨ (∃ h blank, c.Makes h blank) ∨ ∃ h s, c.Strokes h s := by
  cases hcall : c.received? with
  | none =>
    refine .inl ⟨?_, ?_, ?_⟩
    · simp [made?, hcall]
    · simp [stroke?, hcall]
    · rw [ended_of_none hcall]
  | some received =>
    obtain ⟨f, args⟩ := received
    cases hdraws : f.draws with
    | false =>
      have himages := Capability.keepsImages hdraws args c.world
      have hother : c.made? = none ∧ c.stroke? = none := by
        unfold made? stroke?
        rw [hcall]
        cases f with
        | images | image => cases hdraws
        | _ => exact ⟨rfl, rfl⟩
      refine .inl ⟨hother.1, hother.2, ?_⟩
      rw [ended_of_received hcall]
      exact himages
    | true =>
      cases f with
      | images f =>
        cases f with
        | new =>
          obtain ⟨h, blank, -, hmakes⟩ | ⟨-, hidle⟩ := makes_or_idle hcall
          · exact .inr (.inl ⟨h, blank, hmakes⟩)
          · exact .inl hidle
      | image f => exact (strokes_or_idle hcall).imp_right .inr
      | _ => cases hdraws

end Call

/-! ## Images drawn by calls -/

/-- The stroke that a call draws behind a handle. -/
def Call.strokeAt? (h : HandleId) (c : Call Capability) : Option Stroke :=
  c.stroke?.bind fun (h', s) => if h' = h then some s else none

/-- The ground of what some calls have drawn behind a handle: the image that
was there before them, or a blank one that a call has made. -/
def World.Ground (w : World Capability) (calls : List (Call Capability))
    (h : HandleId) (image : ImageSpec) : Prop :=
  w.imageAt h = some image ∨ ∃ c ∈ calls, c.made? = some (h, image)

/-- Some calls have left this image behind a handle: the ground, with their
strokes there. -/
def World.Drawn (w : World Capability) (calls : List (Call Capability))
    (h : HandleId) (spec : ImageSpec) : Prop :=
  ∃ ground : ImageSpec, w.Ground calls h ground
    ∧ spec = ground.drawn (calls.filterMap (Call.strokeAt? h))

/-- The images of a world are those that some calls have left. -/
structure World.Shows (start : World Capability)
    (calls : List (Call Capability)) (w : World Capability) : Prop where
  drawn : ∀ h spec, w.imageAt h = some spec ↔ start.Drawn calls h spec
  /-- There is no stroke where there is no image. -/
  blank : ∀ h, w.imageAt h = none →
    calls.filterMap (Call.strokeAt? h) = []

namespace World

variable {start : World Capability} {calls : List (Call Capability)}
  {c : Call Capability} {h : HandleId} {spec : ImageSpec}

theorem ground_concat {image : ImageSpec} :
    start.Ground (calls ++ [c]) h image
      ↔ start.Ground calls h image ∨ c.made? = some (h, image) := by
  simp [Ground, or_and_right, exists_or, or_assoc]

theorem Drawn.concat_of_none (made : ∀ image, c.made? ≠ some (h, image))
    (stroke : c.strokeAt? h = none) :
    start.Drawn (calls ++ [c]) h spec ↔ start.Drawn calls h spec := by
  simp [Drawn, ground_concat, made, stroke]

theorem Shows.of_images {w w' : World Capability}
    (shows : start.Shows calls w) (h : w'.imageAt = w.imageAt) :
    start.Shows calls w' := by
  constructor
  · rw [h]
    exact shows.drawn
  · rw [h]
    exact shows.blank

/-- A script's own work draws nothing. -/
theorem Shows.of_worked {w w' : World Capability}
    (shows : start.Shows calls w) (work : w.Worked w') :
    start.Shows calls w' := by
  refine shows.of_images ?_
  unfold imageAt
  rw [work.handles]

/-- In the beginning there are the images that are there. -/
theorem shows_nil (w : World Capability) : w.Shows [] w := by
  constructor
  · simp [Drawn, Ground, ImageSpec.drawn_nil, eq_comm]
  · exact fun _ _ => rfl

/-- A blank image has just been made behind a handle. -/
theorem Shows.makes (shows : start.Shows calls c.world) {made : HandleId}
    {blank : ImageSpec} (makes : c.Makes made blank) :
    start.Shows (calls ++ [c]) c.ended.2 := by
  have hstroke : ∀ h, c.strokeAt? h = none := fun h => by
    rw [Call.strokeAt?, makes.stroke]
    rfl
  constructor
  · intro h spec
    rw [makes.images]
    by_cases hmade : h = made
    · subst hmade
      -- The handle is new, so there is no other ground behind it.
      have hground : ∀ image, start.Ground (calls ++ [c]) h image
          ↔ image = blank := fun image => by
        have hnone : ¬ start.Ground calls h image := fun hb =>
          absurd ((shows.drawn h _).mpr ⟨image, hb, rfl⟩)
            (by simp [makes.before])
        simp [ground_concat, hnone, makes.made, eq_comm]
      have hnil : (calls ++ [c]).filterMap (Call.strokeAt? h) = [] := by
        simp [hstroke, shows.blank h makes.before]
      rw [Function.update_self, Option.some.injEq, Drawn]
      simp only [hground, hnil, ImageSpec.drawn_nil, exists_eq_left]
      exact eq_comm
    · rw [Function.update_of_ne hmade, shows.drawn, Drawn.concat_of_none]
      · intro b hb
        rw [makes.made] at hb
        exact hmade (Prod.mk.inj (Option.some.inj hb)).1.symm
      · exact hstroke h
  · intro h hnone
    have hbefore : c.world.imageAt h = none := by
      rw [makes.images] at hnone
      by_cases hmade : h = made
      · rw [hmade]
        exact makes.before
      · rwa [Function.update_of_ne hmade] at hnone
    simp [hstroke, shows.blank h hbefore]

/-- A stroke has just been drawn behind a handle. -/
theorem Shows.strokes (shows : start.Shows calls c.world) {target : HandleId}
    {s : Stroke} (strokes : c.Strokes target s) :
    start.Shows (calls ++ [c]) c.ended.2 := by
  obtain ⟨hmade, hstroke, image, himage, himages⟩ := strokes
  have hmade' : ∀ h blank, c.made? ≠ some (h, blank) := fun h blank hb => by
    cases hmade.symm.trans hb
  have hother : ∀ h, h ≠ target → c.strokeAt? h = none := fun h hh => by
    simp [Call.strokeAt?, hstroke, Ne.symm hh]
  have hsame : c.strokeAt? target = some s := by
    simp [Call.strokeAt?, hstroke]
  constructor
  · intro h spec
    rw [himages]
    by_cases htarget : h = target
    · subst htarget
      rw [Function.update_self, Option.some.injEq]
      constructor
      · rintro rfl
        obtain ⟨ground, hground, rfl⟩ := (shows.drawn h image).mp himage
        refine ⟨ground, ground_concat.mpr (.inl hground), ?_⟩
        simp [hsame, ← ImageSpec.drawn_concat]
      · rintro ⟨ground, hground, rfl⟩
        have hbefore : start.Ground calls h ground :=
          (ground_concat.mp hground).resolve_right (hmade' h ground)
        have hdrawn := (shows.drawn h _).mpr ⟨ground, hbefore, rfl⟩
        obtain rfl := Option.some.inj (himage.symm.trans hdrawn)
        simp [hsame, ← ImageSpec.drawn_concat]
    · rw [Function.update_of_ne htarget, shows.drawn, Drawn.concat_of_none]
      · exact hmade' h
      · exact hother h htarget
  · intro h hnone
    rw [himages] at hnone
    by_cases htarget : h = target
    · rw [htarget, Function.update_self] at hnone
      cases hnone
    · rw [Function.update_of_ne htarget] at hnone
      simp [hother h htarget, shows.blank h hnone]

/-- **Each call adds what it draws.** -/
theorem Shows.call (shows : start.Shows calls c.world) :
    start.Shows (calls ++ [c]) c.ended.2 := by
  obtain hidle | ⟨h, blank, hmakes⟩ | ⟨h, s, hstrokes⟩ := c.draws
  · have hstroke : ∀ h, c.strokeAt? h = none := fun h => by
      rw [Call.strokeAt?, hidle.stroke]
      rfl
    refine Shows.of_images (w := c.world) ⟨fun h spec => ?_, fun h hnone => ?_⟩
      hidle.images
    · rw [shows.drawn, Drawn.concat_of_none]
      · intro blank hb
        cases hidle.made.symm.trans hb
      · exact hstroke h
    · simp [hstroke, shows.blank h hnone]
  · exact shows.makes hmakes
  · exact shows.strokes hstrokes

end World

/-! ## Runs -/

namespace Script

/-- **The images of a run.** In front of each call, and in the end, the image
behind a handle is what the calls before have drawn behind this handle: the
last background, and the texts one after another, on the image that was there
before the run or on the blank one that `img.new` has made, with the width and
the height that it was given. A new image has a handle that no image had. What
is saved is this image, under the path that is given, if the object that is
saved carries its handle at that time, however it came to. A method of images
that gets an object without a handle, or with the handle of something else,
raises an error and changes nothing. -/
theorem images_of_calls (script : Script) (w : World Capability) :
    let calls := script.calls w
    (∀ before c after, calls = before ++ c :: after →
      (∀ h spec, c.world.imageAt h = some spec ↔ w.Drawn before h spec)
      ∧ (∀ args, c.received? = some (.images .new, args) →
        c.succeeds = true →
        ∃ h blank, c.made? = some (h, blank)
          ∧ ImagesFunction.blank? args = some blank
          ∧ ∀ spec, ¬ w.Drawn before h spec)
      ∧ (∀ args h spec path, c.received? = some (.image .save, args) →
        c.world.handle? (Argument.nth args 0) = some h →
        w.Drawn before h spec →
        Argument.text (Argument.nth args 1) = .ok path →
        c.world.Asks (.saveImage spec path) c.ended)
      ∧ ∀ f args, c.received? = some (.image f, args) →
        (∀ h spec, c.world.handle? (Argument.nth args 0) = some h →
          ¬ w.Drawn before h spec) →
        ∃ e, c.ended = (.error (.raised e), c.world))
    ∧ ∀ h spec, (script.run.run w).2.imageAt h = some spec
      ↔ w.Drawn calls h spec := by
  intro calls
  obtain ⟨hcalls, hend⟩ := Script.runFrom_calls
    (P := fun cs w' => w.Shows cs w')
    (fun _ _ _ shows work => shows.of_worked work)
    (fun _ _ shows => shows.of_images rfl) (fun _ _ shows => shows.call)
    script #[] w [] (World.shows_nil w)
  refine ⟨fun before c after hsplit => ?_, hend.drawn⟩
  have shows : w.Shows before c.world := hcalls before c after hsplit
  refine ⟨shows.drawn, fun args hcall succeeds => ?_,
    fun args h spec path hcall hhandle hdrawn hpath => ?_,
    fun f args hcall hnone => ?_⟩
  · obtain ⟨h, blank, hblank, hmakes⟩ | ⟨fails, -⟩ :=
      Call.makes_or_idle hcall
    · refine ⟨h, blank, hmakes.made, hblank, fun spec hdrawn => ?_⟩
      cases hmakes.before.symm.trans ((shows.drawn h spec).mpr hdrawn)
    · cases succeeds.symm.trans fails
  · rw [Call.ended_of_received hcall]
    exact ImageFunction.asks_save hhandle ((shows.drawn h spec).mpr hdrawn)
      hpath
  · rw [Call.ended_of_received hcall]
    refine ImageFunction.raises_of_imageless f fun h hhandle => ?_
    rw [Option.eq_none_iff_forall_ne_some]
    exact fun spec hspec =>
      hnone h spec hhandle ((shows.drawn h spec).mp hspec)

/-- A host with a service that saves images. -/
def imageHost : Blueprint Capability where
  registry := { modules :=
    [Capability.group "img" .images ImagesFunction.named,
      Capability.objects imageType .image ImageFunction.named] }
  context :=
    { services := CannedServices.services { images := some ⟨(), []⟩ } }
  searchPath := Blueprint.modulePattern ""

/-- A script makes two images and gives the second one the handle of the
first. Then it takes the handle from the first one. -/
def forging : Script :=
  let size (width height : Int64) : List Expr :=
    [.scalar (.int width), .scalar (.int height)]
  let handle : List Expr := [.scalar (.ofText Action.handleField)]
  [{ deed := .call (.member "img" "new") (size 10 20) },
    { deed := .call (.member "img" "new") (size 30 40) },
    { deed := .write (some 1) handle (.result 0 handle) },
    { deed := .call (.ofObject (.result 0 []) "writeText")
        (.scalar (.ofText "Hello") :: size 1 2) },
    { deed := .call (.ofObject (.result 1 []) "setBackground")
        [.scalar (.ofText "sky")] },
    { deed := .call (.ofObject (.result 1 []) "save")
        [.scalar (.ofText "b.png")] },
    { deed := .write (some 0) handle (.scalar .nil) },
    { deed := .call (.ofObject (.result 0 []) "save")
        [.scalar (.ofText "a.png")] }]

/-- The first image as the script has drawn it. -/
def forgedImage : ImageSpec :=
  { width := 10, height := 20, background := some "sky"
    texts := [{ text := "Hello", x := 1, y := 2
                size := ImageFunction.defaultSize
                color := ImageFunction.defaultColor }] }

/-- The second object saves the first image, and the first one none. -/
theorem images_of_forging :
    ∃ (i : ScriptInterpreter) (saved refused : Call Capability),
      imageHost.configure = .ok i
      ∧ (forging.calls ⟨i, {}⟩)[4]? = some saved
      ∧ (forging.calls ⟨i, {}⟩)[5]? = some refused
      ∧ saved.world.Asks (.saveImage forgedImage "b.png") saved.ended
      ∧ ∃ e, refused.ended = (.error (.raised e), refused.world) := by
  have hseen : (imageHost.configure.toOption.map fun i =>
      let seen (c : Call Capability) := c.received?.map fun (f, args) =>
        (f, c.world.handle? (Argument.nth args 0), Argument.nth args 1)
      let calls := forging.calls ⟨i, {}⟩
      (calls[4]?.map fun c => decide
          (seen c = some (.image .save, some 0, .ofText "b.png")
            ∧ c.world.imageAt 0 = some forgedImage),
        calls[5]?.map fun c => decide
          (seen c = some (.image .save, none, .ofText "a.png"))))
      = some (some true, some true) := by
    decide +kernel
  obtain ⟨i, h, hcalls⟩ := imageHost.configure_of_map hseen
  obtain ⟨hsaved, hrefused⟩ := Prod.mk.inj hcalls
  obtain ⟨saved, hfourth, hsaved⟩ := Option.map_eq_some_iff.mp hsaved
  obtain ⟨refused, hfifth, hrefused⟩ := Option.map_eq_some_iff.mp hrefused
  obtain ⟨hseen, himage⟩ := of_decide_eq_true hsaved
  obtain ⟨⟨f, args⟩, hcall, hread⟩ := Option.map_eq_some_iff.mp hseen
  simp only [Prod.mk.injEq] at hread
  obtain ⟨rfl, hhandle, hpath⟩ := hread
  obtain ⟨⟨f', args'⟩, hcall', hread'⟩ :=
    Option.map_eq_some_iff.mp (of_decide_eq_true hrefused)
  simp only [Prod.mk.injEq] at hread'
  obtain ⟨rfl, hhandle', -⟩ := hread'
  obtain ⟨duringRun, -⟩ := images_of_calls forging ⟨i, {}⟩
  have hsplit : ∀ {n c}, (forging.calls ⟨i, {}⟩)[n]? = some c →
      forging.calls ⟨i, {}⟩ = (forging.calls ⟨i, {}⟩).take n
        ++ c :: (forging.calls ⟨i, {}⟩).drop (n + 1) := fun hc => by
    obtain ⟨hlt, rfl⟩ := List.getElem?_eq_some_iff.mp hc
    rw [List.getElem_cons_drop, List.take_append_drop]
  obtain ⟨drawn, -, saves, -⟩ := duringRun _ saved _ (hsplit hfourth)
  obtain ⟨-, -, -, raises⟩ := duringRun _ refused _ (hsplit hfifth)
  refine ⟨i, saved, refused, h, hfourth, hfifth, ?_, ?_⟩
  · exact saves args 0 _ "b.png" hcall hhandle ((drawn 0 _).mp himage)
      (by rw [hpath, Argument.text_ofText])
  · refine raises _ args' hcall' fun h spec hcarries => ?_
    cases hcarries.symm.trans hhandle'

end Script

end ScriptHost
