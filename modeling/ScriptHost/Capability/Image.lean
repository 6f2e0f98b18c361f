/-
ScriptHost.Capability.Image — images as scripts describe them.

A new image is an object of the type `image`. What scripts write on it is
kept in its host state until the image service saves it.
-/
import ScriptHost.Script.Action

namespace ScriptHost

/-- The type of images. -/
def imageType : String := "image"

/-- The functions of `img`. -/
inductive ImagesFunction where
  | new
  deriving DecidableEq, Repr

/-- The functions of an image. -/
inductive ImageFunction where
  | writeText
  | setBackground
  | save
  deriving DecidableEq, Repr

variable {F : Type}

namespace ImagesFunction

def named : List (String × ImagesFunction) := [("new", new)]

def run : ImagesFunction → List Value → Action F (List Value)
  | new, args => do
    let width ← Action.argument (Argument.integer Argument.word32) args 0
    let height ← Action.argument (Argument.integer Argument.word32) args 1
    if width = 0 || height = 0 then Action.complain .imageSize
    else
      let spec : ImageSpec := { width := width.toNat, height := height.toNat }
      pure [← Action.newObject imageType (.image spec)]

end ImagesFunction

namespace ImageFunction

def named : List (String × ImageFunction) :=
  [("writeText", writeText), ("setBackground", setBackground),
    ("save", save)]

/-- The size of a text that names none. -/
def defaultSize : Binary64 := .ofInt 12

/-- The colour of a text that names none. -/
def defaultColor : String := "#000000"

/-- The image behind host state. -/
def image? : ObjectState → Option ImageSpec
  | .image spec => some spec
  | _ => none

/-- Changes the image of an object. -/
def change (object : TableId) (f : ImageSpec → ImageSpec) :
    Action F (List Value) := do
  let spec ← Action.stateOf image? object
  Action.setState object (.image (f spec))
  pure []

/-- All arguments are read before the handle of the object is. -/
def run : ImageFunction → List Value → Action F (List Value)
  | writeText, args => do
    let object ← Action.argument Argument.table args 0
    let text ← Action.argument Argument.text args 1
    let x ← Action.argument (Argument.integer Argument.int64) args 2
    let y ← Action.argument (Argument.integer Argument.int64) args 3
    let size ← Action.argument (Argument.optional Argument.float) args 4
    let color ← Action.argument (Argument.optional Argument.text) args 5
    let spec : TextSpec :=
      { text := text, x := x, y := y, size := size.getD defaultSize
        color := color.getD defaultColor }
    change object fun image => { image with texts := image.texts ++ [spec] }
  | setBackground, args => do
    let object ← Action.argument Argument.table args 0
    let path ← Action.argument Argument.text args 1
    change object fun image => { image with background := some path }
  | save, args => do
    let object ← Action.argument Argument.table args 0
    let path ← Action.argument Argument.text args 1
    let spec ← Action.stateOf image? object
    Action.serve (.saveImage spec path)
    pure []

end ImageFunction

end ScriptHost
