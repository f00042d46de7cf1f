import Mathlib.Algebra.Order.Field.Rat
import Mathlib.Logic.Function.Basic

/-!
# The GL context the blitter works in

The part of a GL 4.5 core context that `Blitter` reads or writes, and the GL calls it makes,
each as a function on that state.  Viewports are kept in exact rationals, with the
invariant GL keeps (no negative width or height) as fields of `Viewport`, so that
`glViewport` with a negative size is the no-op it is in GL and `glViewportIndexedf` of a
saved viewport always succeeds.

The scissor test is enabled per viewport: `glEnable` and `glDisable` set it for all of them,
and `glIsEnabled` reads viewport 0's.  Of the texture units only the 2D bindings are kept, by
unit, with the active unit; of the samplers, unit 0's binding.  Framebuffer objects are kept by their attachments and draw
buffer, programs by their uniforms, textures by the size of their level 0.

## Main definitions

* `Viewport`, `Rect2D`, `Vec4`, `ColorMask`: the values the calls pass
* `GLState`: the context, and `GLState.initial`, GL's initial one
* `GLState.setEnabled`, `GLState.setViewport`, `GLState.bindTextures0`, ...: the GL calls
* `Viewport.transform`: the viewport transformation to window coordinates
-/

namespace Xenia.Gpu.Gl4

/-- A viewport rectangle as GL stores it, in floats taken exactly: GL refuses a negative
width or height, so none is ever stored. -/
@[ext]
structure Viewport where
  x : ℚ
  y : ℚ
  width : ℚ
  height : ℚ
  width_nonneg : 0 ≤ width
  height_nonneg : 0 ≤ height

attribute [simp] Viewport.width_nonneg Viewport.height_nonneg

/-- The viewport GL stores for a request, or `none` when it refuses a negative size with
`GL_INVALID_VALUE`. -/
def Viewport.mk? (x y width height : ℚ) : Option Viewport :=
  if h : 0 ≤ width ∧ 0 ≤ height then some ⟨x, y, width, height, h.1, h.2⟩ else none

@[simp] theorem Viewport.mk?_self (v : Viewport) :
    Viewport.mk? v.x v.y v.width v.height = some v := by
  simp [Viewport.mk?]

/-- `Rect2D` of the blitter's header, which is not in src/: its `x`, `y`, `width` and `height`
are 32-bit integers, taken as integers; `Draw` reads all four. -/
structure Rect2D where
  x : Int
  y : Int
  width : Int
  height : Int
  deriving DecidableEq, Repr

/-- A `vec4` uniform value. -/
structure Vec4 where
  x : ℚ
  y : ℚ
  z : ℚ
  w : ℚ
  deriving DecidableEq, Repr

/-- The four write enables of a color mask. -/
structure ColorMask where
  r : Bool
  g : Bool
  b : Bool
  a : Bool
  deriving DecidableEq, Repr

/-- The capabilities the blitter toggles with `glEnable` and `glDisable`. -/
inductive Cap
  | scissorTest
  | depthTest
  | stencilTest
  | cullFace
  deriving DecidableEq, Repr

/-- The attachment points of a framebuffer object the blitter uses. -/
inductive Attachment
  | color0
  | depthStencil
  deriving DecidableEq, Repr

/-! ### The enumerants the blitter passes or GL compares against, with their values in the GL
headers -/

def glNone : Nat := 0
def glLess : Nat := 0x0201
def glAlways : Nat := 0x0207
def glFront : Nat := 0x0404
def glBack : Nat := 0x0405
def glFrontAndBack : Nat := 0x0408
def glCw : Nat := 0x0900
def glCcw : Nat := 0x0901
def glFill : Nat := 0x1B02
def glNearest : Nat := 0x2600
def glLinear : Nat := 0x2601
def glColorAttachment0 : Nat := 0x8CE0

/-- **The GL context** as far as the blitter reads or writes it: the four capabilities it
toggles, with the scissor test enabled for viewport 0 and for each viewport after it; depth
mask and function, cull face, front face and polygon mode (front and back alike, as in the
core profile), the color mask and blend enable of draw buffer 0, the draw-framebuffer
binding, viewport 0 and the viewports after it, the program-pipeline and
vertex-array bindings, the active texture unit and every unit's 2D texture, unit 0's
sampler; and, of the objects, each texture's level-0 size, each program's uniforms, each
framebuffer's attachments and draw buffer. -/
structure GLState where
  scissorTest : Bool
  moreScissorTests : List Bool
  depthTest : Bool
  stencilTest : Bool
  cullFaceEnabled : Bool
  depthMask : Bool
  depthFunc : Nat
  cullFace : Nat
  frontFace : Nat
  polygonMode : Nat
  colorMask0 : ColorMask
  blend0 : Bool
  drawFramebuffer : Nat
  viewport : Viewport
  moreViewports : List Viewport
  programPipeline : Nat
  vertexArray : Nat
  activeTexture : Nat
  texture2D : Nat → Nat
  sampler0 : Nat
  textureSize : Nat → Nat × Nat
  uniform : Nat → Nat → Vec4
  framebufferTexture : Nat → Attachment → Nat
  framebufferDrawBuffer : Nat → Nat

namespace GLState

/-- GL's initial context for a window of `width` × `height` pixels, with `viewports` viewports
and the given texture sizes: every capability off, depth writes on with `GL_LESS`, back faces
culled once culling is on, counter-clockwise front faces, filled polygons, every color write on,
nothing bound but the default framebuffer, texture unit 0 active, every viewport the whole
window, every uniform zero, and every framebuffer object without attachments, drawing to
`GL_COLOR_ATTACHMENT0` (the default framebuffer to `GL_BACK`). -/
def initial (width height viewports : Nat) (textureSize : Nat → Nat × Nat) : GLState :=
  let window : Viewport := ⟨0, 0, width, height, Nat.cast_nonneg _, Nat.cast_nonneg _⟩
  { scissorTest := false, moreScissorTests := List.replicate (viewports - 1) false,
    depthTest := false, stencilTest := false, cullFaceEnabled := false,
    depthMask := true, depthFunc := glLess, cullFace := glBack, frontFace := glCcw,
    polygonMode := glFill, colorMask0 := ⟨true, true, true, true⟩, blend0 := false,
    drawFramebuffer := 0, viewport := window,
    moreViewports := List.replicate (viewports - 1) window, programPipeline := 0,
    vertexArray := 0, activeTexture := 0, texture2D := fun _ => 0, sampler0 := 0, textureSize,
    uniform := fun _ _ => ⟨0, 0, 0, 0⟩, framebufferTexture := fun _ _ => 0,
    framebufferDrawBuffer := fun fb => if fb = 0 then glBack else glColorAttachment0 }

/-! ### The GL calls

Each call is a small definition tagged `simp`, so that every field of the context after a
sequence of calls is computed by `simp` alone. -/

/-- `glIsEnabled(cap)`; for the scissor test, viewport 0's. -/
@[simp] def isEnabled (s : GLState) : Cap → Bool
  | .scissorTest => s.scissorTest
  | .depthTest => s.depthTest
  | .stencilTest => s.stencilTest
  | .cullFace => s.cullFaceEnabled

/-- `glEnable(cap)` when `b`, `glDisable(cap)` otherwise; the scissor test is set for every
viewport. -/
@[simp] def setEnabled (s : GLState) : Cap → Bool → GLState
  | .scissorTest, b =>
    { s with scissorTest := b, moreScissorTests := s.moreScissorTests.map fun _ => b }
  | .depthTest, b => { s with depthTest := b }
  | .stencilTest, b => { s with stencilTest := b }
  | .cullFace, b => { s with cullFaceEnabled := b }

/-- `glEnablei(GL_BLEND, 0)` when `b`, `glDisablei(GL_BLEND, 0)` otherwise. -/
@[simp] def setBlend0 (s : GLState) (b : Bool) : GLState := { s with blend0 := b }

/-- `glDepthMask(flag)`. -/
@[simp] def setDepthMask (s : GLState) (flag : Bool) : GLState := { s with depthMask := flag }

/-- `glDepthFunc(func)`. -/
@[simp] def setDepthFunc (s : GLState) (func : Nat) : GLState := { s with depthFunc := func }

/-- `glCullFace(mode)`. -/
@[simp] def setCullFace (s : GLState) (mode : Nat) : GLState := { s with cullFace := mode }

/-- `glFrontFace(mode)`. -/
@[simp] def setFrontFace (s : GLState) (mode : Nat) : GLState := { s with frontFace := mode }

/-- `glPolygonMode(GL_FRONT_AND_BACK, mode)`. -/
@[simp] def setPolygonMode (s : GLState) (mode : Nat) : GLState := { s with polygonMode := mode }

/-- `glColorMaski(0, r, g, b, a)`. -/
@[simp] def setColorMask0 (s : GLState) (mask : ColorMask) : GLState :=
  { s with colorMask0 := mask }

/-- `glBindFramebuffer(GL_DRAW_FRAMEBUFFER, framebuffer)`. -/
@[simp] def bindDrawFramebuffer (s : GLState) (framebuffer : Nat) : GLState :=
  { s with drawFramebuffer := framebuffer }

/-- `glViewport(x, y, width, height)`: sets every viewport, unless GL refuses the size. -/
@[simp] def setViewport (s : GLState) (x y width height : Int) : GLState :=
  let v := Viewport.mk? x y width height
  { s with
    viewport := v.getD s.viewport
    moreViewports := s.moreViewports.map fun old => v.getD old }

/-- `glViewportIndexedf(0, x, y, w, h)`: sets viewport 0 only, unless GL refuses the size. -/
@[simp] def setViewportIndexed0 (s : GLState) (x y w h : ℚ) : GLState :=
  { s with viewport := (Viewport.mk? x y w h).getD s.viewport }

/-- `glBindProgramPipeline(pipeline)`. -/
@[simp] def bindProgramPipeline (s : GLState) (pipeline : Nat) : GLState :=
  { s with programPipeline := pipeline }

/-- `glBindVertexArray(array)`. -/
@[simp] def bindVertexArray (s : GLState) (array : Nat) : GLState :=
  { s with vertexArray := array }

/-- `glBindTexture(GL_TEXTURE_2D, texture)`: binds the *active* unit. -/
@[simp] def bindTexture2D (s : GLState) (texture : Nat) : GLState :=
  { s with texture2D := Function.update s.texture2D s.activeTexture texture }

/-- `glBindTextures(0, 1, &texture)` for a 2D texture: binds unit 0, whichever unit is
active. -/
@[simp] def bindTextures0 (s : GLState) (texture : Nat) : GLState :=
  { s with texture2D := Function.update s.texture2D 0 texture }

/-- `glBindSampler(0, sampler)`. -/
@[simp] def bindSampler0 (s : GLState) (sampler : Nat) : GLState := { s with sampler0 := sampler }

/-- `glProgramUniform4f(program, location, v.x, v.y, v.z, v.w)`. -/
@[simp] def programUniform4f (s : GLState) (program location : Nat) (v : Vec4) : GLState :=
  { s with
    uniform := Function.update s.uniform program (Function.update (s.uniform program) location v) }

/-- `glNamedFramebufferTexture(framebuffer, attachment, texture, 0)`. -/
@[simp] def namedFramebufferTexture (s : GLState) (framebuffer : Nat) (attachment : Attachment)
    (texture : Nat) : GLState :=
  let attached := Function.update (s.framebufferTexture framebuffer) attachment texture
  { s with framebufferTexture := Function.update s.framebufferTexture framebuffer attached }

/-- `glNamedFramebufferDrawBuffer(framebuffer, buf)`. -/
@[simp] def namedFramebufferDrawBuffer (s : GLState) (framebuffer buf : Nat) : GLState :=
  { s with framebufferDrawBuffer := Function.update s.framebufferDrawBuffer framebuffer buf }

end GLState

/-- GL's viewport transformation from normalized device coordinates to window coordinates:
`x_w = (width / 2) x_d + (x + width / 2)`, and the same in `y`. -/
def Viewport.transform (v : Viewport) (d : ℚ × ℚ) : ℚ × ℚ :=
  (v.width / 2 * d.1 + (v.x + v.width / 2), v.height / 2 * d.2 + (v.y + v.height / 2))

end Xenia.Gpu.Gl4
