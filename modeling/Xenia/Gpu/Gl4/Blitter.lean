import Mathlib.Algebra.BigOperators.Group.List
import Mathlib.Algebra.Order.Ring.Cast
import Mathlib.Tactic.Ring
import Xenia.Gpu.Gl4.Context

/-!
# The GL4 blitter

`Blitter` copies a rectangle of one texture by drawing a textured quad: `BlitTexture2D` into
the current draw framebuffer, `CopyColorTexture2D` and `CopyDepthTexture` into another
texture, attached to a scratch framebuffer.  Each entry point saves the context state it
means to change in a `SavedState`, sets up the draw, calls `Draw`, and restores the state.

`Restore` brings back every saved piece, over whatever the entry point left, but two pieces
that `Draw` changes are not the saved ones: `Draw` binds the source to texture unit 0 with
`glBindTextures`, while `Save` and `Restore` read and rebind the *active* unit's 2D texture;
and `glViewport` sets every viewport, while only viewport 0 is saved.  The entry points leave
the context as they found it exactly when neither of the two matters.  The scissor test of the
viewports after the first is not saved either: `Draw`'s `glDisable` and `Restore`'s `glEnable`
set it for every viewport, so it ends as viewport 0's.

`Draw` sets the viewport at the origin and the vertex shader never reads `dest_rect`, so the
quad covers the rectangle of `dest_rect`'s size at `(0, 0)`, whatever its offset; the texture
coordinates are the affine map of that rectangle onto `src_rect`, scaled to the texture.

## Main definitions

* `SavedState.save`, `SavedState.restore`: `SavedState::Save` and `SavedState::Restore`
* `Blitter.draw`, `Blitter.blitTexture2D`, `Blitter.copyColorTexture2D`,
  `Blitter.copyDepthTexture`: the entry points, each returning the context after it and the
  context its draw ran in
* `Blitter.quad s`: the quad a draw in context `s` rasterizes
* `KeepsState s s'`: `s'` agrees with `s` on every piece of state the blitter changes

## Main results

* `SavedState.restore_save`: the context `Restore` of a saved state gives, over any context
* `SavedState.save_restore_roundtrip`: `Save` and `Restore` are inverse, but for the scissor
  tests of the viewports after the first
* `restore_save_keepsState_iff`: what `Restore` brings back, over any context with the same
  active unit
* `entry_points_keepsState_iff`: when the three entry points leave the context as they found it
* `entry_points_effect`: everything an entry point changes in the context
* `draw_quad`: where `Draw`'s quad lands, and its texture coordinates
-/

namespace Xenia.Gpu.Gl4

/-- **`SavedState`**: the context state an entry point saves before it changes it. -/
structure SavedState where
  scissorTestEnabled : Bool
  depthTestEnabled : Bool
  depthMaskEnabled : Bool
  depthFunc : Nat
  stencilTestEnabled : Bool
  cullFaceEnabled : Bool
  cullFace : Nat
  frontFace : Nat
  polygonMode : Nat
  colorMask0Enabled : ColorMask
  blend0Enabled : Bool
  drawBuffer : Nat
  viewport : Viewport
  programPipeline : Nat
  vertexArray : Nat
  texture0 : Nat
  sampler0 : Nat

namespace SavedState

/-- `SavedState::Save`.  `glGetIntegerv(GL_TEXTURE_BINDING_2D)` reads the active unit's
binding, and `glGetFloati_v(GL_VIEWPORT, 0)` viewport 0. -/
def save (s : GLState) : SavedState where
  scissorTestEnabled := s.isEnabled .scissorTest
  depthTestEnabled := s.isEnabled .depthTest
  depthMaskEnabled := s.depthMask
  depthFunc := s.depthFunc
  stencilTestEnabled := s.isEnabled .stencilTest
  cullFaceEnabled := s.isEnabled .cullFace
  cullFace := s.cullFace
  frontFace := s.frontFace
  polygonMode := s.polygonMode
  colorMask0Enabled := s.colorMask0
  blend0Enabled := s.blend0
  drawBuffer := s.drawFramebuffer
  viewport := s.viewport
  programPipeline := s.programPipeline
  vertexArray := s.vertexArray
  texture0 := s.texture2D s.activeTexture
  sampler0 := s.sampler0

/-- `SavedState::Restore`. -/
def restore (st : SavedState) (s : GLState) : GLState :=
  s.setEnabled .scissorTest st.scissorTestEnabled
    |>.setEnabled .depthTest st.depthTestEnabled
    |>.setDepthMask st.depthMaskEnabled
    |>.setDepthFunc st.depthFunc
    |>.setEnabled .stencilTest st.stencilTestEnabled
    |>.setEnabled .cullFace st.cullFaceEnabled
    |>.setCullFace st.cullFace
    |>.setFrontFace st.frontFace
    |>.setPolygonMode st.polygonMode
    |>.setColorMask0 st.colorMask0Enabled
    |>.setBlend0 st.blend0Enabled
    |>.bindDrawFramebuffer st.drawBuffer
    |>.setViewportIndexed0 st.viewport.x st.viewport.y st.viewport.width st.viewport.height
    |>.bindProgramPipeline st.programPipeline
    |>.bindVertexArray st.vertexArray
    |>.bindTexture2D st.texture0
    |>.bindSampler0 st.sampler0

/-- `Restore` of what `Save` read from `s`, over any context `t`: `s`'s saved pieces, with the
saved binding put back on `t`'s active unit and every viewport's scissor test enabled as `s`'s
viewport 0's. -/
theorem restore_save (s t : GLState) :
    (save s).restore t = { t with
      scissorTest := s.scissorTest,
      moreScissorTests := t.moreScissorTests.map fun _ => s.scissorTest,
      depthTest := s.depthTest, stencilTest := s.stencilTest,
      cullFaceEnabled := s.cullFaceEnabled, depthMask := s.depthMask, depthFunc := s.depthFunc,
      cullFace := s.cullFace, frontFace := s.frontFace, polygonMode := s.polygonMode,
      colorMask0 := s.colorMask0, blend0 := s.blend0, drawFramebuffer := s.drawFramebuffer,
      viewport := s.viewport, programPipeline := s.programPipeline,
      vertexArray := s.vertexArray,
      texture2D := Function.update t.texture2D t.activeTexture (s.texture2D s.activeTexture),
      sampler0 := s.sampler0 } := by
  simp [save, restore]

end SavedState

/-- The objects `Blitter::Initialize` creates, by their names.  Both pipelines run
`vertex_program_`, and `vao_` reads its positions from `vbo_`, which holds `vboData`. -/
structure Blitter where
  vertexProgram : Nat
  colorPipeline : Nat
  depthPipeline : Nat
  vao : Nat
  nearestSampler : Nat
  linearSampler : Nat
  scratchFramebuffer : Nat
  deriving DecidableEq, Repr

/-- `vbo_data`: the corners of the unit square, in the order the triangle strip takes them. -/
def vboData : List (ℚ × ℚ) := [(0, 0), (1, 0), (0, 1), (1, 1)]

/-- `main` of `vs_source`: the position in normalized device coordinates (`gl_Position` has
`z = 0` and `w = 1`) and the texture coordinate `vtx.uv` of the vertex at `vfetch.pos`. -/
def vsSource (srcUV : Vec4) (pos : ℚ × ℚ) : (ℚ × ℚ) × (ℚ × ℚ) :=
  ((pos.1 * 2 - 1, pos.2 * -2 - -1), (pos.1 * srcUV.z + srcUV.x, pos.2 * srcUV.w + srcUV.y))

namespace Blitter

/-- `Blitter::Draw`: the context after it.  Its last call, `glDrawArrays(GL_TRIANGLE_STRIP, 0,
4)`, draws in that context.  The texture's size is read with `glGetTextureLevelParameteriv`
and converted to float; the model takes the float arithmetic as exact, so that `src_uv` is
`src_rect` divided by the size in rationals, where a size of 0 gives 0 and not the float's
infinities. -/
def draw (b : Blitter) (s : GLState) (srcTexture : Nat) (srcRect destRect : Rect2D)
    (filter : Nat) : GLState :=
  let s := s.setEnabled .scissorTest false
    |>.setEnabled .stencilTest false
    |>.setBlend0 false
    |>.setEnabled .cullFace true
    |>.setCullFace glBack
    |>.setFrontFace glCw
    |>.setPolygonMode glFill
    |>.bindVertexArray b.vao
    |>.bindTextures0 srcTexture
    |>.bindSampler0 (if filter = glLinear then b.linearSampler else b.nearestSampler)
    |>.setViewport 0 0 destRect.width destRect.height
  let srcTextureWidth : ℚ := (s.textureSize srcTexture).1
  let srcTextureHeight : ℚ := (s.textureSize srcTexture).2
  s.programUniform4f b.vertexProgram 0
      ⟨srcRect.x / srcTextureWidth, srcRect.y / srcTextureHeight,
        srcRect.width / srcTextureWidth, srcRect.height / srcTextureHeight⟩
    |>.programUniform4f b.vertexProgram 1 ⟨destRect.x, destRect.y, destRect.width, destRect.height⟩

/-- `Blitter::BlitTexture2D`: the context after it, and the context its draw ran in. -/
def blitTexture2D (b : Blitter) (s : GLState) (srcTexture : Nat) (srcRect destRect : Rect2D)
    (filter : Nat) : GLState × GLState :=
  let state := SavedState.save s
  let s := s.setColorMask0 ⟨true, true, true, true⟩
    |>.setEnabled .depthTest false
    |>.setDepthMask false
    |>.bindProgramPipeline b.colorPipeline
  let s := b.draw s srcTexture srcRect destRect filter
  (state.restore s, s)

/-- `Blitter::CopyColorTexture2D`: the context after it, and the context its draw ran in. -/
def copyColorTexture2D (b : Blitter) (s : GLState) (srcTexture : Nat) (srcRect : Rect2D)
    (destTexture : Nat) (destRect : Rect2D) (filter : Nat) : GLState × GLState :=
  let state := SavedState.save s
  let s := s.setColorMask0 ⟨true, true, true, true⟩
    |>.setEnabled .depthTest false
    |>.setDepthMask false
    |>.bindProgramPipeline b.colorPipeline
    |>.namedFramebufferTexture b.scratchFramebuffer .color0 destTexture
    |>.namedFramebufferDrawBuffer b.scratchFramebuffer glColorAttachment0
    |>.bindDrawFramebuffer b.scratchFramebuffer
  let s := b.draw s srcTexture srcRect destRect filter
  let s' := s.namedFramebufferDrawBuffer b.scratchFramebuffer glNone
    |>.namedFramebufferTexture b.scratchFramebuffer .color0 glNone
  (state.restore s', s)

/-- `Blitter::CopyDepthTexture`: the context after it, and the context its draw ran in. -/
def copyDepthTexture (b : Blitter) (s : GLState) (srcTexture : Nat) (srcRect : Rect2D)
    (destTexture : Nat) (destRect : Rect2D) : GLState × GLState :=
  let state := SavedState.save s
  let s := s.setColorMask0 ⟨false, false, false, false⟩
    |>.setEnabled .depthTest true
    |>.setDepthFunc glAlways
    |>.setDepthMask true
    |>.bindProgramPipeline b.depthPipeline
    |>.namedFramebufferTexture b.scratchFramebuffer .depthStencil destTexture
    |>.bindDrawFramebuffer b.scratchFramebuffer
  let s := b.draw s srcTexture srcRect destRect glNearest
  let s' := s.namedFramebufferTexture b.scratchFramebuffer .depthStencil glNone
  (state.restore s', s)

/-- The quad `glDrawArrays(GL_TRIANGLE_STRIP, 0, 4)` rasterizes in context `s` with `vao_`
bound: each vertex of `vbo_data` through `vs_source`, whose `src_uv` is location 0 of
`vertex_program_`, and through the transformation of viewport 0, with its texture
coordinate. -/
def quad (b : Blitter) (s : GLState) : List ((ℚ × ℚ) × (ℚ × ℚ)) :=
  vboData.map fun pos =>
    let vertex := vsSource (s.uniform b.vertexProgram 0) pos
    (s.viewport.transform vertex.1, vertex.2)

end Blitter

/-! ## What the entry points leave behind -/

/-- **The context as the blitter found it**: `s'` agrees with `s` on every piece of state an
entry point saves or `Draw` changes; of the scissor tests, on viewport 0's, the one
`glIsEnabled` reads and `Save` saves. -/
@[mk_iff]
structure KeepsState (s s' : GLState) : Prop where
  scissorTest : s'.scissorTest = s.scissorTest
  depthTest : s'.depthTest = s.depthTest
  stencilTest : s'.stencilTest = s.stencilTest
  cullFaceEnabled : s'.cullFaceEnabled = s.cullFaceEnabled
  blend0 : s'.blend0 = s.blend0
  depthFunc : s'.depthFunc = s.depthFunc
  depthMask : s'.depthMask = s.depthMask
  cullFace : s'.cullFace = s.cullFace
  frontFace : s'.frontFace = s.frontFace
  polygonMode : s'.polygonMode = s.polygonMode
  colorMask0 : s'.colorMask0 = s.colorMask0
  drawFramebuffer : s'.drawFramebuffer = s.drawFramebuffer
  viewport : s'.viewport = s.viewport
  moreViewports : s'.moreViewports = s.moreViewports
  programPipeline : s'.programPipeline = s.programPipeline
  vertexArray : s'.vertexArray = s.vertexArray
  texture2D0 : s'.texture2D 0 = s.texture2D 0
  sampler0 : s'.sampler0 = s.sampler0

/-- **What `Restore` brings back.** Restoring the state saved from `s` over any context `t`
with the same active unit gives back every piece of `s` but the viewports after the first, which
stay `t`'s, and the 2D texture of unit 0, which `Restore` rebinds only when it is the active
unit. -/
theorem restore_save_keepsState_iff (s t : GLState) (ht : t.activeTexture = s.activeTexture) :
    KeepsState s ((SavedState.save s).restore t) ↔
      t.moreViewports = s.moreViewports ∧
        Function.update t.texture2D s.activeTexture (s.texture2D s.activeTexture) 0 =
          s.texture2D 0 := by
  simp [keepsState_iff, SavedState.restore_save, ht]

/-- `glViewport`'s rectangle leaves a list of viewports as it was exactly when GL refuses it or
every viewport of the list already is that rectangle. -/
theorem map_getD_mk?_eq_self_iff (l : List Viewport) (x y w h : ℚ) :
    l.map (fun old => (Viewport.mk? x y w h).getD old) = l ↔
      (0 ≤ w → 0 ≤ h → ∀ v ∈ l, v.x = x ∧ v.y = y ∧ v.width = w ∧ v.height = h) := by
  unfold Viewport.mk?
  split_ifs with hs
  · simp [hs, List.map_const', eq_comm (b := l), List.eq_replicate_iff, Viewport.ext_iff]
  · simp_all

/-- Rebinding unit `i` to its old texture after binding unit 0 to `a` gives unit 0 back exactly
when `i` is unit 0 or unit 0 held `a` already. -/
theorem update_rebind_eq_iff (f : Nat → Nat) (a i : Nat) :
    Function.update (Function.update f 0 a) i (f i) 0 = f 0 ↔ i = 0 ∨ f 0 = a := by
  rcases Nat.eq_zero_or_pos i with rfl | hi
  · simp
  · simp [Function.update_noteq hi.ne', hi.ne', eq_comm]

/-- **`Restore` after `Draw`.** Over a context with `s`'s active unit, the source bound to unit 0
and every further viewport set by `glViewport(0, 0, width, height)`, `Restore` gives `s` back
exactly when unit 0 is active or already held the source, and the viewports after the first
already were that rectangle (or GL refused it). -/
theorem keepsState_restore_of_draw_iff {s t : GLState} {srcTexture : Nat} {destRect : Rect2D}
    (hact : t.activeTexture = s.activeTexture)
    (htex : t.texture2D = Function.update s.texture2D 0 srcTexture)
    (hview : t.moreViewports =
      s.moreViewports.map fun old => (Viewport.mk? 0 0 destRect.width destRect.height).getD old) :
    KeepsState s ((SavedState.save s).restore t) ↔
      (s.activeTexture = 0 ∨ s.texture2D 0 = srcTexture) ∧
        (0 ≤ destRect.width → 0 ≤ destRect.height → ∀ v ∈ s.moreViewports,
          v.x = 0 ∧ v.y = 0 ∧ v.width = destRect.width ∧ v.height = destRect.height) := by
  rw [restore_save_keepsState_iff s t hact, htex, hview, update_rebind_eq_iff,
    map_getD_mk?_eq_self_iff, and_comm]
  simp only [Int.cast_nonneg]

/-- **The entry points restore the context only in part.** Each of `BlitTexture2D`,
`CopyColorTexture2D` and `CopyDepthTexture` leaves every piece of state it or `Draw` changes as
it found it exactly when texture unit 0 is active or already holds the source, and every viewport
after the first already is `(0, 0, dest_rect.width, dest_rect.height)` (or that size is
negative). -/
theorem entry_points_keepsState_iff (b : Blitter) (s : GLState) (srcTexture destTexture : Nat)
    (srcRect destRect : Rect2D) (filter : Nat) :
    let kept := (s.activeTexture = 0 ∨ s.texture2D 0 = srcTexture) ∧
      (0 ≤ destRect.width → 0 ≤ destRect.height → ∀ v ∈ s.moreViewports,
        v.x = 0 ∧ v.y = 0 ∧ v.width = destRect.width ∧ v.height = destRect.height)
    (KeepsState s (b.blitTexture2D s srcTexture srcRect destRect filter).1 ↔ kept) ∧
      (KeepsState s (b.copyColorTexture2D s srcTexture srcRect destTexture destRect filter).1 ↔
        kept) ∧
      (KeepsState s (b.copyDepthTexture s srcTexture srcRect destTexture destRect).1 ↔ kept) :=
  ⟨keepsState_restore_of_draw_iff rfl rfl rfl, keepsState_restore_of_draw_iff rfl rfl rfl,
    keepsState_restore_of_draw_iff rfl rfl rfl⟩

/-- **Everything else is as it was.** Beyond unit 0's 2D texture, the viewports after the first
and their scissor tests, which it leaves enabled as viewport 0's, an entry point changes only
the two uniforms `Draw` sets on `vertex_program_` and, for a copy, the scratch framebuffer,
which it leaves with nothing attached at the point it used and, after a color copy, with draw
buffer `GL_NONE`. -/
theorem entry_points_effect (b : Blitter) (s : GLState) (srcTexture destTexture : Nat)
    (srcRect destRect : Rect2D) (filter : Nat) :
    let drawn := b.draw s srcTexture srcRect destRect filter
    let after : GLState :=
      { s with
        moreScissorTests := s.moreScissorTests.map fun _ => s.scissorTest
        texture2D := Function.update (Function.update s.texture2D 0 srcTexture) s.activeTexture
          (s.texture2D s.activeTexture)
        moreViewports := drawn.moreViewports
        uniform := drawn.uniform }
    let scratch := b.scratchFramebuffer
    (b.blitTexture2D s srcTexture srcRect destRect filter).1 = after ∧
      (b.copyColorTexture2D s srcTexture srcRect destTexture destRect filter).1 =
        { after with
          framebufferTexture := Function.update s.framebufferTexture scratch
            (Function.update (s.framebufferTexture scratch) .color0 glNone)
          framebufferDrawBuffer := Function.update s.framebufferDrawBuffer scratch glNone } ∧
      (b.copyDepthTexture s srcTexture srcRect destTexture destRect).1 =
        { after with
          framebufferTexture := Function.update s.framebufferTexture scratch
            (Function.update (s.framebufferTexture scratch) .depthStencil glNone) } := by
  refine ⟨?_, ?_, ?_⟩ <;>
    simp [Blitter.blitTexture2D, Blitter.copyColorTexture2D, Blitter.copyDepthTexture,
      Blitter.draw, SavedState.restore_save]

/-! ## The quad `Draw` renders -/

/-- The corners of the window rectangle `[x, x + width] × [y, y + height]`, in the order the
triangle strip reaches them. -/
def Rect2D.corners (r : Rect2D) : List (ℚ × ℚ) :=
  [(r.x, r.y + r.height), (r.x + r.width, r.y + r.height), (r.x, r.y), (r.x + r.width, r.y)]

/-- A rectangle at the origin has the corners of one of the same size, in any order, exactly
when that one is at the origin too: the corners' coordinate sums tell them apart. -/
theorem corners_perm_corners_iff (r : Rect2D) :
    (Rect2D.corners ⟨0, 0, r.width, r.height⟩).Perm r.corners ↔ r.x = 0 ∧ r.y = 0 := by
  constructor
  · intro hp
    have hx := (hp.map Prod.fst).sum_eq
    have hy := (hp.map Prod.snd).sum_eq
    simp only [Rect2D.corners, List.map_cons, List.map_nil, List.sum_cons, List.sum_nil, add_zero,
      ← Int.cast_add, Int.cast_inj] at hx hy
    omega
  · rintro ⟨hx, hy⟩
    simp [Rect2D.corners, hx, hy]

namespace Blitter

/-- **The quad of a draw**: the corners of viewport 0 in window coordinates, with the corners of
the rectangle `src_uv` gives as texture coordinates (`y` runs the other way in the window). -/
theorem quad_eq (b : Blitter) (s : GLState) :
    let v := s.viewport
    let u := s.uniform b.vertexProgram 0
    b.quad s = [((v.x, v.y + v.height), (u.x, u.y)),
      ((v.x + v.width, v.y + v.height), (u.x + u.z, u.y)),
      ((v.x, v.y), (u.x, u.y + u.w)), ((v.x + v.width, v.y), (u.x + u.z, u.y + u.w))] := by
  simp only [quad, vboData, vsSource, Viewport.transform, List.map_cons, List.map_nil]
  ring_nf

/-- `Draw`'s viewport 0 is `(0, 0, dest_rect.width, dest_rect.height)`, when GL accepts it. -/
theorem draw_viewport (b : Blitter) (s : GLState) (srcTexture : Nat) (srcRect destRect : Rect2D)
    (filter : Nat) (hw : 0 ≤ destRect.width) (hh : 0 ≤ destRect.height) :
    let v := (b.draw s srcTexture srcRect destRect filter).viewport
    v.x = 0 ∧ v.y = 0 ∧ v.width = destRect.width ∧ v.height = destRect.height := by
  simp [draw, Viewport.mk?, hw, hh]

/-- `Draw`'s `src_uv` is `src_rect` scaled by the source texture's size. -/
theorem draw_srcUV (b : Blitter) (s : GLState) (srcTexture : Nat) (srcRect destRect : Rect2D)
    (filter : Nat) :
    (b.draw s srcTexture srcRect destRect filter).uniform b.vertexProgram 0 =
      ⟨srcRect.x / (s.textureSize srcTexture).1, srcRect.y / (s.textureSize srcTexture).2,
        srcRect.width / (s.textureSize srcTexture).1,
        srcRect.height / (s.textureSize srcTexture).2⟩ := by
  simp [draw]

/-- **Where `Draw`'s quad lands.** For positive sizes, the quad covers the rectangle of
`dest_rect`'s size at the window's origin, whatever `dest_rect`'s offset: its corners are those
of `dest_rect` exactly when the offset is `(0, 0)`.  Its texture coordinates are the affine map of
that rectangle onto `src_rect`, scaled by the texture's size. -/
theorem draw_quad (b : Blitter) (s : GLState) (srcTexture : Nat) (srcRect destRect : Rect2D)
    (filter : Nat) (hw : 0 < destRect.width) (hh : 0 < destRect.height) :
    let q := b.quad (b.draw s srcTexture srcRect destRect filter)
    let W : ℚ := (s.textureSize srcTexture).1
    let H : ℚ := (s.textureSize srcTexture).2
    q.map Prod.fst = Rect2D.corners ⟨0, 0, destRect.width, destRect.height⟩ ∧
      ((q.map Prod.fst).Perm destRect.corners ↔ destRect.x = 0 ∧ destRect.y = 0) ∧
      ∀ p ∈ q, p.2 = ((srcRect.x + p.1.1 / destRect.width * srcRect.width) / W,
        (srcRect.y + (1 - p.1.2 / destRect.height) * srcRect.height) / H) := by
  intro q W H
  obtain ⟨hx, hy, hwv, hhv⟩ := draw_viewport b s srcTexture srcRect destRect filter hw.le hh.le
  have hq : q = _ := quad_eq b _
  rw [draw_srcUV, hx, hy, hwv, hhv] at hq
  have hcorners : q.map Prod.fst = Rect2D.corners ⟨0, 0, destRect.width, destRect.height⟩ := by
    simp [hq, Rect2D.corners]
  refine ⟨hcorners, hcorners ▸ corners_perm_corners_iff destRect, ?_⟩
  have hw' : (destRect.width : ℚ) ≠ 0 := by exact_mod_cast hw.ne'
  have hh' : (destRect.height : ℚ) ≠ 0 := by exact_mod_cast hh.ne'
  simp only [hq, List.mem_cons, List.mem_nil_iff, or_false, forall_eq_or_imp, forall_eq, W, H]
  simp [hw', hh', add_div]

/-- A 64 × 32 blit to offset `(10, 20)`: the quad lands at the origin, not at the offset. -/
theorem draw_quad_at_offset :
    let b : Blitter := ⟨1, 2, 3, 4, 5, 6, 7⟩
    let s := GLState.initial 640 480 16 fun _ => (256, 256)
    let q := b.quad (b.draw s 8 ⟨0, 0, 64, 32⟩ ⟨10, 20, 64, 32⟩ glLinear)
    (0 : Int) < 64 ∧ (0 : Int) < 32 ∧ q.map Prod.fst = Rect2D.corners ⟨0, 0, 64, 32⟩ ∧
      ¬(q.map Prod.fst).Perm (Rect2D.corners ⟨10, 20, 64, 32⟩) := by
  intro b s q
  have h := draw_quad b s 8 ⟨0, 0, 64, 32⟩ ⟨10, 20, 64, 32⟩ glLinear (by decide) (by decide)
  exact ⟨by decide, by decide, h.1, fun hp => absurd (h.2.1.mp hp).1 (by decide)⟩

end Blitter

end Xenia.Gpu.Gl4
