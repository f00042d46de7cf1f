import Xenia.Gpu.Gl4.Blitter

/-!
# The blitter over a session of calls

A renderer calls the blitter's entry points again and again on one context.  Each call
restores what it saved, so the context drifts only in what `Save` and `Restore` do not cover:
unit 0's 2D texture, the viewports after the first and their scissor tests, which end enabled as
viewport 0's, the two uniforms `Draw` sets on
`vertex_program_`, and the scratch framebuffer's attachments and draw buffer, which a copy
leaves at `GL_NONE`.  The drift does not build up: over any session unit 0 holds the last
call's source (unless unit 0 is the active unit, when it keeps its texture), and the viewports
after the first are the last call's rectangle.  Repeating a call changes nothing.

## Main definitions

* `BlitCall`: a call of one of the three entry points, with its arguments
* `Blitter.call`, `Blitter.session`: the context after one call, and after a sequence of calls
* `Blitter.Drift b s s'`: `s'` differs from `s` at most where an entry point leaves a trace

## Main results

* `Blitter.drift_call`: one call drifts
* `Blitter.session_drift`: a whole session drifts, and ends with the last call's source in unit 0,
  its rectangle in every viewport after the first, and viewport 0's scissor test in all of them
* `Blitter.call_call`: an entry point is idempotent on the context
-/

namespace Xenia.Gpu.Gl4

/-- A call of one of the blitter's entry points, with its arguments. -/
inductive BlitCall
  | blitTexture2D (srcTexture : Nat) (srcRect destRect : Rect2D) (filter : Nat)
  | copyColorTexture2D (srcTexture : Nat) (srcRect : Rect2D) (destTexture : Nat)
      (destRect : Rect2D) (filter : Nat)
  | copyDepthTexture (srcTexture : Nat) (srcRect : Rect2D) (destTexture : Nat)
      (destRect : Rect2D)
  deriving DecidableEq, Repr

namespace BlitCall

/-- The texture a call copies from. -/
def srcTexture : BlitCall → Nat
  | .blitTexture2D t .. | .copyColorTexture2D t .. | .copyDepthTexture t .. => t

/-- The rectangle a call draws to. -/
def destRect : BlitCall → Rect2D
  | .blitTexture2D _ _ r _ | .copyColorTexture2D _ _ _ r _ | .copyDepthTexture _ _ _ r => r

end BlitCall

namespace Blitter

/-- The context after one call. -/
def call (b : Blitter) (s : GLState) : BlitCall → GLState
  | .blitTexture2D src srcRect destRect filter => (b.blitTexture2D s src srcRect destRect filter).1
  | .copyColorTexture2D src srcRect dest destRect filter =>
    (b.copyColorTexture2D s src srcRect dest destRect filter).1
  | .copyDepthTexture src srcRect dest destRect => (b.copyDepthTexture s src srcRect dest destRect).1

/-- The context after a sequence of calls, made in order. -/
def session (b : Blitter) (s : GLState) (calls : List BlitCall) : GLState :=
  calls.foldl b.call s

theorem session_append (b : Blitter) (s : GLState) (calls : List BlitCall) (c : BlitCall) :
    b.session s (calls ++ [c]) = b.call (b.session s calls) c := by
  simp [session]

/-! ## What one call leaves behind -/

/-- One call: `Restore` puts back every saved piece over the context its draw left. -/
theorem call_eq (b : Blitter) (s : GLState) (c : BlitCall) :
    b.call s c = { s with
      moreScissorTests := s.moreScissorTests.map fun _ => s.scissorTest
      texture2D := Function.update (Function.update s.texture2D 0 c.srcTexture) s.activeTexture
        (s.texture2D s.activeTexture)
      moreViewports := s.moreViewports.map fun old =>
        (Viewport.mk? 0 0 c.destRect.width c.destRect.height).getD old
      uniform := (b.call s c).uniform
      framebufferTexture := (b.call s c).framebufferTexture
      framebufferDrawBuffer := (b.call s c).framebufferDrawBuffer } := by
  cases c <;> simp [call, BlitCall.srcTexture, BlitCall.destRect, blitTexture2D,
    copyColorTexture2D, copyDepthTexture, draw, SavedState.restore_save]

theorem call_texture2D (b : Blitter) (s : GLState) (c : BlitCall) :
    (b.call s c).texture2D = Function.update (Function.update s.texture2D 0 c.srcTexture)
      s.activeTexture (s.texture2D s.activeTexture) := by
  rw [call_eq]

theorem call_moreScissorTests (b : Blitter) (s : GLState) (c : BlitCall) :
    (b.call s c).moreScissorTests = s.moreScissorTests.map fun _ => s.scissorTest := by
  rw [call_eq]

theorem call_moreViewports (b : Blitter) (s : GLState) (c : BlitCall) :
    (b.call s c).moreViewports = s.moreViewports.map fun old =>
      (Viewport.mk? 0 0 c.destRect.width c.destRect.height).getD old := by
  rw [call_eq]

theorem restore_uniform (st : SavedState) (s : GLState) : (st.restore s).uniform = s.uniform :=
  rfl

theorem restore_framebufferTexture (st : SavedState) (s : GLState) :
    (st.restore s).framebufferTexture = s.framebufferTexture := rfl

theorem restore_framebufferDrawBuffer (st : SavedState) (s : GLState) :
    (st.restore s).framebufferDrawBuffer = s.framebufferDrawBuffer := rfl

/-- `Draw` sets only `vertex_program_`'s uniforms at locations 0 and 1. -/
theorem draw_uniform_of (b : Blitter) (s : GLState) (srcTexture : Nat) (srcRect destRect : Rect2D)
    (filter : Nat) {p l : Nat} (h : p ≠ b.vertexProgram ∨ 2 ≤ l) :
    (b.draw s srcTexture srcRect destRect filter).uniform p l = s.uniform p l := by
  by_cases hp : p = b.vertexProgram
  · subst hp
    simp [draw, show l ≠ 0 by omega, show l ≠ 1 by omega]
  · simp [draw, hp]

theorem draw_framebufferTexture (b : Blitter) (s : GLState) (srcTexture : Nat)
    (srcRect destRect : Rect2D) (filter : Nat) :
    (b.draw s srcTexture srcRect destRect filter).framebufferTexture = s.framebufferTexture := rfl

theorem draw_framebufferDrawBuffer (b : Blitter) (s : GLState) (srcTexture : Nat)
    (srcRect destRect : Rect2D) (filter : Nat) :
    (b.draw s srcTexture srcRect destRect filter).framebufferDrawBuffer =
      s.framebufferDrawBuffer := rfl

/-- The uniforms after one call: `Draw`'s two, on `vertex_program_` at locations 0 and 1. -/
theorem call_uniform (b : Blitter) (s : GLState) (c : BlitCall) (p l : Nat) :
    (b.call s c).uniform p l = s.uniform p l ∨ (p = b.vertexProgram ∧ l < 2) := by
  by_cases h : p = b.vertexProgram ∧ l < 2
  · exact .inr h
  · have h' : p ≠ b.vertexProgram ∨ 2 ≤ l := by omega
    left
    cases c <;> simp [call, blitTexture2D, copyColorTexture2D, copyDepthTexture, restore_uniform,
      draw_uniform_of _ _ _ _ _ _ h']

/-- The attachments after one call: the scratch framebuffer's attachment point a copy used is
left at `GL_NONE`, every other is as it was. -/
theorem call_framebufferTexture (b : Blitter) (s : GLState) (c : BlitCall) (fb : Nat)
    (a : Attachment) :
    (b.call s c).framebufferTexture fb a = s.framebufferTexture fb a ∨
      (fb = b.scratchFramebuffer ∧ (b.call s c).framebufferTexture fb a = glNone) := by
  by_cases hfb : fb = b.scratchFramebuffer
  · subst hfb
    cases a <;> cases c <;> simp [call, blitTexture2D, copyColorTexture2D, copyDepthTexture,
      restore_framebufferTexture, draw_framebufferTexture]
  · cases c <;> simp [call, blitTexture2D, copyColorTexture2D, copyDepthTexture,
      restore_framebufferTexture, draw_framebufferTexture, hfb]

/-- The draw buffers after one call: a color copy leaves the scratch framebuffer's at
`GL_NONE`, every other is as it was. -/
theorem call_framebufferDrawBuffer (b : Blitter) (s : GLState) (c : BlitCall) (fb : Nat) :
    (b.call s c).framebufferDrawBuffer fb = s.framebufferDrawBuffer fb ∨
      (fb = b.scratchFramebuffer ∧ (b.call s c).framebufferDrawBuffer fb = glNone) := by
  by_cases hfb : fb = b.scratchFramebuffer
  · subst hfb
    cases c <;> simp [call, blitTexture2D, copyColorTexture2D, copyDepthTexture,
      restore_framebufferDrawBuffer, draw_framebufferDrawBuffer]
  · cases c <;> simp [call, blitTexture2D, copyColorTexture2D, copyDepthTexture,
      restore_framebufferDrawBuffer, draw_framebufferDrawBuffer, hfb]

/-! ## Drift -/

/-- **Drift**: `s'` agrees with `s` but where an entry point leaves a trace: unit 0's 2D
texture, which changes only while another unit is active; the viewports after the first, as
many as before, and their scissor tests, as before or all enabled as viewport 0's;
`vertex_program_`'s uniforms at locations 0 and 1; and the scratch
framebuffer's attachments and draw buffer, each as it was or `GL_NONE`. -/
structure Drift (b : Blitter) (s s' : GLState) : Prop where
  others : s' = { s with
    moreScissorTests := s'.moreScissorTests
    texture2D := s'.texture2D
    moreViewports := s'.moreViewports
    uniform := s'.uniform
    framebufferTexture := s'.framebufferTexture
    framebufferDrawBuffer := s'.framebufferDrawBuffer }
  texture2D : ∀ u, s'.texture2D u = s.texture2D u ∨ (u = 0 ∧ s.activeTexture ≠ 0)
  length_moreViewports : s'.moreViewports.length = s.moreViewports.length
  moreScissorTests : s'.moreScissorTests = s.moreScissorTests ∨
    s'.moreScissorTests = s.moreScissorTests.map fun _ => s.scissorTest
  uniform : ∀ p l, s'.uniform p l = s.uniform p l ∨ (p = b.vertexProgram ∧ l < 2)
  framebufferTexture : ∀ fb a, s'.framebufferTexture fb a = s.framebufferTexture fb a ∨
    (fb = b.scratchFramebuffer ∧ s'.framebufferTexture fb a = glNone)
  framebufferDrawBuffer : ∀ fb, s'.framebufferDrawBuffer fb = s.framebufferDrawBuffer fb ∨
    (fb = b.scratchFramebuffer ∧ s'.framebufferDrawBuffer fb = glNone)

namespace Drift

variable {b : Blitter} {s s₁ s₂ : GLState}

theorem refl (b : Blitter) (s : GLState) : Drift b s s :=
  ⟨rfl, fun _ => .inl rfl, rfl, .inl rfl, fun _ _ => .inl rfl, fun _ _ => .inl rfl,
    fun _ => .inl rfl⟩

theorem activeTexture (h : Drift b s s₁) : s₁.activeTexture = s.activeTexture := by
  rw [h.others]

theorem trans (h₁ : Drift b s s₁) (h₂ : Drift b s₁ s₂) : Drift b s s₂ where
  others := by
    rw [h₂.others, h₁.others]
  texture2D u := by
    rcases h₂.texture2D u with h | h
    · exact h ▸ h₁.texture2D u
    · exact .inr (h₁.activeTexture ▸ h)
  length_moreViewports := h₂.length_moreViewports.trans h₁.length_moreViewports
  moreScissorTests := by
    have h0 : s₁.scissorTest = s.scissorTest := by rw [h₁.others]
    rcases h₂.moreScissorTests with h | h
    · exact h ▸ h₁.moreScissorTests
    · right
      rw [h, h0]
      rcases h₁.moreScissorTests with h' | h' <;> simp [h']
  uniform p l := (h₂.uniform p l).elim (fun h => h ▸ h₁.uniform p l) .inr
  framebufferTexture fb a := (h₂.framebufferTexture fb a).elim
    (fun h => h ▸ h₁.framebufferTexture fb a) .inr
  framebufferDrawBuffer fb := (h₂.framebufferDrawBuffer fb).elim
    (fun h => h ▸ h₁.framebufferDrawBuffer fb) .inr

end Drift

/-- **One call drifts.** -/
theorem drift_call (b : Blitter) (s : GLState) (c : BlitCall) : Drift b s (b.call s c) where
  others := by
    rw [call_eq]
  texture2D u := by
    rw [call_eq]
    by_cases ha : u = s.activeTexture
    · subst ha
      simp
    · by_cases hu : u = 0
      · exact .inr ⟨hu, fun h => ha (hu.trans h.symm)⟩
      · simp [Function.update_apply, hu, ha]
  length_moreViewports := by
    rw [call_eq, List.length_map]
  moreScissorTests := .inr (call_moreScissorTests b s c)
  uniform := call_uniform b s c
  framebufferTexture := call_framebufferTexture b s c
  framebufferDrawBuffer := call_framebufferDrawBuffer b s c

/-- **A whole session drifts.** -/
theorem drift_session (b : Blitter) (s : GLState) (calls : List BlitCall) :
    Drift b s (b.session s calls) := by
  induction calls generalizing s with
  | nil => exact .refl b s
  | cons c calls ih => exact (drift_call b s c).trans (ih (b.call s c))

/-! ## The end of a session -/

/-- After a session, unit 0 holds the last call's source, unless unit 0 is the active unit. -/
theorem session_texture2D_zero (b : Blitter) (s : GLState) (calls : List BlitCall)
    (c : BlitCall) :
    (b.session s (calls ++ [c])).texture2D 0 =
      if s.activeTexture = 0 then s.texture2D 0 else c.srcTexture := by
  have hd := drift_session b s calls
  rw [session_append, call_texture2D, hd.activeTexture]
  split_ifs with ha
  · rw [ha, Function.update_same]
    exact (hd.texture2D 0).resolve_right fun h => h.2 ha
  · simp [Function.update_apply, Ne.symm ha]

/-- After a session, every viewport after the first is the last call's rectangle, when GL
accepts its size. -/
theorem session_moreViewports (b : Blitter) (s : GLState) (calls : List BlitCall) (c : BlitCall)
    (hw : 0 ≤ c.destRect.width) (hh : 0 ≤ c.destRect.height) :
    ∀ v ∈ (b.session s (calls ++ [c])).moreViewports,
      v.x = 0 ∧ v.y = 0 ∧ v.width = c.destRect.width ∧ v.height = c.destRect.height := by
  rw [session_append, call_moreViewports]
  simp [Viewport.mk?, hw, hh]

/-- After a session, every viewport after the first has its scissor test enabled as viewport 0's
was before it. -/
theorem session_moreScissorTests (b : Blitter) (s : GLState) (calls : List BlitCall)
    (c : BlitCall) : ∀ e ∈ (b.session s (calls ++ [c])).moreScissorTests, e = s.scissorTest := by
  have h0 : (b.session s calls).scissorTest = s.scissorTest := by
    rw [(drift_session b s calls).others]
  rw [session_append, call_moreScissorTests]
  simp [h0]

/-- Making the same two updates again changes nothing. -/
theorem update_update_idem {α β : Type} [DecidableEq α] (g : α → β) (i j : α) (x y : β) :
    Function.update (Function.update (Function.update (Function.update g i x) j y) i x) j y =
      Function.update (Function.update g i x) j y := by
  funext u
  by_cases hj : u = j
  · subst hj
    simp
  · by_cases hi : u = i <;> simp [Function.update_apply, hi, hj]

/-- **Repeating a call changes nothing.** Calling an entry point a second time with the same
arguments leaves the context exactly as the first call left it: the second `Save` reads back
what the first `Restore` put, and the second draw sets what the first one set. -/
theorem call_call (b : Blitter) (s : GLState) (c : BlitCall) :
    b.call (b.call s c) c = b.call s c := by
  have getD_getD (o : Option Viewport) (v : Viewport) : o.getD (o.getD v) = o.getD v := by
    cases o <;> rfl
  cases c <;> simp [call, blitTexture2D, copyColorTexture2D, copyDepthTexture, draw,
    SavedState.restore_save, update_update_idem, getD_getD]

end Blitter

end Xenia.Gpu.Gl4
