import Mathlib.Data.Rat.Floor
import Xenia.Gpu.Gl4.Blitter

/-!
# Rasterizing the blitter's quad

What GL makes of the four vertices `Draw` sends, as far as the blitter depends on it: the two
triangles of the strip, face culling under `Draw`'s face state, the texture coordinate
interpolated at a point of a triangle, and the texel `GL_NEAREST` then fetches.

`Draw` culls back faces and takes clockwise triangles as front faces; the vertex shader's flip of
`y` makes both triangles of the strip clockwise, so the quad is drawn.  Its two triangles cover
exactly the rectangle of `dest_rect`'s size at the origin, and every point of it gets the texture
coordinate of the affine map onto `src_rect`.  For a copy between rectangles of one size with
`GL_NEAREST`, pixel `(i, j)` therefore takes texel `(src_rect.x + i, src_rect.y + height - 1 - j)`:
each texel once, with the rows in reverse order.

## Main definitions

* `stripTriangles`: the triangles of a triangle strip
* `signedArea`, `GLState.culls`: the facing of a triangle and whether culling discards it
* `barycentric`, `InTriangle`, `interpolate`: where a point lies in a triangle, and the texture
  coordinate interpolated there
* `nearestTexel`: the texel `GL_NEAREST` takes along one axis

## Main results

* `inTriangle_rect_iff`, `interpolate_rect`: the strip over a rectangle covers it exactly, and
  interpolates the affine map its corners carry
* `draw_rasterized`: `Draw`'s quad is not culled, covers exactly its rectangle, and carries the
  affine texture coordinate
* `draw_covers_pixel`, `draw_same_size_center`: every pixel center of that rectangle is
  covered, and in a same-size draw it gets the coordinate of a texel center
* `draw_same_size_nearest_texel`: the texel each pixel of a same-size nearest copy takes
-/

namespace Xenia.Gpu.Gl4

/-- The triangles `GL_TRIANGLE_STRIP` assembles from its vertices: vertices `k`, `k + 1` and
`k + 2`, the first two swapped when `k` is odd so that every triangle keeps the first one's
winding; `odd` says whether the first vertex of the list is at an odd position. -/
def stripTriangles {α : Type} (odd : Bool) : List α → List (α × α × α)
  | [] => []
  | a :: tl =>
    match tl with
    | b :: c :: _ => (if odd then (b, a, c) else (a, b, c)) :: stripTriangles (!odd) tl
    | _ => []

/-- The signed area of the triangle `a b c` in window coordinates: positive when it winds
counter-clockwise. -/
def signedArea (a b c : ℚ × ℚ) : ℚ :=
  ((b.1 - a.1) * (c.2 - a.2) - (c.1 - a.1) * (b.2 - a.2)) / 2

/-- Whether GL discards the triangle `a b c` before rasterizing it: culling is enabled and the
triangle faces the culled way.  It is front-facing when its signed area has the sign
`glFrontFace` names: negative for `GL_CW`, positive for `GL_CCW`. -/
def GLState.culls (s : GLState) (a b c : ℚ × ℚ) : Bool :=
  let front := if s.frontFace = glCw then decide (signedArea a b c < 0)
    else decide (0 < signedArea a b c)
  s.cullFaceEnabled &&
    (s.cullFace = glFrontAndBack || (s.cullFace = glFront && front) ||
      (s.cullFace = glBack && !front))

/-- The barycentric coordinates of `p` in the triangle `a b c`. -/
def barycentric (a b c p : ℚ × ℚ) : ℚ × ℚ × ℚ :=
  let area := signedArea a b c
  (signedArea p b c / area, signedArea a p c / area, signedArea a b p / area)

/-- `p` lies in the closed triangle `a b c`: none of its barycentric coordinates is negative. -/
def InTriangle (a b c p : ℚ × ℚ) : Prop :=
  let w := barycentric a b c p
  0 ≤ w.1 ∧ 0 ≤ w.2.1 ∧ 0 ≤ w.2.2

instance (a b c p : ℚ × ℚ) : Decidable (InTriangle a b c p) :=
  inferInstanceAs (Decidable (0 ≤ _ ∧ 0 ≤ _ ∧ 0 ≤ _))

/-- The texture coordinate GL interpolates at `p` across a triangle of vertices given by window
position and texture coordinate: the barycentric combination of the vertices' coordinates (every
vertex has `w = 1`, so the perspective-correct formula reduces to it). -/
def interpolate (a b c : (ℚ × ℚ) × (ℚ × ℚ)) (p : ℚ × ℚ) : ℚ × ℚ :=
  let w := barycentric a.1 b.1 c.1 p
  (w.1 * a.2.1 + w.2.1 * b.2.1 + w.2.2 * c.2.1, w.1 * a.2.2 + w.2.1 * b.2.2 + w.2.2 * c.2.2)

/-- The texel `GL_NEAREST` takes along an axis `size` texels long for the texture coordinate
`u`, under `GL_CLAMP_TO_EDGE`, the wrap mode of both of the blitter's samplers. -/
def nearestTexel (size : Nat) (u : ℚ) : Int :=
  max 0 (min ((size : Int) - 1) ⌊u * size⌋)

/-! ## Triangles of a rectangle -/

/-- Scaling the axes by `w` and `h` scales every signed area by `w * h`. -/
theorem signedArea_scale (w h : ℚ) (a b c : ℚ × ℚ) :
    signedArea (w * a.1, h * a.2) (w * b.1, h * b.2) (w * c.1, h * c.2) =
      w * h * signedArea a b c := by
  simp only [signedArea]
  ring

/-- Barycentric coordinates do not change when the axes are scaled. -/
theorem barycentric_scale {w h : ℚ} (hw : w ≠ 0) (hh : h ≠ 0) (a b c p : ℚ × ℚ) :
    barycentric (w * a.1, h * a.2) (w * b.1, h * b.2) (w * c.1, h * c.2) (w * p.1, h * p.2) =
      barycentric a b c p := by
  simp only [barycentric, signedArea_scale, mul_div_mul_left _ _ (mul_ne_zero hw hh)]

/-- The barycentric coordinates of `(x, y)` in the two triangles of the strip over the rectangle
`[0, w] × [0, h]`, through the unit square's. -/
theorem barycentric_rect {w h : ℚ} (hw : w ≠ 0) (hh : h ≠ 0) (p : ℚ × ℚ) :
    barycentric (0, h) (w, h) (0, 0) p = (p.2 / h - p.1 / w, p.1 / w, 1 - p.2 / h) ∧
      barycentric (0, 0) (w, h) (w, 0) p = (1 - p.1 / w, p.2 / h, p.1 / w - p.2 / h) := by
  have upper := barycentric_scale hw hh (0, 1) (1, 1) (0, 0) (p.1 / w, p.2 / h)
  have lower := barycentric_scale hw hh (0, 0) (1, 1) (1, 0) (p.1 / w, p.2 / h)
  simp only [mul_zero, mul_one, mul_div_cancel₀ _ hw, mul_div_cancel₀ _ hh, Prod.mk.eta]
    at upper lower
  rw [upper, lower]
  simp only [barycentric, signedArea, Prod.mk.injEq]
  refine ⟨⟨?_, ?_, ?_⟩, ?_, ?_, ?_⟩ <;> ring

/-- The two triangles split the unit square along its diagonal. -/
theorem unit_square_split (x y : ℚ) :
    (x ≤ y ∧ 0 ≤ x ∧ y ≤ 1) ∨ (x ≤ 1 ∧ 0 ≤ y ∧ y ≤ x) ↔ 0 ≤ x ∧ x ≤ 1 ∧ 0 ≤ y ∧ y ≤ 1 := by
  constructor
  · rintro (⟨hxy, hx, hy⟩ | ⟨hx, hy, hyx⟩)
    · exact ⟨hx, hxy.trans hy, hx.trans hxy, hy⟩
    · exact ⟨hy.trans hyx, hx, hy, hyx.trans hx⟩
  · rintro ⟨hx0, hx1, hy0, hy1⟩
    rcases le_total x y with hxy | hyx
    · exact .inl ⟨hxy, hx0, hy1⟩
    · exact .inr ⟨hx1, hy0, hyx⟩

/-- **The strip covers its rectangle exactly.** A point lies in one of the two triangles of the
strip over `[0, w] × [0, h]` exactly when it lies in the rectangle. -/
theorem inTriangle_rect_iff {w h : ℚ} (hw : 0 < w) (hh : 0 < h) (p : ℚ × ℚ) :
    (InTriangle (0, h) (w, h) (0, 0) p ∨ InTriangle (0, 0) (w, h) (w, 0) p) ↔
      0 ≤ p.1 ∧ p.1 ≤ w ∧ 0 ≤ p.2 ∧ p.2 ≤ h := by
  obtain ⟨upper, lower⟩ := barycentric_rect hw.ne' hh.ne' p
  simp only [InTriangle, upper, lower, sub_nonneg]
  rw [unit_square_split, le_div_iff₀ hw, le_div_iff₀ hh, div_le_one₀ hw, div_le_one₀ hh,
    zero_mul, zero_mul]

/-- Across either triangle of the strip over `[0, w] × [0, h]` whose corners carry the corners
of the texture rectangle `u` (with `y` flipped), the texture coordinate at `(x, y)` is the
affine map of the window rectangle onto `u`'s. -/
theorem interpolate_rect {w h : ℚ} (hw : w ≠ 0) (hh : h ≠ 0) (u : Vec4) (p : ℚ × ℚ) :
    interpolate ((0, h), (u.x, u.y)) ((w, h), (u.x + u.z, u.y)) ((0, 0), (u.x, u.y + u.w)) p =
        (u.x + p.1 / w * u.z, u.y + (1 - p.2 / h) * u.w) ∧
      interpolate ((0, 0), (u.x, u.y + u.w)) ((w, h), (u.x + u.z, u.y))
        ((w, 0), (u.x + u.z, u.y + u.w)) p = (u.x + p.1 / w * u.z, u.y + (1 - p.2 / h) * u.w) := by
  obtain ⟨upper, lower⟩ := barycentric_rect hw hh p
  simp only [interpolate, upper, lower, Prod.mk.injEq]
  refine ⟨⟨?_, ?_⟩, ?_, ?_⟩ <;> ring

/-- `GL_NEAREST` at the center of texel `k` takes texel `k`. -/
theorem nearestTexel_center (size : Nat) (k : Int) (hk0 : 0 ≤ k) (hk : k < size) :
    nearestTexel size ((k + 1 / 2) / size) = k := by
  have hpos : (0 : ℚ) < size := by exact_mod_cast (show (0 : Int) < size by omega)
  have hfloor : ⌊((k : ℚ) + 1 / 2) / size * size⌋ = k := by
    rw [div_mul_cancel₀ _ hpos.ne', Int.floor_eq_iff]
    exact ⟨le_add_of_nonneg_right (by norm_num), add_lt_add_left (by norm_num) _⟩
  simp only [nearestTexel, hfloor]
  omega

/-! ## `Draw`'s quad -/

namespace Blitter

/-- The two triangles of `Draw`'s strip: the rectangle of `dest_rect`'s size at the origin, its
corners carrying the corners of `src_uv`'s rectangle with `y` flipped. -/
theorem draw_stripTriangles (b : Blitter) (s : GLState) (srcTexture : Nat)
    (srcRect destRect : Rect2D) (filter : Nat) (hw : 0 ≤ destRect.width)
    (hh : 0 ≤ destRect.height) :
    let u := (b.draw s srcTexture srcRect destRect filter).uniform b.vertexProgram 0
    let w : ℚ := destRect.width
    let h : ℚ := destRect.height
    stripTriangles false (b.quad (b.draw s srcTexture srcRect destRect filter)) =
      [(((0, h), (u.x, u.y)), ((w, h), (u.x + u.z, u.y)), ((0, 0), (u.x, u.y + u.w))),
        (((0, 0), (u.x, u.y + u.w)), ((w, h), (u.x + u.z, u.y)),
          ((w, 0), (u.x + u.z, u.y + u.w)))] := by
  obtain ⟨hx, hy, hwv, hhv⟩ := draw_viewport b s srcTexture srcRect destRect filter hw hh
  simp only [quad_eq, hx, hy, hwv, hhv, zero_add]
  rfl

/-- Under `Draw`'s face state, GL culls exactly the triangles that are not clockwise. -/
theorem draw_culls (b : Blitter) (s : GLState) (srcTexture : Nat) (srcRect destRect : Rect2D)
    (filter : Nat) (a c d : ℚ × ℚ) :
    (b.draw s srcTexture srcRect destRect filter).culls a c d = !decide (signedArea a c d < 0) := by
  simp [GLState.culls, draw, glCw, glBack, glFront, glFrontAndBack]

/-- The triangles of `Draw`'s strip cover exactly the rectangle of `dest_rect`'s size at the
origin. -/
theorem draw_covers (b : Blitter) (s : GLState) (srcTexture : Nat) (srcRect destRect : Rect2D)
    (filter : Nat) (hw : 0 < destRect.width) (hh : 0 < destRect.height) (p : ℚ × ℚ) :
    (∃ x ∈ stripTriangles false (b.quad (b.draw s srcTexture srcRect destRect filter)),
        InTriangle x.1.1 x.2.1.1 x.2.2.1 p) ↔
      0 ≤ p.1 ∧ p.1 ≤ destRect.width ∧ 0 ≤ p.2 ∧ p.2 ≤ destRect.height := by
  rw [draw_stripTriangles b s srcTexture srcRect destRect filter hw.le hh.le]
  simp only [List.mem_cons, List.mem_nil_iff, or_false, exists_eq_or_imp, exists_eq_left]
  exact inTriangle_rect_iff (by exact_mod_cast hw) (by exact_mod_cast hh) p

/-- Across either triangle of `Draw`'s strip, the texture coordinate at every point is the
affine map of the quad's rectangle onto `src_rect`, scaled by the texture's size. -/
theorem draw_interpolate (b : Blitter) (s : GLState) (srcTexture : Nat)
    (srcRect destRect : Rect2D) (filter : Nat) (hw : 0 < destRect.width)
    (hh : 0 < destRect.height) :
    ∀ x ∈ stripTriangles false (b.quad (b.draw s srcTexture srcRect destRect filter)),
      ∀ p : ℚ × ℚ, interpolate x.1 x.2.1 x.2.2 p =
        ((srcRect.x + p.1 / destRect.width * srcRect.width) / (s.textureSize srcTexture).1,
          (srcRect.y + (1 - p.2 / destRect.height) * srcRect.height) /
            (s.textureSize srcTexture).2) := by
  have hw' : (destRect.width : ℚ) ≠ 0 := by exact_mod_cast hw.ne'
  have hh' : (destRect.height : ℚ) ≠ 0 := by exact_mod_cast hh.ne'
  rw [draw_stripTriangles b s srcTexture srcRect destRect filter hw.le hh.le]
  simp only [List.mem_cons, List.mem_nil_iff, or_false, forall_eq_or_imp, forall_eq]
  refine ⟨fun p => ?_, fun p => ?_⟩
  · rw [(interpolate_rect hw' hh' _ p).1, draw_srcUV, Prod.mk.injEq]
    constructor <;> ring
  · rw [(interpolate_rect hw' hh' _ p).2, draw_srcUV, Prod.mk.injEq]
    constructor <;> ring

/-- The center of every pixel of the rectangle `Draw` covers lies in its quad. -/
theorem draw_covers_pixel (b : Blitter) (s : GLState) (srcTexture : Nat)
    (srcRect destRect : Rect2D) (filter : Nat) (hw : 0 < destRect.width)
    (hh : 0 < destRect.height) {i j : Int} (hi : 0 ≤ i ∧ i < destRect.width)
    (hj : 0 ≤ j ∧ j < destRect.height) :
    ∃ x ∈ stripTriangles false (b.quad (b.draw s srcTexture srcRect destRect filter)),
      InTriangle x.1.1 x.2.1.1 x.2.2.1 ((i : ℚ) + 1 / 2, (j : ℚ) + 1 / 2) := by
  have hi' : ((i + 1 : Int) : ℚ) ≤ destRect.width := by exact_mod_cast hi.2
  have hj' : ((j + 1 : Int) : ℚ) ≤ destRect.height := by exact_mod_cast hj.2
  have hi0 : (0 : ℚ) ≤ i := by exact_mod_cast hi.1
  have hj0 : (0 : ℚ) ≤ j := by exact_mod_cast hj.1
  push_cast at hi' hj'
  have half : (1 / 2 : ℚ) ≤ 1 := by norm_num
  exact (draw_covers b s srcTexture srcRect destRect filter hw hh _).mpr
    ⟨add_nonneg hi0 (by norm_num), (add_le_add_left half _).trans hi',
      add_nonneg hj0 (by norm_num), (add_le_add_left half _).trans hj'⟩

/-- In a draw between rectangles of one size, the texture coordinate at the center of pixel
`(i, j)` is the center of texel `(src_rect.x + i, src_rect.y + dest_rect.height - 1 - j)`. -/
theorem draw_same_size_center (b : Blitter) (s : GLState) (srcTexture : Nat)
    (srcRect destRect : Rect2D) (filter : Nat) (hw : 0 < destRect.width)
    (hh : 0 < destRect.height) (hsw : srcRect.width = destRect.width)
    (hsh : srcRect.height = destRect.height) (i j : Int) :
    ∀ x ∈ stripTriangles false (b.quad (b.draw s srcTexture srcRect destRect filter)),
      interpolate x.1 x.2.1 x.2.2 ((i : ℚ) + 1 / 2, (j : ℚ) + 1 / 2) =
        ((((srcRect.x + i : Int) : ℚ) + 1 / 2) / (s.textureSize srcTexture).1,
          (((srcRect.y + destRect.height - 1 - j : Int) : ℚ) + 1 / 2) /
            (s.textureSize srcTexture).2) := by
  intro x hx
  have hw' : (destRect.width : ℚ) ≠ 0 := by exact_mod_cast hw.ne'
  have hh' : (destRect.height : ℚ) ≠ 0 := by exact_mod_cast hh.ne'
  rw [draw_interpolate b s srcTexture srcRect destRect filter hw hh x hx, Prod.mk.injEq]
  constructor
  · simp only [hsw, div_mul_cancel₀ _ hw']
    push_cast
    ring
  · simp only [hsh, sub_mul, one_mul, div_mul_cancel₀ _ hh']
    push_cast
    ring

/-- **A same-size nearest copy.** When `src_rect` lies in the source texture and has
`dest_rect`'s size, the center of every pixel `(i, j)` of the rectangle `Draw` covers lies in
the quad, and `GL_NEAREST` fetches texel `(src_rect.x + i, src_rect.y + dest_rect.height - 1 - j)`
for it: each texel of `src_rect` once, with the rows in reverse order. -/
theorem draw_same_size_nearest_texel (b : Blitter) (s : GLState) (srcTexture : Nat)
    (srcRect destRect : Rect2D) (filter : Nat) (hw : 0 < destRect.width)
    (hh : 0 < destRect.height) (hsw : srcRect.width = destRect.width)
    (hsh : srcRect.height = destRect.height) (hx : 0 ≤ srcRect.x)
    (hxW : srcRect.x + srcRect.width ≤ (s.textureSize srcTexture).1) (hy : 0 ≤ srcRect.y)
    (hyH : srcRect.y + srcRect.height ≤ (s.textureSize srcTexture).2) (i j : Int)
    (hi : 0 ≤ i ∧ i < destRect.width) (hj : 0 ≤ j ∧ j < destRect.height) :
    let tris := stripTriangles false (b.quad (b.draw s srcTexture srcRect destRect filter))
    let p : ℚ × ℚ := (i + 1 / 2, j + 1 / 2)
    (∃ x ∈ tris, InTriangle x.1.1 x.2.1.1 x.2.2.1 p) ∧
      ∀ x ∈ tris,
        (nearestTexel (s.textureSize srcTexture).1 (interpolate x.1 x.2.1 x.2.2 p).1,
          nearestTexel (s.textureSize srcTexture).2 (interpolate x.1 x.2.1 x.2.2 p).2) =
        (srcRect.x + i, srcRect.y + destRect.height - 1 - j) :=
  ⟨draw_covers_pixel b s srcTexture srcRect destRect filter hw hh hi hj, fun x hx => by
    rw [draw_same_size_center b s srcTexture srcRect destRect filter hw hh hsw hsh i j x hx,
      nearestTexel_center _ _ (by omega) (by omega), nearestTexel_center _ _ (by omega) (by omega)]⟩

/-- Copying the 64 × 32 rectangle at `(16, 8)` of a 256 × 256 texture: pixel `(0, 0)` takes
texel `(16, 39)`, the last row of the source rectangle. -/
theorem draw_same_size_nearest_texel_corner :
    let b : Blitter := ⟨1, 2, 3, 4, 5, 6, 7⟩
    let s := GLState.initial 640 480 16 fun _ => (256, 256)
    let tris := stripTriangles false (b.quad (b.draw s 8 ⟨16, 8, 64, 32⟩ ⟨0, 0, 64, 32⟩ glNearest))
    (0 : Int) < 64 ∧ (0 : Int) < 32 ∧ (16 : Int) + 64 ≤ 256 ∧ (8 : Int) + 32 ≤ 256 ∧
      ∀ x ∈ tris, (nearestTexel 256 (interpolate x.1 x.2.1 x.2.2 (1 / 2, 1 / 2)).1,
        nearestTexel 256 (interpolate x.1 x.2.1 x.2.2 (1 / 2, 1 / 2)).2) = (16, 39) := by
  intro b s tris
  have h := draw_same_size_nearest_texel b s 8 ⟨16, 8, 64, 32⟩ ⟨0, 0, 64, 32⟩ glNearest
    (by decide) (by decide) rfl rfl (by decide) (by decide) (by decide) (by decide) 0 0
    (by decide) (by decide)
  refine ⟨by decide, by decide, by decide, by decide, fun x hx => ?_⟩
  simpa using h.2 x hx

end Blitter

end Xenia.Gpu.Gl4
