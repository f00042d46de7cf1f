import Xenia.Cpu.Memory

/-!
# `ExecModule`: a guest module prepared for execution

`ExecModule` owns the symbol database of one guest binary, the LLVM module generated from
it, and the code generator that filled that module.  `Prepare` builds the module once
(runtime module, analysis, module creation, global injection, link, code generation),
then on every call materializes and optimizes it, runs `Init` and forces the JIT to
compile every function with a body.  `Init` binds the guest's kernel variables in guest
memory and runs the module's static constructors and `xe_module_init`.

The collaborators (LLVM, the symbol database, the code generator, the guest code the
engine runs) are not modelled; what each answers in one call is an argument, so every
theorem holds for every behaviour of theirs.  The calls the module makes to them are
recorded in a log of `Event`s, the trace the ordering properties speak of.

## Main definitions

* `ExecModule`: the state; `Collaborators`: the answers of one call; `Event`: the log
* `bindVariables`: `Init`'s loop over the variable symbols
* `ExecModule.init`, `ExecModule.uninit`, `ExecModule.prepare`: the methods
* `ExecModule.call`, `ExecModule.run`: any method, and any sequence of calls
-/

namespace Xenia.Cpu

/-- `KernelExport::type`. -/
inductive ExportType
  | function
  | variable
  deriving DecidableEq, Repr

/-- The fields of a `KernelExport` that `Init` reads. -/
structure KernelExport where
  name : String
  type : ExportType
  isImplemented : Bool
  variablePtr : UInt32
  deriving DecidableEq, Repr

/-- The fields of a `VariableSymbol` that `Init` reads. -/
structure VariableSymbol where
  address : UInt32
  kernelExport : Option KernelExport
  deriving DecidableEq, Repr

/-- A function of an LLVM module: its name and whether it only has a declaration. -/
structure LFunction where
  name : String
  isDeclaration : Bool
  deriving DecidableEq, Repr

/-- The generated module `gen_module_`, as far as `ExecModule` reads it. -/
structure GenModule where
  functions : List LFunction
  deriving DecidableEq, Repr

/-- `Module::getFunction`. -/
def GenModule.getFunction (m : GenModule) (name : String) : Option LFunction :=
  m.functions.find? fun f => f.name == name

/-- The names of the module's functions that have a body, in module order. -/
def GenModule.definedFunctions (m : GenModule) : List String :=
  (m.functions.filter fun f => !f.isDeclaration).map fun f => f.name

/-- What a symbol database is built over. -/
inductive SymbolSource
  | xex
  | raw (startAddress endAddress : UInt32)
  deriving DecidableEq, Repr

/-- `sdb_`: its source, and whether `Analyze` has succeeded on it. -/
structure SymbolDatabase where
  source : SymbolSource
  analyzed : Bool
  deriving DecidableEq, Repr

/-- A call `ExecModule` makes to a collaborator, or a warning it logs. -/
inductive Event
  | loadRuntime (ok : Bool)
  | analyze (ok : Bool)
  | createModule
  | addGlobalMapping (name : String)
  | linkModules (ok : Bool)
  | generate (ok : Bool)
  | materialize (ok : Bool)
  | runPasses
  | getAllVariables (ok : Bool)
  | warnUnimplemented (name : String)
  | runStaticConstructorsDestructors (isDtors : Bool)
  | runFunction (name : String)
  | getPointerToFunction (name : String)
  | removeModule
  deriving DecidableEq, Repr

/-- The events of the generation block of `Prepare`. -/
def Event.inGeneration : Event → Bool
  | .loadRuntime _ | .analyze _ | .createModule | .addGlobalMapping _ | .linkModules _
  | .generate _ => true
  | _ => false

/-- What the collaborators answer during one call of an `ExecModule` method. -/
structure Collaborators where
  /-- `MemoryBuffer::getFile` and `ParseBitcodeFile` of `xethunk.bc`: `false` if either fails. -/
  loadRuntime : Bool
  analyze : Bool
  /-- The module's functions after `Linker::LinkModules`, and whether it succeeded. -/
  link : List LFunction × Bool
  /-- The module's functions after `ModuleGenerator::Generate`, and whether it returned 0. -/
  generate : List LFunction × Bool
  /-- `raw_fd_ostream` opens the dump of the module before optimization, `<name>-preopt.bc`. -/
  dumpPreoptOpens : Bool
  /-- `raw_fd_ostream` opens the dump of the optimized module, `<name>.bc`. -/
  dumpOpens : Bool
  materialize : Bool
  /-- The pass manager on the module's functions; `none` when the verifier aborts. -/
  runPasses : List LFunction → Option (List LFunction)
  getAllVariables : Option (List VariableSymbol)
  /-- The guest code the engine runs: static constructors or destructors (`isDtors`). -/
  runStatic : Bool → GuestMemory → GuestMemory
  /-- A guest function run by name: guest memory after it, and its result as an `int`. -/
  runFunction : String → GuestMemory → GuestMemory × Int

/-- The command-line flags `Prepare` reads. -/
structure Flags where
  dumpModuleBitcode : Bool
  optimizeIrModules : Bool

/-- How a call of an `ExecModule` method can crash the process by itself.  Aborts raised while
guest code runs (`XEASSERTALWAYS` in `XeTrap` and `XeIndirectBranch`) and LLVM's own fatal
errors are the collaborators' behaviour and are not faults of the model. -/
inductive Fault
  | nullSymbolDatabase
  | nullModule
  | nullCodegen
  | nullFunction
  | verifierAbort
  deriving DecidableEq, Repr

/-- The state of an `ExecModule`: the guest memory it shares, `sdb_`, `gen_module_`,
whether `codegen_` is set, and the log of its calls to collaborators. -/
structure ExecModule where
  memory : GuestMemory
  sdb : Option SymbolDatabase
  genModule : Option GenModule
  codegen : Bool
  log : List Event

namespace ExecModule

/-- `ExecModule::ExecModule`. -/
def create (memory : GuestMemory) : ExecModule := ⟨memory, none, none, false, []⟩

/-- Record a collaborator call. -/
def emit (m : ExecModule) (e : Event) : ExecModule := { m with log := m.log ++ [e] }

@[simp] theorem emit_log (m : ExecModule) (e : Event) : (m.emit e).log = m.log ++ [e] := rfl
@[simp] theorem emit_genModule (m : ExecModule) (e : Event) :
    (m.emit e).genModule = m.genModule := rfl
@[simp] theorem emit_memory (m : ExecModule) (e : Event) : (m.emit e).memory = m.memory := rfl
@[simp] theorem emit_sdb (m : ExecModule) (e : Event) : (m.emit e).sdb = m.sdb := rfl

end ExecModule

/-! ## `Init` -/

/-- The `0xDEADBEEF` written for a variable whose export has no value. -/
def unimplementedValue : UInt32 := 0xDEADBEEF

/-- One iteration of `Init`'s loop: the memory after it and the warning it logs. -/
def bindVariable (host : ByteOrder) (mem : GuestMemory) (var : VariableSymbol) :
    GuestMemory × List Event :=
  match var.kernelExport with
  | none => (mem, [])
  | some e =>
    match e.type with
    | .function => (mem, [])
    | .variable =>
      if e.isImplemented then
        (mem.store32 host var.address.toNat (xeswap32be host e.variablePtr), [])
      else
        (mem.store32 host var.address.toNat (xeswap32be host unimplementedValue),
          [.warnUnimplemented e.name])

/-- `Init`'s loop over the variable symbols. -/
def bindVariables (host : ByteOrder) : GuestMemory → List VariableSymbol → GuestMemory × List Event
  | mem, [] => (mem, [])
  | mem, var :: vars =>
    let first := bindVariable host mem var
    let rest := bindVariables host first.1 vars
    (rest.1, first.2 ++ rest.2)

namespace ExecModule

/-- The guest code `Init` runs: the static constructors, then `xe_module_init`, which must
be in the module. -/
def runInit (env : Collaborators) (m : ExecModule) (gm : GenModule) :
    Except Fault (ExecModule × Int) :=
  let m := { m.emit (.runStaticConstructorsDestructors false) with
    memory := env.runStatic false m.memory }
  match gm.getFunction "xe_module_init" with
  | none => .error .nullFunction
  | some _ =>
    let r := env.runFunction "xe_module_init" m.memory
    .ok ({ m.emit (.runFunction "xe_module_init") with memory := r.1 }, r.2)

/-- `ExecModule::Init`. -/
def init (host : ByteOrder) (env : Collaborators) (m : ExecModule) :
    Except Fault (ExecModule × Int) :=
  match m.sdb, env.getAllVariables with
  | none, _ => .error .nullSymbolDatabase
  | some _, none => .ok (m.emit (.getAllVariables false), 1)
  | some _, some vars =>
    let bound := bindVariables host m.memory vars
    let m := { m with memory := bound.1, log := m.log ++ Event.getAllVariables true :: bound.2 }
    match m.genModule with
    | none => .error .nullModule
    | some gm => runInit env m gm

/-- `ExecModule::Uninit`: `xe_module_uninit`, which must be in the module, then the static
destructors. -/
def uninit (env : Collaborators) (m : ExecModule) : Except Fault (ExecModule × Int) :=
  match m.genModule with
  | none => .error .nullModule
  | some gm =>
    match gm.getFunction "xe_module_uninit" with
    | none => .error .nullFunction
    | some _ =>
      let m := { m.emit (.runFunction "xe_module_uninit") with
        memory := (env.runFunction "xe_module_uninit" m.memory).1 }
      .ok ({ m.emit (.runStaticConstructorsDestructors true) with
        memory := env.runStatic true m.memory }, 0)

/-! ## `Prepare` -/

/-- The native callbacks `InjectGlobals` declares and binds with `addGlobalMapping`. -/
def trampolines : List String :=
  ["XeTrap", "XeIndirectBranch", "XeInvalidInstruction", "XeTraceKernelCall",
    "XeTraceUserCall", "XeTraceInstruction"]

/-- `ExecModule::InjectGlobals` on the module just created: each trampoline is declared in
it and bound; it always returns 0. -/
def injectGlobals (m : ExecModule) (gm : GenModule) : ExecModule :=
  { m with
    genModule := some ⟨gm.functions ++ trampolines.map (fun name => ⟨name, true⟩)⟩
    log := m.log ++ trampolines.map .addGlobalMapping }

/-- The generation block of `Prepare`, taken while `gen_module_` is null: `true` when it
runs to its end, `false` when it jumps to `XECLEANUP`. -/
def generateModule (flags : Flags) (env : Collaborators) (m : ExecModule) :
    Except Fault (ExecModule × Bool) :=
  if !env.loadRuntime then .ok (m.emit (.loadRuntime false), false) else
  let m := m.emit (.loadRuntime true)
  match m.sdb with
  | none => .error .nullSymbolDatabase
  | some sdb =>
    if !env.analyze then .ok (m.emit (.analyze false), false) else
    let m := { m.emit (.analyze true) with sdb := some { sdb with analyzed := true } }
    let m := injectGlobals (m.emit .createModule) ⟨[]⟩
    let m := { m.emit (.linkModules env.link.2) with genModule := some ⟨env.link.1⟩ }
    let m := { m.emit (.generate env.generate.2) with
      genModule := some ⟨env.generate.1⟩, codegen := true }
    .ok (m, env.generate.2 && (!flags.dumpModuleBitcode || env.dumpPreoptOpens))

/-- The forced-JIT loop: `getPointerToFunction` on every function with a body. -/
def forceJit (m : ExecModule) (gm : GenModule) : ExecModule :=
  { m with log := m.log ++ gm.definedFunctions.map .getPointerToFunction }

/-- The rest of `Prepare`, on the generated module: materialize, optimize, dump, `Init`,
force the JIT. -/
def finishPrepare (host : ByteOrder) (flags : Flags) (env : Collaborators) (m : ExecModule)
    (gm : GenModule) : Except Fault (ExecModule × Int) :=
  if !env.materialize then .ok (m.emit (.materialize false), 1) else
  let m := m.emit (.materialize true)
  match env.runPasses gm.functions with
  | none => .error .verifierAbort
  | some functions =>
    let m := { m.emit .runPasses with genModule := some ⟨functions⟩ }
    if flags.optimizeIrModules && flags.dumpModuleBitcode && !env.dumpOpens then .ok (m, 1) else
    match init host env m with
    | .error f => .error f
    | .ok (m', code) =>
      if code ≠ 0 then .ok (m', 1) else
      match m'.genModule with
      | none => .error .nullModule
      | some gm' => .ok (forceJit m' gm', 0)

/-- `ExecModule::Prepare`. -/
def prepare (host : ByteOrder) (flags : Flags) (env : Collaborators) (m : ExecModule) :
    Except Fault (ExecModule × Int) :=
  match m.genModule with
  | some gm => finishPrepare host flags env m gm
  | none =>
    match generateModule flags env m with
    | .error f => .error f
    | .ok (m', false) => .ok (m', 1)
    | .ok (m', true) =>
      match m'.genModule with
      | none => .error .nullModule
      | some gm => finishPrepare host flags env m' gm

/-! ## Calls and runs -/

/-- The methods of `ExecModule` a caller invokes. -/
inductive Call
  | prepareUserModule
  | prepareRawBinary (startAddress endAddress : UInt32)
  | prepare
  | init
  | uninit
  | addFunctionsToMap
  | dump
  deriving DecidableEq, Repr

/-- One method call; `AddFunctionsToMap` and `Dump` return nothing and are given code 0.
`PrepareUserModule` and `PrepareRawBinary` install a fresh symbol database first. -/
def call (host : ByteOrder) (flags : Flags) (env : Collaborators) (m : ExecModule) :
    Call → Except Fault (ExecModule × Int)
  | .prepareUserModule => prepare host flags env { m with sdb := some ⟨.xex, false⟩ }
  | .prepareRawBinary s e => prepare host flags env { m with sdb := some ⟨.raw s e, false⟩ }
  | .prepare => prepare host flags env m
  | .init => init host env m
  | .uninit => uninit env m
  | .addFunctionsToMap => if m.codegen then .ok (m, 0) else .error .nullCodegen
  | .dump => if m.sdb.isSome then .ok (m, 0) else .error .nullSymbolDatabase

/-- A sequence of calls, each with its collaborators' answers; it stops at a fault. -/
def run (host : ByteOrder) (flags : Flags) : ExecModule → List (Call × Collaborators) →
    Except Fault ExecModule
  | m, [] => .ok m
  | m, (c, env) :: rest =>
    match m.call host flags env c with
    | .error f => .error f
    | .ok (m', _) => run host flags m' rest

/-- `ExecModule::~ExecModule`: if the module was built, `Uninit`, then detach it from the
engine. -/
def destroy (env : Collaborators) (m : ExecModule) : Except Fault ExecModule :=
  match m.genModule with
  | none => .ok m
  | some _ =>
    match uninit env m with
    | .error f => .error f
    | .ok (m', _) => .ok (m'.emit .removeModule)

end ExecModule

end Xenia.Cpu
