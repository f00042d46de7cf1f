import Xenia.Poly.String
import Xenia.Kernel.Fs.FileSystem
import Xenia.Kernel.Fs.Resolve
import Xenia.Kernel.Fs.Symlinks
import Xenia.Kernel.Fs.Mount
import Xenia.Cpu.Memory
import Xenia.Cpu.ExecModule
import Xenia.Cpu.Init
import Xenia.Cpu.Prepare
import Xenia.Cpu.Faults
import Xenia.Gpu.Gl4.Context
import Xenia.Gpu.Gl4.Blitter
import Xenia.Gpu.Gl4.Rasterize
import Xenia.Gpu.Gl4.Sample
import Xenia.Gpu.Gl4.Session
import Xenia.Gpu.Gl4.Objects
