import Sbpf.Elf.Basic
import Sbpf.Elf.Types
import Sbpf.Elf.Slice
import Sbpf.Elf.Strings
import Sbpf.Elf.Parse
import Sbpf.Elf.Encode
import Sbpf.Elf.Accepted
import Sbpf.Elf.Layout
import Sbpf.Elf.Errors
import Sbpf.Elf.Dynamic
import Sbpf.Elf.Views
import Sbpf.Elf.Names
import Sbpf.Elf.Debug
import Sbpf.Elf.Truncation
import Sbpf.Elf.Overlap
import Sbpf.Elf.Identification
import Sbpf.Elf.Order
import Sbpf.Elf.Position
import Sbpf.Elf.Appended
import Sbpf.Elf.Frame
import Sbpf.Elf.Records
import Sbpf.Disassembler.Ebpf
import Sbpf.Disassembler.Disassemble
import Sbpf.Disassembler.Branch
import Sbpf.Disassembler.Dispatch
import Sbpf.Disassembler.Numbers
import Sbpf.Disassembler.Lines
