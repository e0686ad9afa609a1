import AotOpt.AOTFileWriter.RelTable
import AotOpt.AotClass.BranchTables
import AotOpt.AotClass.JumpSlots
import AotOpt.AotClass.Relocations
import AotOpt.Vistor.DisThenAs
import AotOpt.AotClass.Addresses
import AotOpt.Lib.Flow
import AotOpt.Vistor.Parents
import AotOpt.Vistor.Streams
import AotOpt.Vistor.AddiRefused
import AotOpt.Vistor.Lu12iOriMeaning
import AotOpt.AOTFileWriter.ReadBack
import AotOpt.AotClass.Guarded
import AotOpt.Lib.Keep
import AotOpt.Vistor.ControlFlow
import AotOpt.Vistor.LoadImm
import AotOpt.Vistor.MemAddi
import AotOpt.Vistor.Passes
import AotOpt.Disassembler.Encodable
import AotOpt.Vistor.Merge
import AotOpt.Vistor.AddiCalls
import AotOpt.Vistor.Lu12iOriLu32iRels
import AotOpt.Vistor.RemoveTailExact
import AotOpt.Vistor.MergeAll
import AotOpt.AOTFileWriter.History
import AotOpt.Vistor.RegKilled
import AotOpt.LinkList.Represents
import AotOpt.Disassembler.Accepted
import AotOpt.Vistor.Patches
import AotOpt.Vistor.Reread
import AotOpt.AOTFileWriter.Reload
import AotOpt.Vistor.MapInsns
import AotOpt.Disassembler.Print
import AotOpt.Disassembler.Distance
import AotOpt.Tools.Printing
import AotOpt.Tools.Driver
import AotOpt.Tools.WriteToFile
import AotOpt.Vistor.PassMeaning
import AotOpt.Vistor.Reach
import AotOpt.Vistor.PrintReachable
import AotOpt.Tools.Load
import AotOpt.Tools.Optimize
