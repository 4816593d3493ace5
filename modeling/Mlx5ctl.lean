import Mlx5ctl.RscDump.Safety
import Mlx5ctl.RscDump.Protocol
import Mlx5ctl.RscDump.Lossless
import Mlx5ctl.RscDump.Parse
import Mlx5ctl.RscDump.Bounds
import Mlx5ctl.Lib.Words
import Mlx5ctl.RscDump.Format
import Mlx5ctl.RscDump.RoundTrip
import Mlx5ctl.DiagCnt.Query
import Mlx5ctl.DiagCnt.Samples
import Mlx5ctl.DiagCnt.Sizes
import Mlx5ctl.Lib.Patch
import Mlx5ctl.Request
import Mlx5ctl.DiagCnt.SetParam
import Mlx5ctl.DiagCnt.SetQuery
import Mlx5ctl.Cli
import Mlx5ctl.QueryObj
import Mlx5ctl.RegAccess
import Mlx5ctl.DevCaps
import Mlx5ctl.RegDump
import Mlx5ctl.Identifiers
import Mlx5ctl.RscDump.Umem
import Mlx5ctl.RscDump.Modes
import Mlx5ctl.Journal
import Mlx5ctl.Lib.Ledger
import Mlx5ctl.RscDump.Mlx5lib
import Mlx5ctl.RscDump.Args
import Mlx5ctl.RscDump.Resources
import Mlx5ctl.Devices
import Mlx5ctl.DiagCnt.Command
import Mlx5ctl.Main
import Mlx5ctl.DiagCnt.Frequency
import Mlx5ctl.ExitStatus
import Mlx5ctl.DiagCnt.Settings
import Mlx5ctl.DiagCnt.CounterIds
import Mlx5ctl.DiagCnt.DevFreq
import Mlx5ctl.RscDump.Options
import Mlx5ctl.Lib.Align
import Mlx5ctl.RscDump.UmemSize
import Mlx5ctl.RscDump.FirstRequest
import Mlx5ctl.RscDump.DumpRequests
import Mlx5ctl.DriverLink
import Mlx5ctl.ArgVector
import Mlx5ctl.Dispatch
import Mlx5ctl.Lib.Getopt
import Mlx5ctl.OptionLoops
import Mlx5ctl.Names
import Mlx5ctl.RscDump.MenuRecords
import Mlx5ctl.RawDumps
import Mlx5ctl.Lib.Interleave
import Mlx5ctl.RscDump.Server
import Mlx5ctl.RscDump.Concurrent
import Mlx5ctl.RscDump.Printed
import Mlx5ctl.Lib.Reaches
import Mlx5ctl.Calls
import Mlx5ctl.Footprint
import Mlx5ctl.CommandLines
import Mlx5ctl.Lib.Runs
import Mlx5ctl.Sessions
import Mlx5ctl.AsBuilt
import Mlx5ctl.Listing
import Mlx5ctl.RscDump.Ending
import Mlx5ctl.Termination
import Mlx5ctl.Pretty
import Mlx5ctl.RegPretty
import Mlx5ctl.CapPretty
import Mlx5ctl.CapSweep
import Mlx5ctl.HexForms
