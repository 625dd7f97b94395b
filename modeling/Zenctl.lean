import Zenctl.JsonReader
import Zenctl.Safety
import Zenctl.ProfileRestore
import Zenctl.Containment
import Zenctl.WirelessExchange
import Zenctl.EfiStore
import Zenctl.Redirection
import Zenctl.BiosPassword
import Zenctl.Narrowing
import Zenctl.CallContract
import Zenctl.Arguments
import Zenctl.CpuSelection
import Zenctl.CpuRuns
import Zenctl.ProfileListing
import Zenctl.ReplyBounds
import Zenctl.WakeupTable
import Zenctl.KernelLimits
import Zenctl.UnitConversion
import Zenctl.BiosSettings
import Zenctl.BatteryIndex
import Zenctl.Enumeration
import Zenctl.DocumentReading
import Zenctl.DeviceNames
import Zenctl.HciNumbers
import Zenctl.BluetoothPower
import Zenctl.NvmlTable
import Zenctl.GpuDevices
import Zenctl.BatteryFields
import Zenctl.BracketLists
import Zenctl.PowerProfiles
import Zenctl.Capabilities
import Zenctl.FileRoundTrip
import Zenctl.HeapBlock
import Zenctl.ChunkedReads
import Zenctl.JsonStrings
import Zenctl.EscapedStrings
import Zenctl.StealCleanup
import Zenctl.CommandReplies
import Zenctl.EfiHistory
import Zenctl.ProfileSessions
import Zenctl.ProfileStore
