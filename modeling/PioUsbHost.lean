import PioUsbHost.Rx.Verdict
import PioUsbHost.Pio.TransmitPacket
import PioUsbHost.Pio.Loopback
import PioUsbHost.Pio.TokenDataPair
import PioUsbHost.Pio.Arming
import PioUsbHost.Rx.TransmitterOnLines
import PioUsbHost.Rx.HandshakeOnWire
import PioUsbHost.Frame.Schedule
import PioUsbHost.Cdc.UnionSubordinates
import PioUsbHost.Usbtmc.Message
import PioUsbHost.Cdc.Read
import PioUsbHost.Host.Detach
import PioUsbHost.Host.BusReset
import PioUsbHost.Host.ResetFlag
import PioUsbHost.Host.Events
import PioUsbHost.Host.Publication
import PioUsbHost.Discovery.Selection
import PioUsbHost.Cdc.Pairing
import PioUsbHost.Cdc.Isolation
import PioUsbHost.Pipe.Contract
import PioUsbHost.Usbtmc.Freshness
import PioUsbHost.Ftdi.Channel
import PioUsbHost.Ftdi.Read
import PioUsbHost.Ftdi.Wire
import PioUsbHost.Ftdi.AmDivisors
import PioUsbHost.Ftdi.ClosestRate
import PioUsbHost.Ftdi.BaudTotal
import PioUsbHost.Audio.Pairing
import PioUsbHost.Ftdi.Endpoints
import PioUsbHost.Hid.Sections
import PioUsbHost.Pipe.Assembly
import PioUsbHost.Pipe.Packetisation
import PioUsbHost.Usb.ErrorDetection
import PioUsbHost.Usb.Encode
import PioUsbHost.Usb.Tiling
import PioUsbHost.Attach.Detector
import PioUsbHost.Pipe.Pacing
import PioUsbHost.Pipe.ControlInStages
import PioUsbHost.Pipe.ControlOutStages
import PioUsbHost.Usbtmc.Reassembly
import PioUsbHost.Usbtmc.OutBuffer
import PioUsbHost.Attach.RootPort
import PioUsbHost.Rx.DataOnWire
import PioUsbHost.Cdc.LineRequests
import PioUsbHost.Discovery.Allocation
