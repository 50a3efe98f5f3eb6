import Crazyradio.Esb.Address
import Crazyradio.Usb.Calls
import Crazyradio.Usb.LastScanned
import Crazyradio.Usb.Pairing
import Crazyradio.Usb.Order
import Crazyradio.Usb.Modes
import Crazyradio.Usb.Limits
import Crazyradio.Usb.Guard
import Crazyradio.Usb.Records
import Crazyradio.Usb.DataStage
import Crazyradio.Usb.Progress
import Crazyradio.Usb.Separation
import Crazyradio.Usb.Requests
import Crazyradio.Usb.Replies
import Crazyradio.Usb.Air
import Crazyradio.Usb.Delivery
import Crazyradio.Usb.Carrier
import Crazyradio.Usb.RoundTrip
import Crazyradio.Usb.LedCalls
import Crazyradio.Usb.HostScan
import Crazyradio.Driver.GoodAck
import Crazyradio.Driver.Refinement
import Crazyradio.Driver.Modes
import Crazyradio.Driver.Stuck
import Crazyradio.Driver.Discipline
import Crazyradio.Driver.Unsent
import Crazyradio.Driver.Carrier
import Crazyradio.Driver.Standing
import Crazyradio.Stack.Refinement
