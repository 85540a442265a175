import Swbus.Proto
import Swbus.Mux
import Swbus.NextHop
import Swbus.Relay
import Swbus.SimpleClient
import Swbus.Replies
import Swbus.Panics
import Swbus.Ids
import Swbus.Recv
import Swbus.RoundTrip
import Swbus.Daemon
import Swbus.Bus
import Swbus.Accounting
import Swbus.MgmtArgs
import Swbus.Hamgrd
import Swbus.Tasks
