import Teale.Gateway.Pools.Accounting
import Teale.Gateway.DeviceIdentity
import Teale.Gateway.Anchoring.Inclusion
import Teale.Gateway.Solvency
import Teale.Gateway.Drip
import Teale.Gateway.Inference.Usage
import Teale.Gateway.Inference.Endpoints
import Teale.Gateway.RelayClient
import Teale.Gateway.Scheduler
import Teale.Gateway.Inference.Dispatch
import Teale.Gateway.TreasuryBacking
import Teale.Gateway.Ownership
import Teale.Gateway.LoginBinding
import Teale.Gateway.Linking
import Teale.Gateway.Logout
import Teale.Gateway.OnchainAmounts
import Teale.Gateway.EmailCodes
import Teale.Node.Pin.Authentication
import Teale.Gateway.Pins.Interleaving
import Teale.Gateway.Pins.Deletion
import Teale.Gateway.Pins.Roles
import Teale.Gateway.Pins.Patch
import Teale.Node.Pin.Delivery
import Teale.Gateway.Pins.Identity
import Teale.Node.Pin.NetmapCache
import Teale.MacApp.Netmap
import Teale.Node.Pin.Serve
import Teale.Node.Pin.Usage
import Teale.Relay.Server
import Teale.Node.Queue
import Teale.Node.Outcomes
import Teale.Node.Swap
import Teale.Node.Privacy
import Teale.Node.RelayData
