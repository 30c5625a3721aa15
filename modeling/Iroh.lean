import Iroh.Bitswap.Types
import Iroh.Bitswap.SendTimeout
import Iroh.Bitswap.RetryLoop
import Iroh.Bitswap.Deadline
import Iroh.Bitswap.MessageSender
import Iroh.Bitswap.World
import Iroh.Bitswap.WorldInvariant
import Iroh.Bitswap.Backpressure
import Iroh.Bitswap.Wakeup
import Iroh.Bitswap.Replies
import Iroh.Bitswap.Tasks
import Iroh.Util.Lock
import Iroh.Util.LockFile
import Iroh.Gateway.Client
