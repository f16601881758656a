import Northstar.Game.HonestChallenger
import Northstar.Runtime.Escrow
import Northstar.Bridge.Releases
import Northstar.Proof.Exactness
import Northstar.Settle.AuthorizationLog
import Northstar.Continuity.Agreement
import Northstar.Settle.Undelegation
import Northstar.Creation.Prefunding
import Northstar.Runtime.Capture
import Northstar.Runtime.Durability
import Northstar.Proof.Paths
import Northstar.Continuity.LineageDirectory
import Northstar.Continuity.Separation
import Northstar.Runtime.Batches
import Northstar.Runtime.History
import Northstar.Proof.Rows
import Northstar.Proof.Framing
import Northstar.Proof.Calls
