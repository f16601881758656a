import Northstar.Runtime.Withdrawals
import Northstar.Settle.Transcript

/-!
# Settlement plans

What a settlement is going to install, in the order in which the Portal hashes it. The plan
carries the checksum that the session is to end with.
-/

namespace Northstar.Runtime

open Northstar.Portal Bytes

structure SettlementChunk where
  account : Pubkey
  accountDataOffset : UInt32
  data : List UInt8
  deriving DecidableEq

structure AccountOwnerSettlement where
  account : Pubkey
  owner : Pubkey
  deriving DecidableEq

structure AccountLamportsSettlement where
  account : Pubkey
  lamports : UInt64
  deriving DecidableEq

structure TokenWithdrawalSettlement where
  bridgeProgram : Pubkey
  sessionBridge : Pubkey
  erTokenAccount : Pubkey
  vault : Pubkey
  vaultTokenAccount : Pubkey
  l1DestinationTokenAccount : Pubkey
  mint : Pubkey
  tokenProgram : Pubkey
  amount : UInt64
  withdrawn : UInt64
  decimals : UInt8
  deriving DecidableEq

/-- What no instruction of the Portal can settle. -/
inductive SettlementUnsupportedChange
  | missingL1Account (account : Pubkey)
  | dataLengthChanged (account : Pubkey) (l1Len erLen : Nat)
  | lamportsChanged (account : Pubkey) (l1Lamports erLamports : UInt64)
  | ownerChanged (account l1Owner erOwner : Pubkey)
  | executableChanged (account : Pubkey) (l1Executable erExecutable : Bool)
  | rentEpochChanged (account : Pubkey) (l1RentEpoch erRentEpoch : UInt64)
  | tooManyLamportChanges (count max : Nat)
  deriving DecidableEq

/-- **A plan.** -/
structure SettlementPlan where
  erSlot : UInt64
  checksum : Hash32
  chunks : List SettlementChunk
  ownerChanges : List AccountOwnerSettlement
  lamportChanges : List AccountLamportsSettlement
  receiptBalances : List ReceiptBalanceSettlement
  tokenWithdrawals : List TokenWithdrawalSettlement
  unsupportedChanges : List SettlementUnsupportedChange
  deriving DecidableEq

namespace SettlementPlan

def tokenChecksum (w : TokenWithdrawalSettlement) : TokenWithdrawalChecksum :=
  { bridgeProgram := w.bridgeProgram
    sessionBridge := w.sessionBridge
    erTokenAccount := w.erTokenAccount
    vault := w.vault
    vaultTokenAccount := w.vaultTokenAccount
    destinationTokenAccount := w.l1DestinationTokenAccount
    mint := w.mint
    tokenProgram := w.tokenProgram
    amount := w.amount
    withdrawn := w.withdrawn
    decimals := w.decimals }

/-- The effects of a plan, in the order they are hashed in. -/
def effects (plan : SettlementPlan) : List SettlementEffect :=
  (plan.chunks.map fun chunk => .data chunk.account chunk.accountDataOffset chunk.data) ++
    (plan.ownerChanges.map fun change => .owner change.account change.owner) ++
    (plan.lamportChanges.map fun change => .lamports change.account change.lamports) ++
    (plan.receiptBalances.map fun receipt => .receipt receipt.erSource receipt.l1Recipient
      receipt.balance receipt.withdrawn receipt.payoutLamports) ++
    (plan.tokenWithdrawals.map fun withdrawal => .tokenWithdrawal (tokenChecksum withdrawal))

def recomputedChecksum (env : Env) (plan : SettlementPlan) : Hash32 :=
  digest env (env.sha256 (initialMessage plan.erSlot)) plan.effects

/-- How many bytes the plan takes when it is stored. -/
def encodedLength (plan : SettlementPlan) : Nat :=
  60 + (plan.chunks.map fun chunk => 40 + chunk.data.length).sum + 64 * plan.ownerChanges.length +
    40 * plan.lamportChanges.length + 120 * plan.receiptBalances.length +
    273 * plan.tokenWithdrawals.length

end SettlementPlan

end Northstar.Runtime
