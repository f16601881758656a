import Northstar.Lib.Reader
import Northstar.Portal.Settlement

/-!
# Deposits, receipts and withdrawals

A deposit moves lamports into a recipient's receipt account; a settlement pays out of it
what the recipient withdrew in the rollup. Withdrawing in the rollup moves lamports to a
fixed sink.
-/

namespace Northstar.Portal

open Bytes Checked PortalError

variable (env : Env)

/-! ## Reading a session from bytes -/

/-- The field of `width` bytes at `offset`. -/
def bytesAt (bytes : List UInt8) (offset width : Nat) : List UInt8 :=
  (bytes.drop offset).take width

/-- The word at an offset. -/
def word64At (bytes : List UInt8) (offset : Nat) : UInt64 :=
  UInt64.ofNat (Reader.value (bytesAt bytes offset 8))

/-- The digest at an offset. -/
def hash32At (bytes : List UInt8) (offset : Nat) : Hash32 :=
  Vector.ofFn fun i => bytes.getD (offset + i) 0

/-- The status a byte stands for. -/
def SettlementStatus.ofByte : UInt8 → Option SettlementStatus
  | 0 => some .idle
  | 1 => some .inProgress
  | _ => none

/-- A session in its serialized form. -/
def Session.ofBytes (bytes : List UInt8) : Option Session := do
  guard (bytes.length = 226 ∧ bytesAt bytes 0 8 = [243, 81, 72, 115, 214, 188, 72, 144])
  let settlementStatus ← SettlementStatus.ofByte (bytes.getD 144 0)
  return {
    gridId := word64At bytes 8
    ttlSlots := word64At bytes 16
    feeCap := word64At bytes 24
    createdAt := word64At bytes 32
    nonce := BitVec.ofNat 128 (Reader.value (bytesAt bytes 40 16))
    authority := hash32At bytes 56
    validator := hash32At bytes 88
    settlementIntervalSlots := word64At bytes 120
    lastSettledL1Slot := word64At bytes 128
    lastSettledErSlot := word64At bytes 136
    settlementStatus
    settlementErSlot := word64At bytes 145
    settlementChecksum := hash32At bytes 153
    settlementAccumulator := hash32At bytes 185
    settlementStartedL1Slot := word64At bytes 217
    bump := bytes.getD 225 0 }

/-- The session an account's data reads as, wherever the account is. -/
def decodeSession : AccountData → Option Session
  | .session state => some state
  | .raw bytes => Session.ofBytes bytes
  | _ => none

/-! ## Receipts -/

/-- The lamports a receipt account holds beyond its rent. -/
def receiptEscrow (receipt : Account) : Option UInt64 :=
  checkedSub receipt.lamports (env.minimumBalance receipt.data.size)

/-- A receipt of either format. One of the second format accounts for no more than was
deposited. -/
def parseDepositReceipt : AccountData → Except ProgramError DepositReceipt
  | .depositReceiptV2 frame => do
    rejectIf (frame.sessionContext = zero32 ∨
      frame.totalDeposited.toNat < frame.base.balance.toNat + frame.base.withdrawn.toNat)
      depositReceiptStateInvalid
    return frame.base
  | .depositReceipt state => .ok state
  | _ => .error depositReceiptDeserializeFailed

/-- Write a receipt back in its own format. -/
def writeDepositReceipt (data : AccountData) (state : DepositReceipt) :
    Except ProgramError AccountData :=
  match data with
  | .depositReceiptV2 frame => do
    rejectIf (state.session ≠ frame.base.session ∨ state.recipient ≠ frame.base.recipient ∨
      state.bump ≠ frame.base.bump ∨ state.withdrawn < frame.base.withdrawn ∨
      frame.totalDeposited.toNat < state.balance.toNat + state.withdrawn.toNat)
      depositReceiptStateInvalid
    return .depositReceiptV2 { frame with base := state }
  | .depositReceipt _ => .ok (.depositReceipt state)
  | _ => .error depositReceiptStateInvalid

/-- The context of a session of the second format. -/
def receiptContext (L : Ledger) (session : Pubkey) : Except ProgramError (Option Hash32) :=
  match (L session).data with
  | .sessionV2 frame => do return some (← frame.context env session)
  | _ => .ok none

/-- Where the receipt of `erSource` lives, by the format of its session. -/
def findReceiptPda (context : Option Hash32) (session erSource : Pubkey) : Pubkey × UInt8 :=
  match context with
  | some context => findDepositReceiptV2Pda env context erSource
  | none => findDepositReceiptPda env session erSource

/-- A receipt has the format of its session, and its context. -/
def requireReceiptContext (context : Option Hash32) (data : AccountData) :
    Except ProgramError Unit :=
  match context, data with
  | none, .depositReceiptV2 _ => .error depositReceiptStateInvalid
  | none, _ => .ok ()
  | some context, .depositReceiptV2 frame =>
    rejectIf (frame.sessionContext ≠ context) invalidAccountData
  | some _, _ => .error depositReceiptStateInvalid

/-- The balances a receipt is settled to. -/
structure SettleDepositReceipt where
  erSlot : UInt64
  checksum : Hash32
  balance : UInt64
  withdrawn : UInt64
  payoutLamports : UInt64
  l1Recipient : Pubkey

/-- Pay `lamports` from the receipt to the recipient. -/
def payOut (L : Ledger) (receipt recipient : Pubkey) (lamports : UInt64) : ProgramResult :=
  if 0 < lamports then do
    let credited ← okOr (checkedAdd (L recipient).lamports lamports) arithmeticOverflow
    let L := L.setLamports recipient credited
    let left ← okOr (checkedSub (L receipt).lamports lamports) arithmeticOverflow
    return L.setLamports receipt left
  else .ok L

/-- Bring the receipt to its settled state, pay out and accumulate, unless it is settled
already. -/
def installReceipt (L : Ledger) (session : Pubkey) (sessionState : Session)
    (receipt erSource recipient : Pubkey) (state : DepositReceipt) (args : SettleDepositReceipt) :
    ProgramResult :=
  if state.balance = args.balance ∧ args.withdrawn ≤ state.withdrawn then .ok L
  else do
    rejectIf (args.withdrawn < state.withdrawn) invalidAccountData
    let withdrawnDelta ← okOr (checkedSub args.withdrawn state.withdrawn) arithmeticOverflow
    rejectIf (args.payoutLamports ≠ withdrawnDelta) invalidAccountData
    let escrow ← okOr (receiptEscrow env (L receipt)) insufficientFees
    let escrowAfterPayout ← okOr (checkedSub escrow args.payoutLamports) insufficientFees
    rejectIf (escrowAfterPayout < args.balance) insufficientFees
    let L ← payOut L receipt recipient args.payoutLamports
    let data ← writeDepositReceipt (L receipt).data
      { state with balance := args.balance, withdrawn := args.withdrawn }
    storeSession (L.setData receipt data) session
      { sessionState with
        settlementAccumulator := accumulateReceiptChecksum env
          sessionState.settlementAccumulator erSource recipient args.balance args.withdrawn
          args.payoutLamports }

/-- Settling a receipt on its named accounts. -/
def settleDepositReceipt
    (validator session depositReceipt erSource l1Recipient : AccountMeta)
    (args : SettleDepositReceipt) (L : Ledger) : ProgramResult := do
  let sessionState ← loadSession env L session.address
  requireValidator validator sessionState
  requireActiveSettlement sessionState args.erSlot args.checksum
  rejectIf (l1Recipient.address ≠ args.l1Recipient) invalidAccountData
  let context ← receiptContext env L session.address
  let (receiptKey, receiptBump) := findReceiptPda env context session.address erSource.address
  rejectIf (depositReceipt.address ≠ receiptKey) invalidPdaSeeds
  rejectIf ((L depositReceipt.address).owner ≠ env.programId) invalidAccountData
  requireReceiptContext context (L depositReceipt.address).data
  let state ← parseDepositReceipt (L depositReceipt.address).data
  rejectIf (state.session ≠ session.address ∨ state.recipient ≠ erSource.address ∨
    state.bump ≠ receiptBump) invalidPdaSeeds
  installReceipt env L session.address sessionState depositReceipt.address erSource.address
    l1Recipient.address state args

/-- The accounts of `SettleDepositReceipt`. -/
def processSettleDepositReceipt (accounts : List AccountMeta)
    (args : SettleDepositReceipt) (L : Ledger) : ProgramResult :=
  match accounts with
  | validator :: session :: depositReceipt :: erSource :: l1Recipient :: _ =>
    settleDepositReceipt env validator session depositReceipt erSource l1Recipient args L
  | _ => .error .notEnoughAccountKeys

/-! ## Deposits -/

/-- A plain account: the system program's, empty and not executable. -/
def Account.IsPlain (account : Account) : Prop :=
  account.owner = systemProgramId ∧ account.data = .empty ∧ account.executable = false
  deriving Decidable

/-- Create the receipt, or check that an existing one is the recipient's. -/
def prepareReceipt (L : Ledger) (depositor : AccountMeta)
    (session receipt recipient : Pubkey) : ProgramResult :=
  if (L receipt).data = .empty then do
    let L ← initializePdaAccount env L depositor receipt (env.minimumBalance 89) 89
    return L.setData receipt (.depositReceipt
      { session := session
        recipient := recipient
        balance := 0
        withdrawn := 0
        bump := (findDepositReceiptPda env session recipient).2 })
  else
    match (L receipt).data with
    | .depositReceipt state => do
      rejectIf (state.session ≠ session ∨ state.recipient ≠ recipient) invalidPdaSeeds
      return L
    | _ => .error depositReceiptDeserializeFailed

/-- What the receipt holds beyond rent before the deposit. -/
def preEscrow (receipt : Account) : Except ProgramError UInt64 :=
  if receipt.data = .empty then .ok 0
  else okOr (checkedSub receipt.lamports (env.minimumBalance 89)) insufficientFees

/-- Move the deposit into the receipt; a deposit of nothing does nothing. -/
def deposit (depositor session receipt recipient : AccountMeta) (lamports : UInt64)
    (L : Ledger) : ProgramResult :=
  if lamports = 0 then .ok L
  else do
    rejectIf (receipt.address ≠
      (findDepositReceiptPda env session.address recipient.address).1) invalidPdaSeeds
    let escrow ← preEscrow env (L receipt.address)
    let _ ← okOr (checkedAdd escrow lamports) .arithmeticOverflow
    let L ← prepareReceipt env L depositor session.address receipt.address recipient.address
    systemTransfer L depositor receipt.address lamports

/-- Depositing on its named accounts. The session account is not held to an address: any
account of Portal's that reads as a session will do. -/
def depositFee (now : UInt64) (depositor session receipt recipient : AccountMeta)
    (lamports : UInt64) (L : Ledger) : ProgramResult := do
  rejectIf (depositor.isSigner = false) unauthorized
  rejectIf ((L session.address).owner ≠ env.programId) sessionAccountOwnerMismatch
  let sessionState ← okOr (decodeSession (L session.address).data) sessionDeserializeFailed
  rejectIf (sessionState.isExpired now) sessionExpired
  rejectIf (¬(L recipient.address).IsPlain) invalidAccountData
  deposit env depositor session receipt recipient lamports L

/-- The accounts of `DepositFee`, in order. -/
def processDepositFee (now : UInt64) (accounts : List AccountMeta)
    (lamports : UInt64) (L : Ledger) : ProgramResult :=
  match accounts with
  | depositor :: session :: depositReceipt :: recipient :: _systemProgram :: _ =>
    depositFee env now depositor session depositReceipt recipient lamports L
  | _ => .error .notEnoughAccountKeys

/-! ## Withdrawals -/

/-- The account that holds withdrawn lamports until they are settled. -/
def withdrawalSink : Pubkey :=
  ⟨#[0x05, 0x7d, 0x77, 0xa2, 0x13, 0x37, 0xb6, 0x2d, 0xb7, 0x7d, 0xba, 0x7e, 0x26, 0xf8, 0xe1,
    0x47, 0x06, 0x35, 0xbd, 0x36, 0x53, 0x76, 0xa6, 0x7d, 0x7f, 0xf5, 0xa1, 0x82, 0x3e, 0xe0,
    0x8f, 0xb8], rfl⟩

/-- Move the lamports to the sink; a withdrawal of nothing does nothing. -/
def withdraw (L : Ledger) (source : AccountMeta) (sink : Pubkey) (lamports : UInt64) :
    ProgramResult :=
  if lamports = 0 then .ok L
  else do
    let _ ← okOr (checkedSub (L source.address).lamports lamports) .insufficientFunds
    systemTransfer L source sink lamports

/-- Withdrawing on its named accounts. -/
def startWithdrawal (source sink : AccountMeta) (lamports : UInt64) (L : Ledger) :
    ProgramResult := do
  rejectIf (source.isSigner = false) unauthorized
  rejectIf (sink.address ≠ withdrawalSink) withdrawalSinkMismatch
  withdraw L source sink.address lamports

/-- The accounts of `StartWithdrawal`, in order. -/
def processStartWithdrawal (accounts : List AccountMeta) (lamports : UInt64) (L : Ledger) :
    ProgramResult :=
  match accounts with
  | source :: _l1Recipient :: sink :: _systemProgram :: _clock :: _ =>
    startWithdrawal source sink lamports L
  | _ => .error .notEnoughAccountKeys

end Northstar.Portal
