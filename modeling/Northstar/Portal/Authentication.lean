import Northstar.Lib.MerklePath
import Northstar.Portal.Ledger

/-!
# Authentication paths under a checkpoint's roots

Portal checks a state root or a transaction-effect commitment against the root the
checkpoint carries by climbing a path of typed SHA-256 nodes. Both checks are one
procedure at different kinds, leaf counts and leaves.
-/

namespace Northstar.Portal

open Bytes Checked MerklePath

variable (env : Env)

/-- The tag in front of every hash. -/
def checkpointDomain : List UInt8 := ascii "northstar-checkpoint-v1"

/-- The hash of an inner node. -/
def nodeHash (kind : List UInt8) (level : Nat) (left right : Hash32) : Hash32 :=
  env.hashv [checkpointDomain, kind, ascii "node", le 4 level, left.toList, right.toList]

/-- The hash that seals a tree with its leaf count. -/
def rootHash (kind : List UInt8) (leafCount : UInt32) (top : Hash32) : Hash32 :=
  env.hashv [checkpointDomain, kind, ascii "root", le32 leafCount, top.toList]

/-- The leaf that commits a state root at its position in the trace. -/
def traceLeaf (index : UInt32) (stateRoot : Hash32) : Hash32 :=
  env.hashv [checkpointDomain, ascii "trace", ascii "leaf", le64 36, le32 index, stateRoot.toList]

/-- `x` as a 32-bit word, when it fits. -/
def tryU32 (x : UInt64) : Option UInt32 :=
  if x.toNat < 2 ^ 32 then some x.toUInt32 else none

/-- **Authentication**: `path` has exactly the depth of a tree of `leafCount` leaves, is
zero beyond it, and climbs from `leaf` to `root`. A path array shorter than the depth
aborts the program, which refuses the instruction as a mismatch does. -/
def authenticatePath (kind : List UInt8) (leafCount : UInt32) (index : Nat)
    (leaf : Hash32) (pathLen : UInt8) (path : List Hash32) (root : Hash32) : Bool :=
  let depth := pathDepth leafCount.toNat
  pathLen.toNat == depth && decide (depth ≤ path.length) &&
    (path.drop depth).all (· == zero32) &&
    rootHash env kind leafCount (climb (nodeHash env kind) 0 index leaf (path.take depth)) == root

/-- The root is the one at its step of the trace. -/
def verifyTraceAuthenticationPath (checkpoint : Checkpoint) (stateIndex : UInt64)
    (stateRoot : Hash32) (pathLen : UInt8) (path : Vector Hash32 5) : Bool :=
  match tryU32 stateIndex, tryU32 (saturatingAdd checkpoint.stepCount 1) with
  | some index, some leafCount =>
    decide (index < leafCount) &&
      authenticatePath env (ascii "trace") leafCount index.toNat (traceLeaf env index stateRoot)
        pathLen path.toList checkpoint.traceRoot
  | _, _ => false

/-- The leaf is the effect of its step. -/
def verifyTxEffectAuthenticationPath (checkpoint : Checkpoint) (stepIndex : UInt64)
    (leaf : Hash32) (pathLen : UInt8) (path : Vector Hash32 4) : Bool :=
  decide (stepIndex < checkpoint.stepCount) &&
    match tryU32 checkpoint.stepCount with
    | some leafCount =>
      authenticatePath env (ascii "transaction-effect") leafCount stepIndex.toNat leaf pathLen
        path.toList checkpoint.txEffectRoot
    | none => false

end Northstar.Portal
