import ChainParams.Time.Timestamp

/-!
# PooledTransaction — transactions that wait for a block

What the making of a block has to know about a transaction that no block holds yet.
-/

namespace ChainParams

/-- The least priority of a transaction that counts as one of high priority. -/
def minHighPriority : Float := 0

/-- A transaction that waits for a block, with the time when it was `added` and the `height` of the
chain then. -/
structure PooledTransaction (Tx : Type) where
  transaction : Tx
  added : Timestamp
  height : UInt32
  fee : Int64
  deriving DecidableEq, Repr

namespace PooledTransaction

variable {Tx : Type}

/-- `n` further entries for the same transaction. -/
def copies (entry : PooledTransaction Tx) (n : Nat) : List (PooledTransaction Tx) :=
  List.replicate n entry

/-- The number of `entries` that hold `transaction`. -/
def holders [BEq Tx] (transaction : Tx) (entries : List (PooledTransaction Tx)) : Nat :=
  entries.countP fun entry => entry.transaction == transaction

end PooledTransaction
end ChainParams
