import ChannelLedger.Bytes.Hex
import ChannelLedger.Ledger.Failure
import ChannelLedger.Message.Block

/-!
# Asking a ledger

A ledger answers three queries: where the channel ends, which block has a given hash, and which
block has a given number. A ledger may keep a state, so that what it answers depends on what it
was asked before; one whose answers depend on the query alone is given by its answers. Nothing
here says that the answers are honest or fit together.
-/
namespace ChannelLedger

/-- Where a channel ends (`ChainInfo`): its height and the links of its last block. -/
structure ChainTip where
  height : UInt64
  currentHash : Bytes
  previousHash : Bytes
  deriving DecidableEq, Repr

/-- How a block is asked for. -/
inductive BlockRef where
  | hash (bytes : Bytes)
  | number (n : UInt64)
  deriving DecidableEq, Repr

def BlockRef.text : BlockRef → String
  | .hash bytes => "hash " ++ Bytes.toHex bytes
  | .number n => "number " ++ toString n

/-- A query. -/
inductive Query where
  | tip
  | block (ref : BlockRef)
  deriving DecidableEq, Repr

/-- Whether a query asks for a block. -/
def Query.isBlock : Query → Bool
  | .tip => false
  | .block _ => true

/-- A ledger whose state is a `σ` (`LedgerQuery`). -/
structure Ledger (σ : Type) where
  tip : σ → Except LedgerFailure ChainTip × σ
  block : BlockRef → σ → Except LedgerFailure Block × σ

/-- The answers of a ledger that are always the same. -/
structure Answers where
  tip : Except LedgerFailure ChainTip
  block : BlockRef → Except LedgerFailure Block

/-- The ledger that gives the same answers in every state. -/
def Answers.ledger (answers : Answers) (σ : Type) : Ledger σ where
  tip state := (answers.tip, state)
  block ref state := (answers.block ref, state)

/-- The ledger that also notes each query, the last one first. -/
def Ledger.noting {σ : Type} (ledger : Ledger σ) : Ledger (σ × List Query) where
  tip := fun (state, queries) =>
    let (answer, state) := ledger.tip state
    (answer, state, .tip :: queries)
  block ref := fun (state, queries) =>
    let (answer, state) := ledger.block ref state
    (answer, state, .block ref :: queries)

end ChannelLedger
