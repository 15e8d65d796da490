import ChainFlow.Schema.Record

/-!
# Answers of a backend

What a backend reports of a transaction, of a bridge and a contract call performed in one, and of
the assets that a user holds. Fields that are not declared are kept.
-/

namespace ChainFlow

open Schema

structure Receipt where
  success : Bool
  hash : Option String
  url : Option String
  error : Option String
  extras : Fields

namespace Receipt

def labels : List Label :=
  [.same "success", ⟨"transactionHash", "transaction_hash"⟩, ⟨"explorerUrl", "explorer_url"⟩,
    .same "error"]

def record : String := "TransactionResponse"

def read (value : Json) : Reading Receipt :=
  ((object .document record value).andThen openFields).andThen fun fields =>
    (fun success hash url error => ⟨success, hash, url, error, Schema.extras fields labels⟩)
      <$> withDefault fields (.same "success") false boolean
      <*> optional fields ⟨"transactionHash", "transaction_hash"⟩ text
      <*> optional fields ⟨"explorerUrl", "explorer_url"⟩ text
      <*> optional fields (.same "error") text

def dump (style : Style) (receipt : Receipt) : Json :=
  style.record (labels.zip [.bool receipt.success, .ofString? receipt.hash, .ofString? receipt.url,
    .ofString? receipt.error]) receipt.extras

end Receipt

structure FusedReceipt where
  success : Bool
  bridgeHash : Option String
  bridgeUrl : Option String
  callHash : Option String
  callUrl : Option String
  hash : Option String
  url : Option String
  error : Option String
  extras : Fields

namespace FusedReceipt

def labels : List Label :=
  [.same "success", ⟨"bridgeTransactionHash", "bridge_transaction_hash"⟩,
    ⟨"bridgeExplorerUrl", "bridge_explorer_url"⟩,
    ⟨"executeTransactionHash", "execute_transaction_hash"⟩,
    ⟨"executeExplorerUrl", "execute_explorer_url"⟩, ⟨"transactionHash", "transaction_hash"⟩,
    ⟨"explorerUrl", "explorer_url"⟩, .same "error"]

def record : String := "BridgeAndExecuteResponse"

def read (value : Json) : Reading FusedReceipt :=
  ((object .document record value).andThen openFields).andThen fun fields =>
    (fun success bridgeHash bridgeUrl callHash callUrl hash url error =>
        ⟨success, bridgeHash, bridgeUrl, callHash, callUrl, hash, url, error,
          Schema.extras fields labels⟩)
      <$> withDefault fields (.same "success") false boolean
      <*> optional fields ⟨"bridgeTransactionHash", "bridge_transaction_hash"⟩ text
      <*> optional fields ⟨"bridgeExplorerUrl", "bridge_explorer_url"⟩ text
      <*> optional fields ⟨"executeTransactionHash", "execute_transaction_hash"⟩ text
      <*> optional fields ⟨"executeExplorerUrl", "execute_explorer_url"⟩ text
      <*> optional fields ⟨"transactionHash", "transaction_hash"⟩ text
      <*> optional fields ⟨"explorerUrl", "explorer_url"⟩ text
      <*> optional fields (.same "error") text

def dump (style : Style) (receipt : FusedReceipt) : Json :=
  style.record (labels.zip [.bool receipt.success, .ofString? receipt.bridgeHash,
    .ofString? receipt.bridgeUrl, .ofString? receipt.callHash, .ofString? receipt.callUrl,
    .ofString? receipt.hash, .ofString? receipt.url, .ofString? receipt.error]) receipt.extras

/-- The text, if it is there and not empty. -/
def stated (text : Option String) : Option String := text.filter (· ≠ "")

/-- The hash and the link of one side: its own, else those of the other side, else those of the
whole. A side counts as reported if its hash is. -/
def side (own other : Option String × Option String) (receipt : FusedReceipt) :
    Option String × Option String :=
  if (stated own.1).isSome then own
  else if (stated other.1).isSome then other
  else (receipt.hash, receipt.url)

def bridgeSide (receipt : FusedReceipt) : Option String × Option String :=
  receipt.side (receipt.bridgeHash, receipt.bridgeUrl) (receipt.callHash, receipt.callUrl)

def callSide (receipt : FusedReceipt) : Option String × Option String :=
  receipt.side (receipt.callHash, receipt.callUrl) (receipt.bridgeHash, receipt.bridgeUrl)

end FusedReceipt

structure ChainShare where
  chain : Int
  balance : String
  chainName : Option String
  fiat : Option Binary64
  extras : Fields

namespace ChainShare

def labels : List Label :=
  [⟨"chainId", "chain_id"⟩, .same "balance", ⟨"chainName", "chain_name"⟩,
    ⟨"balanceInFiat", "balance_in_fiat"⟩]

def read (value : Json) : Reading ChainShare :=
  ((object .document "ChainBreakdown" value).andThen openFields).andThen fun fields =>
    (fun chain balance chainName fiat =>
        ⟨chain, balance, chainName, fiat, Schema.extras fields labels⟩)
      <$> required fields ⟨"chainId", "chain_id"⟩ integer
      <*> withDefault fields (.same "balance") "0" text
      <*> optional fields ⟨"chainName", "chain_name"⟩ text
      <*> optional fields ⟨"balanceInFiat", "balance_in_fiat"⟩ float

def dump (style : Style) (share : ChainShare) : Json :=
  style.record (labels.zip [.int share.chain, .str share.balance, .ofString? share.chainName,
    .ofOption .float share.fiat]) share.extras

end ChainShare

structure Asset where
  symbol : String
  balance : String
  fiat : Option Binary64
  shares : List ChainShare
  extras : Fields

namespace Asset

def labels : List Label :=
  [.same "symbol", .same "balance", ⟨"balanceInFiat", "balance_in_fiat"⟩, .same "breakdown"]

def record : String := "UserAsset"

def read (value : Json) : Reading Asset :=
  ((object .document record value).andThen openFields).andThen fun fields =>
    (fun symbol balance fiat shares =>
        ⟨symbol, balance, fiat, shares, Schema.extras fields labels⟩)
      <$> required fields (.same "symbol") text
      <*> withDefault fields (.same "balance") "0" text
      <*> optional fields ⟨"balanceInFiat", "balance_in_fiat"⟩ float
      <*> withDefault fields (.same "breakdown") [] (list ChainShare.read)

def dump (style : Style) (asset : Asset) : Json :=
  style.record (labels.zip [.str asset.symbol, .str asset.balance, .ofOption .float asset.fiat,
    .arr (asset.shares.map (·.dump style))]) asset.extras

end Asset

end ChainFlow
