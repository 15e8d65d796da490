import ChainFlow.Json.Printer

/-!
# Chains

The test networks a flow can run on, by chain id. A chain without an entry still has a name made of
its id, and its transactions are linked on the default explorer.
-/

namespace ChainFlow

abbrev ChainId := Int

structure Chain where
  id : ChainId
  name : String
  explorer : String

namespace Chain

def sepolia : Chain := ⟨11155111, "Sepolia", "https://sepolia.etherscan.io"⟩

def supported : List Chain := [
  sepolia,
  ⟨11155420, "Optimism Sepolia", "https://sepolia-optimism.etherscan.io"⟩,
  ⟨80002, "Polygon Amoy", "https://amoy.polygonscan.com"⟩,
  ⟨421614, "Arbitrum Sepolia", "https://sepolia.arbiscan.io"⟩,
  ⟨84532, "Base Sepolia", "https://sepolia.basescan.org"⟩,
  ⟨10143, "Monad Testnet", "https://testnet.monadexplorer.com"⟩]

def find? (id : ChainId) : Option Chain := supported.find? (·.id == id)

def isSupported (id : ChainId) : Bool := (find? id).isSome

end Chain

namespace ChainId

def text (id : ChainId) : String := String.ofList (Text.integer id)

def name (id : ChainId) : String :=
  match Chain.find? id with
  | some chain => chain.name
  | none => s!"Chain {text id}"

/-- The explorer of a chain: its own, else the given one, else that of Sepolia. -/
def explorer (id : ChainId) (fallback : Option String) : String :=
  match Chain.find? id, fallback with
  | some chain, _ => chain.explorer
  | none, some url => if url = "" then Chain.sepolia.explorer else url
  | none, none => Chain.sepolia.explorer

def withoutSlashes (url : String) : String :=
  String.ofList (url.toList.reverse.dropWhile (· = '/')).reverse

def transactionUrl (id : ChainId) (transaction : String) (fallback : Option String) : String :=
  s!"{withoutSlashes (explorer id fallback)}/tx/{transaction}"

end ChainId

end ChainFlow
