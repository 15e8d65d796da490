import ChainFlow.Amount
import ChainFlow.Json.Access
import ChainFlow.Schema.Scalar

/-!
# Vaults

A contract call deposits a token into a vault. `Vaults` holds the address of the vault for an action
on a chain; a node may name another address. `VaultCall` is the call that a backend is asked for.
-/

namespace ChainFlow

/-- The addresses of vaults, by action and then by chain. -/
abbrev Vaults := List (Action × List (ChainId × String))

def ChainId.ofText (text : String) : Except Fault ChainId :=
  match Text.whole text.toList with
  | .ok chain => .ok chain
  | .error .malformed => .error (.badChainId text)
  | .error (.tooLong digits) => .error (.tooManyDigits digits)

namespace Vaults

/-- An entry set in a table, in its place if the key is there. -/
def put {α β : Type} [BEq α] : List (α × β) → α → β → List (α × β)
  | [], key, value => [(key, value)]
  | (other, old) :: rest, key, value =>
    if other == key then (other, value) :: rest else (other, old) :: put rest key value

def chains : List (ChainId × String) → List (String × String) →
    Except Fault (List (ChainId × String))
  | known, [] => .ok known
  | known, (text, address) :: rest =>
    match ChainId.ofText text with
    | .ok chain => chains (put known chain address) rest
    | .error fault => .error fault

/-- Vaults with the addresses of an action set. The chain ids are read first, then the word for the
action. -/
def withAction (vaults : Vaults) (word : String) (addresses : List (String × String)) :
    Except Fault Vaults := do
  let addresses ← chains [] addresses
  match Action.ofWord? word with
  | some action => return put vaults action addresses
  | none => throw (.unknownAction word)

def ofTable (table : List (String × List (String × String))) : Except Fault Vaults :=
  table.foldlM (fun vaults (word, addresses) => vaults.withAction word addresses) []

def defaultAddress : String := "0x742d35Cc6634C0532925a3b8D4C9db96c4b4Db45"

/-- The default vault for both supported actions on every supported chain. -/
def standard : Vaults :=
  let everywhere := Chain.supported.map fun chain => (chain.id, defaultAddress)
  [(.stake, everywhere), (.lend, everywhere)]

/-- Vaults from data, the default ones where there is none. -/
def ofData : Json → Except Fault Vaults
  | .null => .ok standard
  | .obj actions =>
    actions.foldlM (fun vaults (word, addresses) =>
      match addresses with
      | .obj addresses =>
        vaults.withAction word
          (addresses.map fun (chain, address) => (chain, address.string?.getD ""))
      | value => .error (.notATable value)) []
  | value => .error (.notATable value)

/-- The address for an action on a chain, the given one if there is one. -/
def address? (vaults : Vaults) (action : Action) (chain : ChainId) (given : Option String) :
    Option String :=
  match given.filter (· ≠ "") with
  | some address => some address
  | none => (((vaults.lookup action).getD []).lookup chain).filter (· ≠ "")

def resolve (vaults : Vaults) (action : Action) (chain : ChainId) (given : Option String) :
    Except Fault String :=
  if action = .swap then .error (.unsupported action)
  else
    match vaults.address? action chain given with
    | some address => .ok address
    | none => .error (.noVault action chain)

end Vaults

def depositFunction : String := "deposit"

def depositInterface : Json :=
  let parameter (name type : String) : Json := .obj [("name", .str name), ("type", .str type)]
  .arr [.obj [
    ("type", .str "function"), ("name", .str depositFunction),
    ("stateMutability", .str "nonpayable"),
    ("inputs", .arr [parameter "assets" "uint256", parameter "receiver" "address"]),
    ("outputs", .arr [parameter "shares" "uint256"])]]

structure VaultCall where
  chain : ChainId
  address : String
  /-- The token and the amount that the vault may take. -/
  approval : Option (String × String)

namespace VaultCall

def build (vaults : Vaults) (action : Action) (chain : ChainId) (symbol amount : String)
    (given : Option String) : Except Fault VaultCall :=
  (vaults.resolve action chain given).map fun address => ⟨chain, address, some (symbol, amount)⟩

def arguments (symbol : String) (amount : Json) (user : String) : Except Fault Json :=
  (Amount.baseUnits amount symbol).map fun units =>
    .arr [.str (String.ofList (Text.integer units)), .str user]

def payload (call : VaultCall) (symbol amount user : String) : Except Fault Json :=
  (arguments symbol (.str amount) user).map fun arguments =>
    let approval :=
      match call.approval with
      | some (symbol, amount) =>
        [("tokenApproval", Json.obj [("token", .str symbol), ("amount", .str amount)])]
      | none => []
    .obj ([("toChainId", .int call.chain), ("contractAddress", .str call.address),
      ("contractAbi", depositInterface), ("functionName", .str depositFunction),
      ("functionParams", arguments)] ++ approval)

end VaultCall

end ChainFlow
