import ChainFlow.Flow.Ask
import ChainFlow.Proofs.Result
import ChainFlow.Proofs.Sample

/-!
# What payloads name

The chain, the token and the amounts in the payload of a contract call, whether the call is asked for
alone or together with the bridge before it. A bridge and a call in one are asked for by the payload of
the call at the other end, with the bridge around it (`fusedRequest_payload`).
-/

namespace ChainFlow

/-! ## Contract calls -/

/-- A payload for a contract call: the chain that it is made on, what the vault may take, and what is
deposited for whom. -/
structure ContractCall.Deposits (call : ContractCall) (location : Location) (user : String)
    (payload : Json) : Prop where
  chain : payload.field "toChainId" = .int location.chain
  approval : payload.field "tokenApproval" =
    .obj [("token", .str location.token.symbol), ("amount", .str call.amount)]
  arguments : ∃ units, Amount.baseUnits (.str call.amount) location.token.symbol = .ok units ∧
    payload.field "functionParams" = .arr [.str (String.ofList (Text.integer units)), .str user]

theorem VaultCall.payload_eq_ok {deposit : VaultCall} {symbol amount user : String} {payload : Json}
    (written : deposit.payload symbol amount user = .ok payload) :
    ∃ units, Amount.baseUnits (.str amount) symbol = .ok units ∧
      payload.field "toChainId" = .int deposit.chain ∧
      payload.field "functionParams" =
        .arr [.str (String.ofList (Text.integer units)), .str user] ∧
      ∀ token approved, deposit.approval = some (token, approved) →
        payload.field "tokenApproval" = .obj [("token", .str token), ("amount", .str approved)] := by
  obtain ⟨arguments, given, rfl⟩ := Except.map_eq_ok written
  obtain ⟨units, counted, rfl⟩ := Except.map_eq_ok given
  refine ⟨units, counted, rfl, rfl, fun token approved approval => ?_⟩
  simp only [approval]
  rfl

theorem ContractCall.deposit_eq_ok {call : ContractCall} {vaults : Vaults} {token : Token}
    {chain : ChainId} {deposit : VaultCall} (built : call.deposit vaults token chain = .ok deposit) :
    ∃ address, deposit = ⟨chain, address, some (token.symbol, call.amount)⟩ := by
  obtain ⟨address, _, rfl⟩ := Except.map_eq_ok built
  exact ⟨address, rfl⟩

theorem ContractCall.deposits_of_request {call : ContractCall} {vaults : Vaults} {location : Location}
    {user : String} {payload : Json}
    (written : (call.request vaults location).bind (·.payload user) = .ok payload) :
    call.Deposits location user payload := by
  obtain ⟨own, built, written⟩ := Except.bind_eq_ok written
  obtain ⟨deposit, deposited, rfl⟩ := Except.map_eq_ok built
  obtain ⟨address, rfl⟩ := ContractCall.deposit_eq_ok deposited
  obtain ⟨units, counted, chain, arguments, approved⟩ := VaultCall.payload_eq_ok written
  exact ⟨chain, approved _ _ rfl, units, counted, arguments⟩

/-! ## A bridge and a contract call in one -/

theorem Location.after_of_bridge? {node : Node} {bridge : Bridge}
    (isBridge : node.bridge? = some bridge) (location : Location) :
    location.after node = location.onChain bridge.toChain := by
  simp only [Location.after, isBridge]

/-- The payload of a bridge around the payload of a contract call. -/
def Bridge.around (bridge : Bridge) (call : ContractCall) (token : Token) (execute : Json) : Json :=
  .obj [("token", .str token.symbol), ("amount", .str call.amount),
    ("toChainId", .int bridge.toChain), ("execute", execute)]

theorem fusedRequest_eq (bridge : Bridge) (call : ContractCall) (vaults : Vaults)
    (location : Location) (user : String) :
    (fusedRequest bridge call vaults location).bind (·.payload user) =
      ((call.request vaults (location.onChain bridge.toChain)).bind (·.payload user)).map
        (bridge.around call location.token) := by
  simp only [fusedRequest, ContractCall.request, Location.onChain]
  cases call.deposit vaults location.token bridge.toChain with
  | error fault => rfl
  | ok deposit =>
      simp only [Except.map, Except.bind, Request.payload]
      cases deposit.payload location.token.symbol call.amount user <;> rfl

/-- A payload for a bridge and a contract call in one: it holds the payload of the call alone, and
names one chain and one amount all over. -/
structure Bridge.Enfolds (bridge : Bridge) (call : ContractCall) (location : Location) (user : String)
    (execute payload : Json) : Prop where
  execute_eq : payload.field "execute" = execute
  toChain : payload.field "toChainId" = .int bridge.toChain
  callChain : execute.field "toChainId" = .int bridge.toChain
  bridgeChain : ∃ own, (bridge.request location).payload user = .ok own ∧
    own.field "chainId" = .int bridge.toChain
  amount : payload.field "amount" = .str call.amount
  approved : (execute.field "tokenApproval").field "amount" = .str call.amount
  deposited : ∃ units, Amount.baseUnits (.str call.amount) location.token.symbol = .ok units ∧
    execute.field "functionParams" = .arr [.str (String.ofList (Text.integer units)), .str user]

/-- What is sent for a bridge and a contract call in one holds all that would be sent for the call
once the bridge is done, and cannot be built exactly where that cannot be built, for the same fault. -/
theorem fusedRequest_payload {node : Node} {bridge : Bridge} (isBridge : node.bridge? = some bridge)
    (call : ContractCall) (vaults : Vaults) (location : Location) (user : String) :
    match (call.request vaults (location.after node)).bind (·.payload user) with
    | .error fault => (fusedRequest bridge call vaults location).bind (·.payload user) = .error fault
    | .ok execute => ∃ payload,
        (fusedRequest bridge call vaults location).bind (·.payload user) = .ok payload ∧
        bridge.Enfolds call location user execute payload := by
  have fused_eq := fusedRequest_eq bridge call vaults location user
  have there := Location.after_of_bridge? isBridge location
  rw [← there] at fused_eq
  rw [fused_eq]
  cases executed : (call.request vaults (location.after node)).bind (·.payload user) with
  | error fault => rfl
  | ok execute =>
      have deposits := ContractCall.deposits_of_request executed
      rw [there] at deposits
      refine ⟨_, rfl, ?_⟩
      constructor
      · rfl
      · rfl
      · exact deposits.chain
      · exact ⟨_, rfl, rfl⟩
      · rfl
      · rw [deposits.approval]
        rfl
      · exact deposits.arguments

theorem fusedRequest_payload_sample :
    ∃ execute payload,
      (ContractCall.request ⟨.stake, "2.5", none, none, none, none⟩ Vaults.standard
        (Location.after ⟨.usdc, 84532⟩ (Sample.bridge "b" 11155111 "5"))).bind
          (·.payload "0xuser") = .ok execute ∧
      (fusedRequest ⟨11155111, "5", none, none⟩ ⟨.stake, "2.5", none, none, none, none⟩
        Vaults.standard ⟨.usdc, 84532⟩).bind (·.payload "0xuser") = .ok payload ∧
      Bridge.Enfolds ⟨11155111, "5", none, none⟩ ⟨.stake, "2.5", none, none, none, none⟩
        ⟨.usdc, 84532⟩ "0xuser" execute payload := by
  have general := @fusedRequest_payload (Sample.bridge "b" 11155111 "5") ⟨11155111, "5", none, none⟩ rfl
    ⟨.stake, "2.5", none, none, none, none⟩ Vaults.standard ⟨.usdc, 84532⟩ "0xuser"
  have built : ((ContractCall.request ⟨.stake, "2.5", none, none, none, none⟩ Vaults.standard
      (Location.after ⟨.usdc, 84532⟩ (Sample.bridge "b" 11155111 "5"))).bind
        (·.payload "0xuser")).toOption.isSome = true := by decide +kernel
  revert general built
  generalize (ContractCall.request ⟨.stake, "2.5", none, none, none, none⟩ Vaults.standard
      (Location.after ⟨.usdc, 84532⟩ (Sample.bridge "b" 11155111 "5"))).bind (·.payload "0xuser") = plain
  intro general built
  cases plain with
  | error fault => cases built
  | ok execute =>
      obtain ⟨payload, written, enfolds⟩ := general
      exact ⟨execute, payload, rfl, written, enfolds⟩

end ChainFlow
