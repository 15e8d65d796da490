import ChainFlow.Template.Basic

/-!
# Example templates

Two templates that are always there and are never written to the store.
-/

namespace ChainFlow.Template

def exampleNode (id : String) (height : Nat) (label : String) (role : Role) : Node where
  id := id
  place := ⟨.ofInt 250, .ofInt height⟩
  label := label
  badge := none
  role := role
  payloadExtras := []
  payloadOverrides := []
  extras := []

def exampleEdge (source target id : String) : Edge :=
  ⟨id, source, target, none, none, some "smoothstep", some true, []⟩

def exampleOrigin : ChainId := 84532

def exampleGoal : ChainId := 11155111

def exampleStart (amount : String) : Node :=
  exampleNode "start-1" 50 "Start" (.start ⟨exampleOrigin, .usdc, some amount, none⟩)

def exampleBridge (amount : String) : Node :=
  exampleNode "bridge-1" 200 "Bridge"
    (.action (.bridge ⟨exampleGoal, amount, some exampleOrigin, some .usdc⟩) ⟨none, none⟩)

def exampleCall (amount : String) : Node :=
  exampleNode "execute-1" 350 "Execute"
    (.action (.call ⟨.stake, amount, some exampleGoal, some .usdc, none, none⟩) ⟨none, none⟩)

def exampleFinish (height : Nat) (amount description : String) : Node :=
  exampleNode "end-1" height "End"
    (.finish ⟨some exampleGoal, some .usdc, some amount, some description⟩)

def bridgeAndStake (now : Int) : Template where
  id := "example-bridge-stake"
  name := "Bridge & Stake on Aave"
  description := "Bridge USDC from Base to Ethereum and stake on Aave"
  nodes := [exampleStart "100", exampleBridge "100", exampleCall "100",
    exampleFinish 500 "100" "Earning yield on Aave"]
  edges := [exampleEdge "start-1" "bridge-1" "e1-2", exampleEdge "bridge-1" "execute-1" "e2-3",
    exampleEdge "execute-1" "end-1" "e3-4"]
  created := now
  updated := now
  tags := some ["bridge", "stake", "aave"]

def simpleBridge (now : Int) : Template where
  id := "example-simple-bridge"
  name := "Simple Bridge"
  description := "Bridge USDC from Base Sepolia to Ethereum Sepolia"
  nodes := [exampleStart "50", exampleBridge "50",
    exampleFinish 350 "50" "Bridged successfully"]
  edges := [exampleEdge "start-1" "bridge-1" "e1-2", exampleEdge "bridge-1" "end-1" "e2-3"]
  created := now
  updated := now
  tags := some ["bridge", "simple"]

def examples (now : Int) : List Template := [bridgeAndStake now, simpleBridge now]

end ChainFlow.Template
