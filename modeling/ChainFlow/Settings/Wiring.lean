import ChainFlow.Gateway.Session
import ChainFlow.Settings.Basic

/-!
# What settings wire up

The gateway, the vaults and the engine that settings describe. Times are configured in seconds and
counted in milliseconds, a fraction of a millisecond dropped.
-/

namespace ChainFlow.Settings

variable {σ : Type}

def milliseconds (seconds : Binary64) : Int := (seconds.scale 1000).truncate?.getD 0

def gatewayConfig (settings : Settings) : GatewayConfig :=
  ⟨settings.gatewayUrl, settings.apiKey, settings.network⟩

def vaults (settings : Settings) : Except Fault Vaults := Vaults.ofTable settings.contracts

def engine (settings : Settings) (backend : Option (Backend σ)) (draw : Nat → Binary64) :
    Except Fault (Engine σ) :=
  settings.vaults.map fun vaults => {
    backend
    vaults
    bridgeCost := settings.bridgeCost
    latency := milliseconds settings.latency
    explorer := some settings.explorer
    draw }

def delay (settings : Settings) : Int := milliseconds settings.stepDelay

end ChainFlow.Settings
