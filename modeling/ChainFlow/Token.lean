/-!
# Tokens

The tokens that a flow can carry, and how many decimal places their base units have. A symbol that
is none of them is taken to have eighteen.
-/

namespace ChainFlow

inductive Token where
  | eth
  | usdc
  | usdt
  deriving DecidableEq, Repr

namespace Token

def symbol : Token → String
  | eth => "ETH"
  | usdc => "USDC"
  | usdt => "USDT"

def symbols : List String := [eth.symbol, usdc.symbol, usdt.symbol]

def ofSymbol? : String → Option Token
  | "ETH" => some eth
  | "USDC" => some usdc
  | "USDT" => some usdt
  | _ => none

/-- The decimal places of a token's base unit. -/
def places : Token → Nat
  | eth => 18
  | usdc => 6
  | usdt => 6

/-- The decimal places of the base unit of whatever a symbol names. -/
def placesOf (symbol : String) : Nat :=
  match ofSymbol? symbol with
  | some token => token.places
  | none => 18

theorem ofSymbol?_symbol (token : Token) : ofSymbol? token.symbol = some token := by
  cases token <;> rfl

end Token

end ChainFlow
