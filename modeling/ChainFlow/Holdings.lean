import ChainFlow.Flow.Performing
import ChainFlow.Text.Case

/-!
# Holdings

What a user holds of each token on all chains together, from the assets that a backend reports. A
statement of the holdings is kept for a while and given again until it is too old. Numbers that
cannot be read count as zero.
-/

namespace ChainFlow

structure ChainHolding where
  chain : ChainId
  chainName : String
  balance : Decimal
  fiat : Decimal

structure Holding where
  symbol : String
  balance : Decimal
  fiat : Decimal
  chains : List ChainHolding

/-- Everything that a user holds, the most valuable first. -/
structure Holdings where
  user : Option String
  fiat : Decimal
  tokens : List Holding
  /-- When the backend was asked, in whole seconds from the epoch, parts of a second left out. -/
  taken : Int

inductive Statement where
  /-- `kept` says that they were not asked for anew. -/
  | holds (holdings : Holdings) (kept : Bool)
  | unavailable (user : Option String) (error : String)

namespace ChainHolding

/-- A number from text; what is none counts as zero. -/
def number (text : String) : Decimal := (Decimal.ofString? text).getD (.ofNat 0)

def fiatNumber (value : Option Binary64) : Decimal :=
  match value with
  | none => .ofNat 0
  | some value => number (String.ofList value.text)

def ofShare (share : ChainShare) : ChainHolding where
  chain := share.chain
  chainName := (FusedReceipt.stated share.chainName).getD (ChainId.name share.chain)
  balance := number share.balance
  fiat := fiatNumber share.fiat

def dump (holding : ChainHolding) : Json := .obj [
  ("chain_id", .int holding.chain), ("chain_name", .str holding.chainName),
  ("balance", .str holding.balance.toText), ("fiat_value", .str holding.fiat.toText)]

end ChainHolding

namespace Holding

def ofAsset (asset : Asset) : Holding where
  symbol := asset.symbol
  balance := ChainHolding.number asset.balance
  fiat := ChainHolding.fiatNumber asset.fiat
  chains := asset.shares.map ChainHolding.ofShare

def dump (holding : Holding) : Json := .obj [
  ("symbol", .str holding.symbol), ("total_balance", .str holding.balance.toText),
  ("total_fiat_value", .str holding.fiat.toText),
  ("chains", .arr (holding.chains.map ChainHolding.dump))]

end Holding

namespace Holdings

def sum : Decimal → List Decimal → Except Fault Decimal
  | total, [] => .ok total
  | total, value :: rest =>
    match total.add value with
    | .ok total => sum total rest
    | .error signal => .error (.arithmetic signal)

/-- Whether the first of two holdings is worth at least as much as the second. -/
def isWorth (a b : Holding) : Bool := !((a.fiat.lt? b.fiat).getD false)

/-- Holdings by their worth, the highest first and equal ones as they came. What is not a number has
no place among others. -/
def ranked (tokens : List Holding) : Except Fault (List Holding) :=
  if 2 ≤ tokens.length ∧ tokens.any fun token => (token.fiat.lt? token.fiat).isNone then
    .error (.arithmetic .invalid)
  else .ok (tokens.mergeSort isWorth)

def ofAssets (user : Option String) (now : Int) (assets : List Asset) : Except Fault Holdings := do
  let tokens := assets.map Holding.ofAsset
  let fiat ← sum (.ofNat 0) (tokens.map (·.fiat))
  return ⟨user, fiat, ← ranked tokens, now.tdiv 1000⟩

/-- Whether holdings are too old to be given again, with a lifetime in milliseconds. -/
def isStale (holdings : Holdings) (lifetime now : Int) : Bool :=
  lifetime < now - 1000 * holdings.taken

/-- The holding of a token, by its symbol in any case. -/
def token? (holdings : Holdings) (symbol : String) : Option Holding :=
  holdings.tokens.find? fun token => Text.upper token.symbol == Text.upper symbol

def addTo (chain : ChainId) (fiat : Decimal) :
    List (ChainId × Decimal) → Except Fault (List (ChainId × Decimal))
  | [] => (sum (.ofNat 0) [fiat]).map fun total => [(chain, total)]
  | (other, total) :: rest =>
    if other = chain then (sum total [fiat]).map fun total => (chain, total) :: rest
    else (addTo chain fiat rest).map ((other, total) :: ·)

/-- The worth of some holdings on each chain, beside what is known already. -/
def addAll : List (ChainId × Decimal) → List ChainHolding → Except Fault (List (ChainId × Decimal))
  | known, [] => .ok known
  | known, holding :: rest =>
    match addTo holding.chain holding.fiat known with
    | .ok known => addAll known rest
    | .error fault => .error fault

def byChain (holdings : Holdings) : Except Fault (List (ChainId × Decimal)) :=
  addAll [] (holdings.tokens.flatMap (·.chains))

end Holdings

namespace Statement

def dump : Statement → Json
  | holds holdings kept => .obj [
      ("success", .bool true), ("account_address", .ofString? holdings.user),
      ("total_fiat_value", .str holdings.fiat.toText),
      ("tokens", .arr (holdings.tokens.map Holding.dump)), ("cached", .bool kept),
      ("timestamp", .int holdings.taken), ("error", .null)]
  | unavailable user error => .obj [
      ("success", .bool false), ("account_address", .ofString? user),
      ("total_fiat_value", .str "0"), ("tokens", .arr []), ("cached", .bool false),
      ("timestamp", .int 0), ("error", .str error)]

def holdings? : Statement → Option Holdings
  | holds holdings _ => some holdings
  | unavailable .. => none

def token? (statement : Statement) (symbol : String) : Option Holding :=
  statement.holdings?.bind (·.token? symbol)

def byChain (statement : Statement) : Except Fault (List (ChainId × Decimal)) :=
  match statement.holdings? with
  | some holdings => holdings.byChain
  | none => .ok []

end Statement

namespace Engine

variable {σ : Type}

def askHoldings (engine : Engine σ) : Act σ Statement := do
  let user : Option String ← fun world =>
    .ok (engine.backend.bind (·.user world.backend)) world
  match ← Act.attempt engine.assets with
  | .ok assets => return .holds (← Act.ofExcept (Holdings.ofAssets user (← Act.now) assets)) false
  | .error fault => return .unavailable user fault.message

/-- The holdings of the user: those that are kept, if `fresh` is not asked for and they are not too
old, else those that the backend reports now. With them come the holdings to keep from now on; they
stay as they are when the backend cannot be asked. -/
def holdings (engine : Engine σ) (lifetime : Int) (fresh : Bool) (kept : Option Holdings)
    (world : World σ) : Except Fault Statement × Option Holdings × World σ :=
  let kept := if fresh then kept else kept.filter fun held => !held.isStale lifetime world.clock
  match kept, fresh with
  | some held, false => (.ok (.holds held true), kept, world)
  | _, _ =>
    match engine.askHoldings.runIn world with
    | (.ok (.holds held again), world) => (.ok (.holds held again), some held, world)
    | (answer, world) => (answer, kept, world)

/-- The holding of a token, none where the user has none of it or nothing is known. -/
def holding (engine : Engine σ) (lifetime : Int) (symbol : String) (kept : Option Holdings)
    (world : World σ) : Except Fault (Option Holding) × Option Holdings × World σ :=
  let (statement, kept, world) := engine.holdings lifetime false kept world
  (statement.map (·.token? symbol), kept, world)

/-- The worth of what is held on each chain; no chain is there where nothing is known. -/
def worthByChain (engine : Engine σ) (lifetime : Int) (kept : Option Holdings) (world : World σ) :
    Except Fault (List (ChainId × Decimal)) × Option Holdings × World σ :=
  let (statement, kept, world) := engine.holdings lifetime false kept world
  (statement.bind (·.byChain), kept, world)

end Engine

end ChainFlow
