import Augr.Foundation.Text

/-! Names shared by the packages of the application. -/

set_option autoImplicit false

namespace Augr.Domain

open Foundation

inductive MarketType where
  | stock
  | crypto
  | polymarket
  | kalshi
  | options
  | unrecognized (text : String)
  deriving DecidableEq

def MarketType.text : MarketType → String
  | .stock => "stock"
  | .crypto => "crypto"
  | .polymarket => "polymarket"
  | .kalshi => "kalshi"
  | .options => "options"
  | .unrecognized text => text

def MarketType.ofText (text : String) : MarketType :=
  if text = "stock" then .stock
  else if text = "crypto" then .crypto
  else if text = "polymarket" then .polymarket
  else if text = "kalshi" then .kalshi
  else if text = "options" then .options
  else .unrecognized text

def MarketType.normalize : MarketType → MarketType
  | .unrecognized text => .ofText (Text.toLower (Text.trimSpace text))
  | known => known

inductive PipelineSignal where
  | buy
  | sell
  | hold
  | unrecognized (text : String)
  deriving DecidableEq

inductive OrderSide where
  | buy
  | sell
  | unrecognized (text : String)
  deriving DecidableEq

def OrderSide.text : OrderSide → String
  | .buy => "buy"
  | .sell => "sell"
  | .unrecognized text => text

def strategyStatusActive : String := "active"

end Augr.Domain
