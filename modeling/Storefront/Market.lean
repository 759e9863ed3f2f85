import Storefront.Value.Access

/-! # Markets

A market is a country with its currency, its rate of value-added tax and the factor by which prices
are adjusted.  A country without a market is served by the default one. -/

namespace Storefront

/-- The terms of one country. -/
structure Market where
  /-- The rate of value-added tax. -/
  vat : Float
  currency : String
  /-- The factor by which a catalogue price is adjusted. -/
  adjustment : Float

namespace Market

/-- The country whose market serves all countries without one. -/
def home : String := "IE"

/-- The terms of the home market. -/
def homeTerms : Market := ⟨0.22, "EUR", 1.0⟩

/-- The markets by country code. -/
def table : List (Key × Market) :=
  [(.text "AU", ⟨0.10, "AUD", 1.10⟩),
    (.text "CH", ⟨0.077, "CHF", 1.077⟩),
    (.text "CN", ⟨0.13, "CNY", 1.13⟩),
    (.text "DE", ⟨0.19, "EUR", 1.19⟩),
    (.text "FR", ⟨0.20, "EUR", 1.20⟩),
    (.text home, homeTerms),
    (.text "GB", ⟨0.23, "GBP", 1.23⟩),
    (.text "JP", ⟨0.10, "JPY", 1.10⟩),
    (.text "NZ", ⟨0.15, "NZD", 1.15⟩),
    (.text "SG", ⟨0.07, "SGD", 1.07⟩),
    (.text "ZA", ⟨0.15, "ZAR", 1.15⟩)]

/-- Whether a country has a market of its own. -/
def hasKey (country : Key) : Bool := Assoc.has table country

/-- Whether a country has a market of its own. -/
def has (country : Value) : Except Fault Bool := return hasKey (← country.asKey)

/-- The market that serves a country. -/
def ofKey (country : Key) : Market := (Assoc.get? table country).getD homeTerms

/-- The market that serves a country. -/
def serving (country : Value) : Except Fault Market := return ofKey (← country.asKey)

/-- The market that serves a country when another than the home market is the default. -/
def servingOr (default country : Value) : Except Fault Market := do
  let country ← country.asKey
  let default ← default.asKey
  match Assoc.get? table default with
  | none => throw (.missingKey default)
  | some m => return (Assoc.get? table country).getD m

/-- A catalogue price as the market asks it. -/
def priceOf (m : Market) (price : Value) : Except Fault Float :=
  return (← price.number) * m.adjustment

/-- A market as a record. -/
def toValue (m : Market) : Value :=
  .ofFields [("vat", .float m.vat), ("currency", m.currency),
    ("price_adjustment", .float m.adjustment)]

end Market
end Storefront
