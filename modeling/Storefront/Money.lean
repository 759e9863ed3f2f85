import Storefront.Decimal.Fixed
import Storefront.Value.Access

/-! # Amounts of money

An amount is shown with two decimal places, but zero with one. -/

namespace Storefront

/-- An amount of money as it is shown. -/
structure Money where
  amount : String
  currency : String
  deriving DecidableEq, Repr

namespace Money

/-- How zero is shown. -/
def zeroText : String := "0.0"

/-- An amount as it is shown. -/
def amountText (x : Float) : String := if x == 0 then zeroText else Decimal.fixed 2 x

/-- A number as an amount; any falsy value stands for zero. -/
def amountOf (v : Value) : Except Fault String :=
  if v.truthy then return Decimal.fixed 2 (← v.number) else .ok zeroText

/-- No money. -/
def zero (currency : String) : Money := ⟨zeroText, currency⟩

/-- An amount in a currency. -/
def of (x : Float) (currency : String) : Money := ⟨amountText x, currency⟩

/-- The record of an amount and its currency. -/
def record (amount : String) (currency : Value) : Value :=
  .ofFields [("amount", amount), ("currencyCode", currency)]

/-- Money as a record. -/
def toValue (m : Money) : Value := record m.amount m.currency

/-- The record of a number as an amount in a currency. -/
def priceRecord (amount currency : Value) : Except Fault Value :=
  return record (← amountOf amount) currency

end Money
end Storefront
