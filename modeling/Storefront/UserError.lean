import Storefront.Shop

/-! # What a rejected request reports

A rejected request is answered with a list of user errors: the field, a message, and a code drawn
for each. -/

namespace Storefront.Shop

/-- A user error; its code is drawn unless it is given. -/
def userError (field message code : Value) : Act Shop Value := do
  let code ← if code.isNull then Value.int <$> supplied (Supply.draw 10000 20000) else pure code
  return .ofFields [("code", code), ("field", field), ("message", message)]

/-- The user error of one reason for a rejection: a record says itself which field and what is wrong
with it, anything else is a field that is missing. -/
def failureError (failure : Value) : Act Shop Value := do
  match failure with
  | .record _ =>
    userError (← failure.memberOr "field" "unknown") (← failure.memberOr "message" "Unknown") .null
  -- What handlers miss is a field of theirs, whose name is a text.
  | field => userError field ("Field " ++ field.display ++ " is mandatory") .null

/-- The user errors that a fault is reported with. -/
def faultErrors (fault : Fault) : Act Shop (List Value) := do
  if fault.isRejection then fault.failures.mapM failureError
  else return [← userError "unknown" fault.message .null]

end Storefront.Shop
