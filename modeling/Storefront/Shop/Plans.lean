import Storefront.Shop

/-! # Selling plans of a shop

Making, finding, changing and deleting selling plans. -/

namespace Storefront.Shop

/-- The identifier that is given, raw, or a new one of a kind. -/
def givenOrFreshId (given : Value) (start : String) : Act Shop String := do
  let id ← Gid.decodeValue given
  if id.truthy then id.asText else freshId start

/-- Makes a plan with the terms among the given options. -/
def createPlan (options given : Value) : Act Shop SellingPlan := do
  let id ← givenOrFreshId given Gid.planPrefix
  discard <| Gid.encodeText id
  let now ← timestamp
  let plan : SellingPlan :=
    { id, createdAt := now, updatedAt := now, terms := ← SellingPlan.termsOf options }
  keep Gid.planPrefix (.text id) (.plan plan)
  return plan

/-- The plan under an identifier. -/
def plan? (id : Value) : Act Shop (Option Entity) := do
  find? Gid.planPrefix (← (← Gid.decodeValue id).asKey)

/-- The plan with those of its terms changed that are among the given options. -/
def changedPlan (entity : Entity) (options : Value) (now : String) : Except Fault Entity :=
  match entity with
  | .plan p => do
    let terms := SellingPlan.withTerms p.terms (← options.asRecord)
    return .plan { p with terms, updatedAt := now }
  | e => do
    let fields ← e.toValue.toRecord
    let fields := SellingPlan.withTerms fields (← options.asRecord)
    return .record ((Value.record fields).put "updatedAt" now)

/-- Changes the terms of a plan that are among the given options, if there is such a plan. -/
def updatePlan (id options : Value) : Act Shop (Option Entity) := do
  let key ← (← Gid.decodeValue id).asKey
  match ← find? Gid.planPrefix key with
  | none => return none
  | some entity =>
    if !entity.toValue.truthy then return none
    let changed ← changedPlan entity options (← timestamp)
    keep Gid.planPrefix key changed
    return some changed

/-- Deletes a plan; the answer is whether there was one. -/
def deletePlan (id : Value) : Act Shop Bool := do
  erase Gid.planPrefix (← (← Gid.decodeValue id).asKey)

end Storefront.Shop
