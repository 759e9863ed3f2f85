import Storefront.Shop.Catalogue
import Storefront.Shop.Connections
import Storefront.Shop.Plans

/-! # Selling plan groups of a shop

Groups are kept without what they are related to.  Their plans, products and variants are joined to
them whenever they are read, together with the numbers of the latter two. -/

namespace Storefront.Shop

/-- The relation of a group to its plans. -/
def planRelation : Key := .text "sellingPlans"

/-- The relation of a group to its products. -/
def productRelation : Key := .text "products"

/-- The relation of a group to its variants. -/
def variantRelation : Key := .text "variants"

/-- An entity as a value, null where there is none. -/
def shown (e : Option Entity) : Value := Value.ofOption (e.map (·.toValue))

/-- A kept group together with what it is related to. -/
def joined (id : Key) : Act Shop Value := do
  match ← find? Gid.groupPrefix id with
  | none => throw .shape
  | some entity =>
    let fields ← entity.toValue.toRecord
    let owner ← id.toValue.asText
    let plans ← (← connections owner planRelation).mapM fun k => shown <$> plan? k.toValue
    let products ← (← connections owner productRelation).mapM fun k => shown <$> product k true
    let variants ← (← connections owner variantRelation).mapM fun k => shown <$> variant k true
    return (((((Value.record fields).put "sellingPlans" (.list plans)).put
      "products" (.list products)).put "productCount" (.int products.length)).put
      "productVariants" (.list variants)).put "productVariantCount" (.int variants.length)

/-- The identifier of a known group. -/
def groupId (id : Value) : Act Shop Key := do
  let id ← Gid.decodeValue id
  if !id.truthy then throw .unknownId
  let key ← id.asKey
  if ← has Gid.groupPrefix key then return key else throw .unknownId

/-- Several values, or one record that stands for itself. -/
def severalOf (v : Value) : Except Fault (List Value) :=
  match v with
  | .record fields => if fields.isEmpty then .ok [] else .ok [.record fields]
  | v => v.elementsOrNone

/-- The group that options describe. -/
def groupOf (options : Value) (id now : String) : Except Fault SellingPlanGroup := do
  return { id, createdAt := now, updatedAt := now
           appId := ← options.member "appId"
           description := ← options.member "description"
           merchantCode := ← options.member "merchantCode"
           name := ← options.member "name"
           options := (← options.member "options").orElse (.list [])
           position := ← options.member "position"
           summary := ← options.member "summary" }

/-- Makes a plan of the group. -/
def addPlan (owner : String) (options : Value) : Act Shop Unit := do
  let plan ← createPlan options .null
  discard <| connect owner (.text plan.id) planRelation

/-- Takes a plan out of the group and deletes it. -/
def dropPlan (owner : String) (plan : Value) : Act Shop Unit := do
  let id ← Gid.decodeValue (← if plan.isRecord then liftM (plan.item "id") else pure plan)
  discard <| deletePlan id
  discard <| disconnect owner (← id.asKey) planRelation

/-- Changes a plan and takes it into the group, if there is such a plan. -/
def changePlan (owner : String) (options : Value) : Act Shop Unit := do
  let id ← Gid.decodeValue (← options.member "id")
  match ← updatePlan id options with
  | some _ => discard <| connect owner (← id.asKey) planRelation
  | none => pure ()

/-- Makes a group, with the plans to be made, deleted and changed.  A group without a required
member is rejected, with all that are missing. -/
def createGroup (options given : Value) : Act Shop Value := do
  let now ← timestamp
  let draft ← groupOf options "" now
  let missing := [("name", draft.name), ("merchantCode", draft.merchantCode)].filter (!·.2.truthy)
  if !missing.isEmpty then throw (.rejected (missing.map fun (name, _) => .text name))
  let id ← givenOrFreshId given Gid.groupPrefix
  discard <| Gid.encodeText id
  -- From here on the group is known, whatever becomes of its plans.
  keep Gid.groupPrefix (.text id) (.group { draft with id })
  (← severalOf (← options.member "sellingPlansToCreate")).forM (addPlan id)
  (← severalOf (← options.member "sellingPlansToDelete")).forM (dropPlan id)
  (← severalOf (← options.member "sellingPlansToUpdate")).forM (changePlan id)
  joined (.text id)

/-- A group with what it is related to. -/
def group (id : Value) : Act Shop Value := do joined (← groupId id)

/-- Links a group to entities under a relation, one after the other. -/
def relate (relation : Key) (id ids : Value) : Act Shop Value := do
  let key ← groupId id
  let owner ← key.toValue.asText
  (← ids.elementsOrNone).forM fun v => do
    discard <| connect owner (← (← Gid.decodeValue v).asKey) relation
  joined key

/-- Attaches products to a group. -/
def addProducts (id ids : Value) : Act Shop Value := relate productRelation id ids

/-- Attaches variants to a group. -/
def addVariants (id ids : Value) : Act Shop Value := relate variantRelation id ids

/-- Deletes a group; the answer is whether there was one. -/
def deleteGroup (id : Value) : Act Shop Bool := do erase Gid.groupPrefix (← groupId id)

/-- The place in a list of a number that may be counted from its end. -/
def place (length : Nat) (n : Int) : Nat :=
  if n < 0 then (n + length).toNat else min n.toNat length

/-- The items of a list from one place up to another, both counted from the end if negative. -/
def between {α : Type} (start stop : Int) (items : List α) : List α :=
  let first := place items.length start
  (items.take (place items.length stop)).drop first

/-- A value that serves as a place in a list. -/
def asPlace : Value → Except Fault Int
  | .int n => .ok n
  | .bool b => .ok (if b then 1 else 0)
  | _ => .error .shape

/-- A page of a list: `limit` items from `start` on, or all items if there is no limit. -/
def page {α : Type} (start limit : Value) (items : List α) : Except Fault (List α) := do
  -- Without a limit the start does not count either.
  if !limit.truthy then return items
  let start ← asPlace start
  let limit ← asPlace limit
  return between start (start + limit) items

/-- A page of all groups, each with what it is related to. -/
def groups (start limit : Value) : Act Shop (List Value) := do
  let all := (← get).store.all (.text Gid.groupPrefix)
  (← page start limit all).mapM fun e => do
    joined (← (← Gid.decodeValue (← (shown e).item "id")).asKey)

end Storefront.Shop
