import Storefront.Proofs.CatalogueNames
import Storefront.Proofs.GroupMaking
import Storefront.Proofs.InShop

/-! # Making pre-order groups

A service makes a pre-order group by three requests: one for the group and its plan, one for its
products and one for its variants.  If the shop does not run out of identifiers, and the one that it
hands out for the group is not in use, the group is then read with the name, the merchant, the plan,
the products and the variants that were asked for.  Only identifiers that are whole numbers with too
many digits to be written make the call fail, and then the group is there all the same.

* `PreOrder` : options that describe a pre-order group
* `Ware` : what is attached to a group, products and variants alike
* `createGroup_shows` : what is read of the group that was made
* `createGroup_may_not_show` : a group that is read with more, and one that is made by a
  failed call -/

namespace Storefront

open Act (Within Carries)
open Shop

/-! ### What is asked for -/

namespace Shop

variable {input : Value} {name merchant : String} {plan : List (Key × Value)}

/-- A description has members, so it is something to send. -/
theorem Describes.truthy (h : Describes input name merchant plan) : input.truthy = true := by
  obtain ⟨fields, rfl⟩ := h.isRecord
  have named := h.member_name
  cases fields with
  | nil => cases named
  | cons _ _ => rfl

/-- More members may be put into a description. -/
theorem Describes.put (h : Describes input name merchant plan) {other : String}
    (hother : other ∉ ["name", "merchantCode", "options", "sellingPlansToCreate",
      "sellingPlansToDelete", "sellingPlansToUpdate"]) (v : Value) :
    Describes (input.put other v) name merchant plan := by
  obtain ⟨fields, rfl⟩ := h.isRecord
  -- Whatever is put under another name leaves the members that a description is made of.
  have same : ∀ member, other ≠ member →
      ((Value.record fields).put other v).member member = (Value.record fields).member member := by
    intro member hne
    have differs : (Key.text member == Key.text other) = false := by simpa using hne.symm
    simp [Value.put, Assoc.get?_put_of_ne _ differs]
  simp only [List.mem_cons, List.not_mem_nil, or_false, not_or] at hother
  obtain ⟨hname, hmerchant, hoptions, hmade, hdropped, hchanged⟩ := hother
  exact {
    h with
    isRecord := ⟨_, rfl⟩
    member_name := (same _ hname).trans h.member_name
    member_merchantCode := (same _ hmerchant).trans h.member_merchantCode
    member_options := (same _ hoptions).trans h.member_options
    member_plans := (same _ hmade).trans h.member_plans
    member_dropped := (same _ hdropped).trans h.member_dropped
    member_changed := (same _ hchanged).trans h.member_changed }

end Shop

namespace Service

/-- The member is a list, or there is none. -/
def Lists (options : Value) (name : String) (items : List Value) : Prop :=
  options.member name = .ok (.list items) ∨ options.member name = .ok .null ∧ items = []

/-- The options describe a pre-order group of a merchant, with products and variants. -/
structure PreOrder (options : Value) (name merchant : String) (products variants : List Value) :
    Prop where
  isRecord : ∃ fields, options = .record fields
  member_name : options.member "name" = .ok (.text name)
  name_ne : name ≠ ""
  code : ∃ code, options.member "merchantCode" = .ok code ∧ (code.orElse "").written = .ok merchant
  merchant_ne : merchant ≠ ""
  position : ∃ p, options.member "position" = .ok p ∧ (p = .null ∨ ∃ n, p = .int n)
  products : Lists options "productIds" products
  variants : Lists options "productVariantIds" variants

/-- The description of a group without what is optional. -/
def draftOf (name merchant : String) (plan : List (Key × Value)) : Value :=
  .ofFields [("name", name), ("merchantCode", merchant),
    ("options", .texts [Text.capitalise merchant]), ("sellingPlansToCreate", .list [.record plan])]

/-- The options are turned into a description with a plan. -/
theorem PreOrder.exists_input {options : Value} {name merchant : String}
    {products variants : List Value} (h : PreOrder options name merchant products variants) :
    ∃ input plan, groupInput options = .ok input ∧ planOf options = .ok (.record plan) ∧
      Describes input name merchant plan := by
  obtain ⟨fields, rfl⟩ := h.isRecord
  obtain ⟨code, hcode, hmerchant⟩ := h.code
  obtain ⟨p, hp, position⟩ := h.position
  obtain ⟨plan, hplan⟩ : ∃ plan, planOf (.record fields) = .ok (.record plan) := ⟨_, rfl⟩
  obtain ⟨d, hd⟩ : ∃ d, (Value.record fields).member "description" = .ok d := ⟨_, rfl⟩
  have base : Describes (draftOf name merchant plan) name merchant plan :=
    ⟨⟨_, rfl⟩, rfl, h.name_ne, rfl, h.merchant_ne, rfl, rfl, rfl, rfl⟩
  have described : Describes (if d.truthy then (draftOf name merchant plan).put "description" d
      else draftOf name merchant plan) name merchant plan := by
    split
    · exact base.put (by decide) _
    · exact base
  -- What is optional is put into the draft, which describes the group already.
  have input : groupInput (.record fields) =
      let group := if d.truthy then (draftOf name merchant plan).put "description" d
        else draftOf name merchant plan
      if p.isNull then .ok group else do return group.put "position" (.int (← p.wholeNumber)) := by
    unfold groupInput
    rw [hcode, hd, hp, h.member_name, hplan]
    dsimp only [bind, Except.bind]
    rw [hmerchant]
    rfl
  rcases position with rfl | ⟨n, rfl⟩
  · exact ⟨_, plan, input, hplan, described⟩
  · exact ⟨_, plan, input, hplan, described.put (by decide) _⟩

end Service

/-! ### Asking for a group -/

namespace Service

/-- A mutation of groups that answers with a group. -/
def askForGroup (o : Operation) (vars : Value) : Act Service Value := do
  let payload ← askFor (o.document "") vars o.root
  memberOfAnswer payload "sellingPlanGroup"

section

variable {hasFactory : Bool}

/-- To collect errors leaves the router. -/
theorem collect_carries (errors : List Value) :
    Within (Carries fun v : Service => v.client.network.InShop hasFactory) (collect errors) :=
  fun _ h => h

/-- To write to the log leaves the router. -/
theorem record_carries (severity : Severity) (message : String) (details : List (String × Value)) :
    Within (Carries fun v : Service => v.client.network.InShop hasFactory)
      (inNetwork (Network.record severity message details)) :=
  fun _ h => ⟨h.route, h.router, h.reached⟩

/-- A question for a group goes on to ask the router. -/
theorem askFor_carries {document : String} (hne : document ≠ "") (vars : Value) (field : String) :
    Within (Carries fun v : Service => v.client.network.InShop hasFactory)
      (askFor document vars field) := by
  -- Whether there is an answer or a report, it only leads to errors and notes.
  refine .bind (fun _ h => h) fun _ => .bind (ask_carries hne _) fun data => ?_
  split
  · exact .bind .get fun _ => .bind (collect_carries _) fun _ => .pure _
  · refine .bind (.lift _) fun payload => ?_
    split
    · exact .bind (collect_carries _) fun _ => .pure _
    · dsimp only
      split
      · exact .bind (.lift _) fun _ => .bind (collect_carries _) fun _ =>
          .bind (record_carries _ _ _) fun _ => .pure _
      · exact .pure _

/-- So does a mutation of groups. -/
theorem askForGroup_carries (o : Operation) (vars : Value) :
    Within (Carries fun v : Service => v.client.network.InShop hasFactory) (askForGroup o vars) :=
  .bind (askFor_carries (o.isFor_document "").ne_empty _ _) fun _ => .lift _

end

section

variable {hasFactory : Bool} {v : Service} (hv : v.InProcess hasFactory) {o : Operation}
  {vars : List (String × Value)} {shop : Shop}

include hv

/-- The group that is answered, with no errors. -/
theorem on_askForGroup_answered (hroot : o.root ≠ "errors" ∧ o.root ≠ "userErrors") {group : Value}
    (handled : Act.on (Router.ownHandler (factoryOf hasFactory) o (o.document "") (.ofFields vars))
      v.client.network.shop =
        (.ok (Answer.groupPayload o "sellingPlanGroup" (.ok group)), shop)) : ∃ v',
    Act.on (askForGroup o (.ofFields vars)) v = (.ok group, v') ∧ v.Left v' shop [] := by
  obtain ⟨v', asked, left⟩ := on_askFor_answered hv (o.isFor_document "") hroot.1 hroot.2 handled
    rfl rfl
  exact ⟨v', (Act.on_bind_of_ok asked).trans rfl, left⟩

/-- No group is answered for lack of identifiers. -/
theorem on_askForGroup_exhausted
    (handled : Act.on (Router.ownHandler (factoryOf hasFactory) o (o.document "") (.ofFields vars))
      v.client.network.shop = (.error .exhausted, shop)) : ∃ v',
    Act.on (askForGroup o (.ofFields vars)) v = (.ok .null, v') ∧
      v.Left v' shop [.text Fault.exhausted.message] := by
  obtain ⟨v', asked, left⟩ := on_askFor_exhausted hv (o.isFor_document "") o.root handled
  exact ⟨v', (Act.on_bind_of_ok asked).trans rfl, left⟩

end

end Service

/-! ### Products and variants alike -/

/-- What is attached to a group. -/
inductive Ware where
  | product
  | variant

namespace Ware

/-- The relation of a group to wares of the kind. -/
def relation : Ware → Key
  | product => productRelation
  | variant => variantRelation

/-- What the identifiers of wares of the kind start with. -/
def start : Ware → String
  | product => Gid.productPrefix
  | variant => Gid.variantPrefix

/-- The operation that attaches wares of the kind. -/
def operation : Ware → Operation
  | product => .groupAddProducts
  | variant => .groupAddProductVariants

/-- The name of the identifiers among the variables of the operation and among options. -/
def listName : Ware → String
  | product => "productIds"
  | variant => "productVariantIds"

/-- Attaches wares through a service. -/
def attach : Ware → (groupId ids : Value) → Act Service Value
  | product => Service.addProducts
  | variant => Service.addProductVariants

/-- The raw identifiers of wares of the kind, each once. -/
def named (w : Ware) (ids : List Value) : List String :=
  (ids.map fun v => Gid.normalise w.start v.display).eraseDups

/-- Identifiers are normalised one by one, unless one of them cannot be written. -/
theorem normalisedIds_list (start : String) (ids : List Value) :
    Service.normalisedIds start (.list ids) =
      if Value.allWritable ids then
        .ok ((ids.map fun v => Gid.normalise start v.display).map .text)
      else .error (.value .unwritable) := by
  rw [Service.normalisedIds, Value.elements_list, Value.ok_bind, Value.mapM_written]
  split
  · rw [Value.ok_bind, List.map_map, List.map_map]
    rfl
  · rfl

/-- Attaching wares is one mutation of groups. -/
theorem attach_eq (w : Ware) (groupId ids : Value) : w.attach groupId ids = (do
    Service.askForGroup w.operation (.ofFields [("id", groupId),
      (w.listName, .list (← Service.normalisedIds w.start ids))])) := by
  cases w <;> rfl

/-- The handlers for products and variants differ in nothing but names. -/
theorem ownHandler_eq (w : Ware) (factory : Option Factory) (document : String) (vars : Value) :
    Router.ownHandler factory w.operation document vars = (do
      let id ← Gid.decodeValue (← vars.member "id")
      let ids := (← vars.member w.listName).orElse (.list [])
      return Answer.groupPayload w.operation "sellingPlanGroup"
        (← Answer.orErrors (relate w.relation id ids))) := by
  cases w <;> rfl

/-- Wares are linked under another relation than plans. -/
theorem relation_ne (w : Ware) : (planRelation == w.relation) = false := by
  cases w <;> decide

/-- The identifiers of wares are raw. -/
theorem isRaw_normalise (w : Ware) (id : String) :
    Gid.isRaw (Gid.normalise w.start id) = true := by
  unfold Gid.normalise
  split
  · assumption
  · cases w
    · exact Gid.isRaw_kindPrefix_append "Product" id
    · exact Gid.isRaw_kindPrefix_append "ProductVariant" id

/-- So are the identifiers that are attached. -/
theorem isRaw_of_mem_named (w : Ware) {ids : List Value} {id : String} (h : id ∈ w.named ids) :
    Gid.isRaw id = true := by
  obtain ⟨given, -, rfl⟩ := List.mem_map.1 (List.mem_eraseDups.1 h)
  exact w.isRaw_normalise _

/-- The member of a group that lists its wares. -/
def shownName : Ware → String
  | product => "products"
  | variant => "productVariants"

/-- The member of a group that counts its wares. -/
def countName : Ware → String
  | product => "productCount"
  | variant => "productVariantCount"

/-- A group shows the wares that have the identifiers, in this order, and their number. -/
def ShownIn (w : Ware) (group : Value) (ids : List String) : Prop :=
  ∃ items, group.get? w.shownName = some (.list items) ∧
    items.map (·.get? "id") = ids.map (fun id => some (.text id)) ∧
    group.get? w.countName = some (.int items.length)

/-- A ware that is known shows its identifier. -/
theorem get?_id (w : Ware) {s : Shop} (howned : s.Owned) (hnamed : s.NamesCatalogue) {id : String}
    (hid : id ≠ "") (known : (s.entity? w.start (.text id)).isSome = true) :
    (shown (s.entity? w.start (.text id))).get? "id" = some (.text id) := by
  obtain ⟨e, he⟩ := Option.isSome_iff_exists.1 known
  have id_eq : e.toValue.get? "id" = some (.text id) := by
    have isOf := howned _ _ _ he
    cases w with
    | product =>
      obtain ⟨p, rfl, -⟩ := Entity.Fit.exists_product ⟨isOf, False.elim⟩
      exact congrArg some (hnamed.products id p he)
    | variant =>
      -- The record under an identifier is of the kind, and made up under it.
      obtain ⟨v, rfl, -⟩ := Entity.Fit.exists_variant ⟨isOf, False.elim⟩
      exact congrArg some (hnamed.variants id v hid he)
  rw [he]
  exact id_eq

/-- The wares that an owner is linked to show the identifiers that it is linked to. -/
theorem ids_shown (w : Ware) {s : Shop} (howned : s.Owned) (hnamed : s.NamesCatalogue)
    {owner : String}
    (stocks : s.Stocks owner) {ids : List String} (hids : ∀ id ∈ ids, id ≠ "")
    (keys : Assoc.keys (s.members owner w.relation) = ids.map .text) :
    (ids.map fun id => shown (s.entity? w.start (.text id))).map (·.get? "id") =
      ids.map fun id => some (.text id) := by
  rw [List.map_map]
  refine List.map_congr_left fun id hid => ?_
  have linked : Key.text id ∈ Assoc.keys (s.members owner w.relation) :=
    keys ▸ List.mem_map.2 ⟨id, hid, rfl⟩
  -- What an owner is linked to is known, as it was made up when the owner was read.
  refine w.get?_id howned hnamed (hids id hid) ?_
  cases w with
  | product => exact stocks.products _ linked
  | variant => exact stocks.variants _ linked

end Ware

/-- The handler makes the group that it is given. -/
theorem Answer.on_groupCreate {input : Value} (truthy : input.truthy = true)
    (factory : Option Factory) (document : String) (s : Shop) :
    Act.on (Router.ownHandler factory .groupCreate document (.ofFields [("input", input)])) s =
      Act.on (do
        return groupPayload .groupCreate "sellingPlanGroup"
          (← orErrors (Shop.createGroup input .null))) s := by
  have member : (Value.ofFields [("input", input)]).member "input" = .ok input := rfl
  have given : input.orElse (.record []) = input := if_pos truthy
  show Act.on (groupCreate _) s = _
  rw [groupCreate, member, Act.on_bind_of_ok (Act.on_lift _ s)]
  dsimp only
  rw [given]

/-! ### Making a group -/

namespace Shop

/-- To link nothing changes no links. -/
theorem relinked_nil {links : Key → List String} {r : String} (h : links (.text r) = []) :
    relinked links (.text r) [] = links := by
  funext other
  unfold relinked
  split
  · rename_i same
    rw [Key.text_beq_iff.1 (BEq.symm same), h]
  · rfl

end Shop

namespace Service

/-- A group is made with a plan and links; nothing that was kept before has changed, and no error
was collected. -/
structure Making (hasFactory : Bool) (shop : Shop) (g : SellingPlanGroup) (plan : SellingPlan)
    (links : Key → List String) (v : Service) : Prop extends v.InProcess hasFactory where
  made : v.client.network.shop.Made g plan links
  stocks : v.client.network.shop.Stocks g.id
  others : KeepsOthers g.id plan.id shop v.client.network.shop
  errors : v.errors = []

/-- The call answers with nothing for lack of identifiers, which no endless shop has. -/
structure RanOut (x : Act Service Value) (v : Service) : Prop where
  finite : ¬ v.client.network.shop.Endless
  answers : ∃ v', Act.on x v = (.ok .null, v') ∧ v'.errors = [.text Fault.exhausted.message]

/-- What is left to do runs out of identifiers. -/
theorem RanOut.of_later {x x₁ : Act Service Value} {v v₁ : Service} (h : RanOut x₁ v₁)
    (same : Act.on x v = Act.on x₁ v₁)
    (lasts : v.client.network.shop.Endless → v₁.client.network.shop.Endless) : RanOut x v :=
  ⟨h.finite ∘ lasts, same ▸ h.answers⟩

end Service

namespace Ware

open Service

/-- Attaches the wares that options list, if there are any, before what follows. -/
def before (w : Ware) (options id : Value) (next : Act Service Value) : Act Service Value := do
  let ids ← options.member w.listName
  if ids.truthy then
    if !(← w.attach id ids).truthy then return .null
  next

/-- Nothing is attached if no wares are listed. -/
theorem on_before_unlisted (w : Ware) {options items : Value}
    (listed : options.member w.listName = .ok items) (falsy : items.truthy = false) (id : Value)
    (next : Act Service Value) (v : Service) :
    Act.on (w.before options id next) v = Act.on next v := by
  rw [before, listed, Act.on_bind_of_ok (Act.on_lift _ v)]
  dsimp only
  rw [if_neg (by simp [falsy])]

/-- The call fails where a ware is listed whose identifier cannot be written. -/
theorem on_before_unwritable (w : Ware) {options : Value} {ids : List Value}
    (listed : Lists options w.listName ids) (unwritable : Value.allWritable ids = false)
    (id : Value) (next : Act Service Value) (v : Service) :
    Act.on (w.before options id next) v = (.error (.value .unwritable), v) := by
  -- There is a list, and it is not empty, or all of it could be written.
  obtain ⟨hids, truthy⟩ : options.member w.listName = .ok (.list ids) ∧
      (Value.list ids).truthy = true := by
    rcases listed with listed | ⟨-, rfl⟩
    · refine ⟨listed, ?_⟩
      cases ids with
      | nil => cases unwritable
      | cons _ _ => rfl
    · cases unwritable
  -- All identifiers are normalised before anything is asked.
  have refused : Act.on (w.attach id (.list ids)) v = (.error (.value .unwritable), v) := by
    rw [attach_eq, normalisedIds_list, if_neg (by simp [unwritable])]
    rfl
  rw [before, hids, Act.on_bind_of_ok (Act.on_lift _ v)]
  dsimp only
  rw [if_pos truthy, Act.on_bind_of_error refused]

variable {hasFactory : Bool} {shop : Shop} {g : SellingPlanGroup} {plan : SellingPlan}
  {links : Key → List String} {v : Service} (w : Ware)
  (h : Making hasFactory shop g plan links v) (none : links w.relation = [])

include h none

/-- Wares are attached to the group, or it is answered with nothing for lack of identifiers. -/
theorem on_attach {ids : List Value} (writable : Value.allWritable ids = true) :
    RanOut (w.attach (.text (Gid.encode g.id)) (.list ids)) v ∨ ∃ shown v', shown.truthy = true ∧
      Act.on (w.attach (.text (Gid.encode g.id)) (.list ids)) v = (.ok shown, v') ∧
      Making hasFactory shop g plan (relinked links w.relation (w.named ids)) v' := by
  -- What is sent are the raw identifiers of the wares.
  obtain ⟨raw, hraw⟩ : ∃ raw, raw = ids.map fun v => Gid.normalise w.start v.display := ⟨_, rfl⟩
  have isRaw : ∀ id ∈ raw, Gid.decode id = id := by
    rw [hraw]
    exact List.forall_mem_map.2 fun id _ => Gid.decode_of_isRaw (w.isRaw_normalise _)
  have normalised : normalisedIds w.start (.list ids) = .ok (raw.map .text) := by
    rw [normalisedIds_list, if_pos writable, hraw]
  have given : (Value.list (raw.map .text)).orElse (.list []) = .list (raw.map .text) := by
    cases raw <;> rfl
  obtain ⟨vars, hvars⟩ : ∃ vars, vars = [("id", Value.text (Gid.encode g.id)),
      (w.listName, .list (raw.map .text))] := ⟨_, rfl⟩
  have asked : Act.on (w.attach (.text (Gid.encode g.id)) (.list ids)) v =
      Act.on (askForGroup w.operation (.ofFields vars)) v := by
    rw [attach_eq, normalised, Act.on_bind_of_ok (Act.on_lift _ v), hvars]
  -- The identifier of the group is sent in its code, and decoded by the handler.
  have handler : Act.on (Router.ownHandler (factoryOf hasFactory) w.operation
      (w.operation.document "") (.ofFields vars)) v.client.network.shop = Act.on (do
        return Answer.groupPayload w.operation "sellingPlanGroup"
          (← Answer.orErrors (relate w.relation (.text g.id) (.list (raw.map .text)))))
        v.client.network.shop := by
    have member_id : (Value.ofFields vars).member "id" = .ok (.text (Gid.encode g.id)) := by
      rw [hvars]
      rfl
    have member_ids : (Value.ofFields vars).member w.listName = .ok (.list (raw.map .text)) := by
      rw [hvars]
      cases w <;> rfl
    rw [ownHandler_eq, member_id, Act.on_bind_of_ok (Act.on_lift _ _),
      h.made.named.decodeValue_encode, Act.on_bind_of_ok (Act.on_lift _ _), member_ids,
      Act.on_bind_of_ok (Act.on_lift _ _), given]
  have root : w.operation.root ≠ "errors" ∧ w.operation.root ≠ "userErrors" := by
    cases w <;> decide
  rw [asked]
  -- The links are made, and then the group is read, for which identifiers may run out.
  obtain ⟨finite, s', exhausted⟩ | ⟨s', related, made, stocks, others⟩ :=
    relate_made h.made w.relation_ne none isRaw
  · rw [Act.on_bind_of_error (Answer.orErrors_exhausted exhausted)] at handler
    obtain ⟨v', ran, left⟩ := on_askForGroup_exhausted h.toInProcess handler
    exact .inl ⟨finite, v', asked ▸ ran, left.errors⟩
  · rw [Act.on_bind_of_ok (Answer.orErrors_ok related)] at handler
    obtain ⟨v', attached, left⟩ := on_askForGroup_answered h.toInProcess root handler
    have shop := left.moved.shop
    refine .inr ⟨_, v', made.readable.shownGroup_shape.1, attached, {
      left.inProcess h.toInProcess with
      made := by rw [shop, named, ← hraw]; exact made
      stocks := by rw [shop]; exact stocks
      others := by rw [shop]; exact h.others.trans others
      errors := left.errors }⟩

/-- The wares that are listed are attached before what follows. -/
theorem on_before {options : Value} {ids : List Value} (listed : Lists options w.listName ids)
    (writable : Value.allWritable ids = true) (next : Act Service Value) :
    RanOut (w.before options (.text (Gid.encode g.id)) next) v ∨
      ∃ v', Making hasFactory shop g plan (relinked links w.relation (w.named ids)) v' ∧
        Act.on (w.before options (.text (Gid.encode g.id)) next) v = Act.on next v' := by
  -- If no wares are listed, nothing is asked, and nothing changes.
  have unlisted : ids = [] → Making hasFactory shop g plan
      (relinked links w.relation (w.named ids)) v := by
    rintro rfl
    have same : relinked links w.relation [] = links := by
      cases w <;> exact relinked_nil none
    rw [show w.named [] = [] from rfl, same]
    exact h
  -- Wares are listed if there is a list with an item.
  obtain ⟨items, hitems, truthy | falsy⟩ : ∃ items, options.member w.listName = .ok items ∧
      (items = .list ids ∧ items.truthy = true ∨ items.truthy = false ∧ ids = []) := by
    rcases listed with listed | ⟨listed, rfl⟩
    · refine ⟨_, listed, ?_⟩
      cases ids <;> simp
    · exact ⟨_, listed, by simp⟩
  · obtain ⟨rfl, truthy⟩ := truthy
    have attaches : Act.on (w.before options (.text (Gid.encode g.id)) next) v = Act.on (do
        if !(← w.attach (.text (Gid.encode g.id)) (.list ids)).truthy then return .null
        else next) v := by
      rw [before, hitems, Act.on_bind_of_ok (Act.on_lift _ v)]
      dsimp only
      rw [if_pos truthy]
    obtain ⟨finite, v', ran, errors⟩ | ⟨shown, v', something, attached, making⟩ :=
      w.on_attach h none writable
    · exact .inl ⟨finite, v', by rw [attaches, Act.on_bind_of_ok ran]; rfl, errors⟩
    · exact .inr ⟨v', making, by rw [attaches, Act.on_bind_of_ok attached, something]; rfl⟩
  · exact .inr ⟨v, unlisted falsy.2, w.on_before_unlisted hitems falsy.1 _ _ _⟩

end Ware

namespace Service

/-- Making a group is asking for it, and then attaching its wares. -/
theorem createGroup_eq (options : Value) : createGroup options = (do
    let group ← askForGroup .groupCreate (.ofFields [("input", ← groupInput options)])
    if !group.truthy then return .null
    let id ← group.item "id"
    Ware.product.before options id (Ware.variant.before options id (return id))) := by
  simp only [askForGroup, bind_assoc]
  rfl

variable {hasFactory : Bool}

/-- All of the requests that make a group go on to ask the router. -/
theorem createGroup_carries (options : Value) :
    Within (Carries fun v : Service => v.client.network.InShop hasFactory)
      (createGroup options) := by
  -- Wares are attached by a mutation, or there are none.
  have before : ∀ (w : Ware) (id : Value) {next : Act Service Value},
      Within (Carries fun v : Service => v.client.network.InShop hasFactory) next →
      Within (Carries fun v : Service => v.client.network.InShop hasFactory)
        (w.before options id next) := by
    intro w id next later
    refine .bind (.lift _) fun ids => ?_
    dsimp only
    split
    · rw [Ware.attach_eq]
      refine .bind (.bind (.lift _) fun _ => askForGroup_carries _ _) fun _ => ?_
      split
      · exact .pure _
      · exact later
    · exact later
  rw [createGroup_eq]
  refine .bind (.lift _) fun _ => .bind (askForGroup_carries _ _) fun group => ?_
  split
  · exact .pure _
  · exact .bind (.lift _) fun id => before _ _ (before _ _ (.pure _))

/-- Once the group is made, its wares are attached. -/
theorem on_created {v : Service} (inProcess : v.InProcess hasFactory) {options input : Value}
    (hinput : groupInput options = .ok input) (truthy : input.truthy = true) {group id : Value}
    {shop : Shop}
    (created : Act.on (Shop.createGroup input .null) v.client.network.shop = (.ok group, shop))
    (something : group.truthy = true) (item : group.item "id" = .ok id) : ∃ v',
    v.Left v' shop [] ∧ Act.on (createGroup options) v =
      Act.on (Ware.product.before options id (Ware.variant.before options id (pure id))) v' := by
  -- The handler answers the group that was created.
  have handler := Answer.on_groupCreate truthy (factoryOf hasFactory)
    (Operation.groupCreate.document "") v.client.network.shop
  rw [Act.on_bind_of_ok (Answer.orErrors_ok created)] at handler
  obtain ⟨v', answered, left⟩ := on_askForGroup_answered inProcess (by decide) handler
  refine ⟨v', left, ?_⟩
  rw [createGroup_eq, hinput, Act.on_bind_of_ok (Act.on_lift _ v), Act.on_bind_of_ok answered,
    something, item]
  rfl

/-- Where identifiers run out while the group is made, the call answers with nothing. -/
theorem createGroup_ranOut {v : Service} (inProcess : v.InProcess hasFactory)
    {options input : Value} (hinput : groupInput options = .ok input)
    (truthy : input.truthy = true) {shop : Shop} (finite : ¬ v.client.network.shop.Endless)
    (exhausted : Act.on (Shop.createGroup input .null) v.client.network.shop =
      (.error .exhausted, shop)) : RanOut (createGroup options) v := by
  have handler := Answer.on_groupCreate truthy (factoryOf hasFactory)
    (Operation.groupCreate.document "") v.client.network.shop
  rw [Act.on_bind_of_error (Answer.orErrors_exhausted exhausted)] at handler
  obtain ⟨v', ran, left⟩ := on_askForGroup_exhausted inProcess handler
  refine ⟨finite, v', ?_, left.errors⟩
  rw [createGroup_eq, hinput, Act.on_bind_of_ok (Act.on_lift _ v), Act.on_bind_of_ok ran]
  rfl

/-- A call that has made a group goes on to attach its products, then its variants; each may be the
first that cannot be written. -/
theorem Making.on_wares {v v₁ : Service} {call : Act Service Value} {g : SellingPlanGroup}
    {plan : SellingPlan} {options : Value} {products variants : List Value}
    (making : Making hasFactory v.client.network.shop g plan (onlyPlan plan) v₁)
    (attaches : Act.on call v = Act.on (Ware.product.before options (.text (Gid.encode g.id))
      (Ware.variant.before options (.text (Gid.encode g.id)) (pure (.text (Gid.encode g.id))))) v₁)
    (hproducts : Lists options "productIds" products)
    (hvariants : Lists options "productVariantIds" variants) :
    RanOut call v ∨ ∃ links v', Making hasFactory v.client.network.shop g plan links v' ∧
      if Value.allWritable (products ++ variants) then
        Act.on call v = (.ok (.text (Gid.encode g.id)), v') ∧
        links = relinked (relinked (onlyPlan plan) productRelation (Ware.product.named products))
          variantRelation (Ware.variant.named variants)
      else Act.on call v = (.error (.value .unwritable), v') := by
  rw [Value.allWritable_append]
  cases hp : Value.allWritable products with
  | false =>
    exact .inr ⟨_, v₁, making,
      attaches.trans (Ware.product.on_before_unwritable hproducts hp _ _ v₁)⟩
  | true =>
    obtain ran | ⟨v₂, making₂, attached₂⟩ := Ware.product.on_before making rfl hproducts hp
      (Ware.variant.before options (.text (Gid.encode g.id)) (pure (.text (Gid.encode g.id))))
    · exact .inl (ran.of_later attaches making.others.lasts)
    have later := attaches.trans attached₂
    cases hv : Value.allWritable variants with
    | false =>
      exact .inr ⟨_, v₂, making₂,
        later.trans (Ware.variant.on_before_unwritable hvariants hv _ _ v₂)⟩
    | true =>
      obtain ran | ⟨v', making', attached⟩ := Ware.variant.on_before making₂ rfl hvariants hv
        (pure (.text (Gid.encode g.id)))
      · exact .inl (ran.of_later later making₂.others.lasts)
      · exact .inr ⟨_, v', making', later.trans attached, rfl⟩

/-- A group as options describe it, with one plan. -/
structure Described (order : Value) (name merchant : String) (g : SellingPlanGroup)
    (plan : SellingPlan) (asked : List (Key × Value)) : Prop where
  spelt : ∃ t, g.id = Gid.groupPrefix ++ t
  name : g.name = .text name
  merchantCode : g.merchantCode = .text merchant
  options : g.options = .texts [Text.capitalise merchant]
  planOf : planOf order = .ok (.record asked)
  follows : Shop.Follows plan asked

/-- A pre-order group is made of options, or it is answered with nothing for lack of identifiers;
then the shop was not endless.  The wares are attached after that: where the identifier of one
cannot be written, the call fails with the group made. -/
theorem on_createGroup {v : Service} {options : Value} {name merchant : String}
    {products variants : List Value} (hv : v.client.network.InShop hasFactory)
    (hs : v.client.network.shop.Spells) (hunused : v.client.network.shop.NextUnused)
    (h : PreOrder options name merchant products variants) :
    RanOut (createGroup options) v ∨ ∃ g plan asked links v',
      Making hasFactory v.client.network.shop g plan links v' ∧
      v.client.network.shop.Unused g.id ∧ Described options name merchant g plan asked ∧
      if Value.allWritable (products ++ variants) then
        Act.on (createGroup options) v = (.ok (.text (Gid.encode g.id)), v') ∧
        links = relinked (relinked (onlyPlan plan) productRelation (Ware.product.named products))
          variantRelation (Ware.variant.named variants)
      else Act.on (createGroup options) v = (.error (.value .unwritable), v') := by
  obtain ⟨input, asked, hinput, hplan, describes⟩ := h.exists_input
  have inProcess : v.InProcess hasFactory := ⟨hv.route, hv.router⟩
  -- The group is made with its plan, or identifiers run out.
  obtain ⟨finite, s', exhausted⟩ | ⟨s', g, plan, created, made, others, unused, spelt,
      hname, hmerchant, hoptions, follows⟩ :=
    createGroup_made hv.reached.kept.owned hs hunused describes
  · exact .inl (createGroup_ranOut inProcess hinput describes.truthy finite exhausted)
  -- The identifier of the group is read from the answer, in its code.
  have item : (s'.shownGroup g.id).item "id" = .ok (.text (Gid.encode g.id)) := by
    rw [made.shownGroup_eq]
    rfl
  obtain ⟨v', left, attaches⟩ :=
    on_created inProcess hinput describes.truthy created made.readable.shownGroup_shape.1 item
  have shop := left.moved.shop
  have making : Making hasFactory v.client.network.shop g plan (onlyPlan plan) v' := {
    left.inProcess inProcess with
    made := by rw [shop]; exact made
    stocks := by rw [shop]; exact made.stocks
    others := by rw [shop]; exact others
    errors := left.errors }
  have described : Described options name merchant g plan asked :=
    ⟨spelt, hname, hmerchant, hoptions, hplan, follows⟩
  -- What is left of the call is to attach what the options list.
  obtain ran | ⟨links, v₂, making₂, attached⟩ := making.on_wares attaches h.products h.variants
  · exact .inl ran
  · exact .inr ⟨g, plan, asked, links, v₂, making₂, unused, described, attached⟩

/-- A group is shown as options describe it: with the one plan that charges a deposit, and with the
products and variants that they list, each once. -/
structure Offers (shown asked : Value) (name merchant : String) (products variants : List Value) :
    Prop where
  name : shown.get? "name" = some (.text name)
  merchantCode : shown.get? "merchantCode" = some (.text merchant)
  options : shown.get? "options" = some (.texts [Text.capitalise merchant])
  plan : ∃ plan draft, shown.get? "sellingPlans" = some (.list [plan]) ∧
    plan.get? "category" = some (.text "PRE_ORDER") ∧ planOf asked = .ok draft ∧
    ∀ term ∈ SellingPlan.termNames, ∃ v, draft.member term = .ok v ∧ plan.get? term = some v
  products : Ware.product.ShownIn shown (Ware.product.named products)
  variants : Ware.variant.ShownIn shown (Ware.variant.named variants)

/-- The group is read as options describe it, and nothing else that was kept about groups has
changed: another group shows what it showed before, unless a plan was kept under the identifier of
the new one. -/
structure Placed (shop : Shop) (id : String) (asked : Value) (name merchant : String)
    (products variants : List Value) (v : Service) : Prop where
  unused : shop.Unused id
  errors : v.errors = []
  read : ∀ sent, Sends id sent → ∃ shown v', Act.on (Service.group (.text sent)) v =
    (.ok shown, v') ∧
    v'.errors = [] ∧ v'.client.network.shop = v.client.network.shop ∧
    Offers shown asked name merchant products variants
  others : ∃ plan, KeepsOthers id plan shop v.client.network.shop ∧ ∀ other, other ≠ id →
    shop.Readable other → shop.Stocks other → .text plan ∉ shop.linkedPlans other →
    v.client.network.shop.shownGroup other = shop.shownGroup other

/-- A pre-order group that is made is read as its options describe it, if the identifier that it
gets is not in use and those of its wares can be written. -/
theorem createGroup_shows {v : Service} {options : Value} {name merchant : String}
    {products variants : List Value} (hv : v.client.network.InShop hasFactory)
    (hs : v.client.network.shop.Spells) (hunused : v.client.network.shop.NextUnused)
    (h : PreOrder options name merchant products variants)
    (hw : Value.allWritable (products ++ variants) = true) :
    RanOut (createGroup options) v ∨ ∃ t v',
      Act.on (createGroup options) v = (.ok (.text (Gid.encode (Gid.groupPrefix ++ t))), v') ∧
      v'.Placed v.client.network.shop (Gid.groupPrefix ++ t) options name merchant
        products variants := by
  obtain ran | ⟨g, plan, asked, links, v', making, unused, described, called⟩ :=
    on_createGroup hv hs hunused h
  · exact .inl ran
  -- All identifiers can be written, so nothing stops the call but a lack of identifiers.
  obtain ⟨created, rfl⟩ := if_pos hw ▸ called
  obtain ⟨⟨t, spelt⟩, hname, hmerchant, hoptions, hasked, follows⟩ := described
  have reached : Reachable v'.client.network.shop :=
    ((createGroup_carries options).of_on created hv).reached
  refine .inr ⟨t, v', by rw [← spelt]; exact created, ?_⟩
  rw [← spelt]
  refine ⟨unused, making.errors, fun sent hsent => ?_, plan.id, making.others,
    fun other hother readable stocks unlinked =>
      making.others.shownGroup_eq readable stocks hother unlinked⟩
  -- The group is read again with what was made up for it, so that nothing is drawn.
  obtain ⟨v'', read, left⟩ := on_group_again making.made.readable hsent making.toInProcess
    making.stocks
  refine ⟨_, v'', read, left.errors, left.moved.shop, ?_⟩
  rw [making.made.shownGroup_eq]
  -- Wares are shown under the identifiers that they are linked by.
  have ids : ∀ (w : Ware) (given : List Value),
      Assoc.keys (v'.client.network.shop.members g.id w.relation) = (w.named given).map .text →
      _ := fun w given keys => w.ids_shown making.made.owned reached.namesCatalogue making.stocks
        (fun _ hid => Gid.ne_empty_of_isRaw (w.isRaw_of_mem_named hid)) keys
  exact {
    name := congrArg some hname
    merchantCode := congrArg some hmerchant
    options := congrArg some hoptions
    plan := ⟨plan.toValue, .record asked, rfl, rfl, hasked, fun term hterm =>
      follows.get?_term hterm⟩
    products := ⟨_, rfl, ids .product products (making.made.keys _), rfl⟩
    variants := ⟨_, rfl, ids .variant variants (making.made.keys _), rfl⟩ }

/-- Where the identifier of a ware has too many digits to be written, the call fails, but the group
has been made by then. -/
theorem createGroup_unwritable {v : Service} {options : Value} {name merchant : String}
    {products variants : List Value} (hv : v.client.network.InShop hasFactory)
    (hs : v.client.network.shop.Spells) (hunused : v.client.network.shop.NextUnused)
    (h : PreOrder options name merchant products variants)
    (hw : Value.allWritable (products ++ variants) = false) :
    RanOut (createGroup options) v ∨ ∃ g plan links v',
      Act.on (createGroup options) v = (.error (.value .unwritable), v') ∧
      Making hasFactory v.client.network.shop g plan links v' ∧ g.name = .text name := by
  obtain ran | ⟨g, plan, asked, links, v', making, -, described, called⟩ :=
    on_createGroup hv hs hunused h
  · exact .inl ran
  · rw [hw] at called
    exact .inr ⟨g, plan, links, v', called, making, described.name⟩

/-! ### Samples -/

/-- Options of a group that charges a fifth at the checkout. -/
def preOrderOptions (products variants : List Value) : Value :=
  .ofFields [("name", "Pre-order"), ("merchantCode", "pre-order"), ("deposit", .int 20),
    ("productIds", .list products), ("productVariantIds", .list variants)]

/-- The options of the samples describe a pre-order group. -/
theorem preOrder_options (products variants : List Value) :
    PreOrder (preOrderOptions products variants) "Pre-order" "pre-order" products variants where
  isRecord := ⟨_, rfl⟩
  member_name := rfl
  name_ne := by decide
  code := ⟨_, rfl, rfl⟩
  merchant_ne := by decide
  position := ⟨_, rfl, .inl rfl⟩
  products := .inl rfl
  variants := .inl rfl

/-- A new shop has nothing under any identifier. -/
theorem nextUnused_new (context : Context) (supply : Supply) :
    (Shop.new context supply).NextUnused := fun _ _ _ => ⟨rfl, fun _ => rfl⟩

/-- A group with a product that is listed twice, in two forms, and a variant. -/
theorem createGroup_shows_sample : ∃ v : Service, v.client.network.InShop true ∧
    v.client.network.shop.Spells ∧ v.client.network.shop.NextUnused ∧
    PreOrder (preOrderOptions [.int 1, "gid://shopify/Product/1"] ["7"]) "Pre-order" "pre-order"
      [.int 1, "gid://shopify/Product/1"] ["7"] ∧
    Value.allWritable [.int 1, "gid://shopify/Product/1", "7"] = true ∧
    ∃ t v', Act.on (createGroup (preOrderOptions [.int 1, "gid://shopify/Product/1"] ["7"])) v =
        (.ok (.text (Gid.encode (Gid.groupPrefix ++ t))), v') ∧
      v'.Placed v.client.network.shop (Gid.groupPrefix ++ t)
        (preOrderOptions [.int 1, "gid://shopify/Product/1"] ["7"]) "Pre-order" "pre-order"
        [.int 1, "gid://shopify/Product/1"] ["7"] := by
  -- The shop is new, so nothing is used and everything that is kept can be spelled.
  have inShop : (overRoute .inProcess (.new default (.fresh 0 0 []))).client.network.InShop true :=
    ⟨rfl, rfl, .new _ _⟩
  have spells : (Shop.new default (.fresh 0 0 [])).Spells := nofun
  have asked := preOrder_options [.int 1, "gid://shopify/Product/1"] ["7"]
  have writable : Value.allWritable [.int 1, "gid://shopify/Product/1", "7"] = true := by
    decide +kernel
  exact ⟨_, inShop, spells, nextUnused_new _ _, asked, writable,
    (createGroup_shows inShop spells (nextUnused_new _ _) asked writable).resolve_left
      fun ran => ran.finite (endless_new default 0 0)⟩

/-- The identifier of the group that `leftoverShop` had. -/
def leftoverGroup : String := Gid.groupPrefix ++ "SellingPlanGroup-1"

/-- A shop that had a group with a product, under an identifier that is still to be handed out. -/
def leftoverShop : Shop :=
  [SideRequest.createGroup (.ofFields [("name", "Old"), ("merchantCode", "old")]) leftoverGroup,
    .relate productRelation leftoverGroup (.texts ["gid://shopify/Product/1"]),
    .deleteGroup leftoverGroup].foldl (fun s r => (Act.on (ShopRequest.side r).run s).2)
      (.new default (.fresh 0 0 []))

/-- The shop with the leftover is reached by three requests. -/
theorem reachable_leftoverShop : Reachable leftoverShop :=
  (((Reachable.new default (.fresh 0 0 [])).request (.side _)).request (.side _)).request (.side _)

/-- A value is told by its key. -/
theorem eq_of_toKey? {found : Option Value} {k : Key} (h : found.bind Value.toKey? = some k) :
    found = some k.toValue := by
  rcases found with - | v
  · cases h
  · cases v <;> cases h <;> rfl

/-- A test that passes was made on a result. -/
theorem exists_of_any {α : Type} {e : Except Fault α} {p : α → Bool} (h : e.toOption.any p = true) :
    ∃ a, e = .ok a ∧ p a = true := by
  cases e with
  | error f => cases h
  | ok a => exact ⟨a, rfl, h⟩

/-- What is sent to make a group without products and variants. -/
def bareInput : Value := (groupInput (preOrderOptions [] [])).toOption.getD .null

/-- The answer to a request for such a group. -/
def leftoverAnswer : Except Fault Value × Shop :=
  Act.on (Shop.createGroup bareInput .null) leftoverShop

/-- A whole number with one digit more than can be written. -/
def longNumber : Int := (Nat.pow 10 Decimal.digitLimit : Nat)

/-- The number is one digit too long. -/
theorem isWritable_longNumber : (Value.int longNumber).isWritable = false := by
  rw [Value.isWritable, Decimal.isWritable, longNumber, Int.natAbs_natCast]
  exact decide_eq_false (Nat.lt_irrefl _)

/-- The group that is made of these options gets the identifier of the leftover, and is read with
its product. -/
theorem leftover_shown : ∃ v v' : Service, v.client.network.InShop true ∧
    v.client.network.shop.Spells ∧
    PreOrder (preOrderOptions [] []) "Pre-order" "pre-order" [] [] ∧
    Act.on (createGroup (preOrderOptions [] [])) v =
      (.ok (.text (Gid.encode leftoverGroup)), v') ∧ v'.errors = [] ∧
    ∃ shown v'', Act.on (Service.group (.text leftoverGroup)) v' = (.ok shown, v'') ∧
      shown.get? "productCount" = some (.int 1) ∧
      ¬ Offers shown (preOrderOptions [] []) "Pre-order" "pre-order" [] [] := by
  have input : groupInput (preOrderOptions [] []) = .ok bareInput := rfl
  have named : NamesGroup leftoverGroup := namesGroup_new (by decide)
  have checked : leftoverAnswer.1.toOption.any (fun group => group.truthy &&
      (group.item "id").toOption.bind Value.toKey? =
        some (.text (Gid.encode leftoverGroup))) = true := by
    decide +kernel
  have rechecked : (Act.on (Shop.group leftoverGroup) leftoverAnswer.2).1.toOption.any
    (fun shown => shown.truthy && (shown.get? "userErrors").isNone &&
      (shown.get? "productCount").bind Value.toKey? = some (.int 1)) = true := by
    decide +kernel
  have spells : leftoverShop.Spells := by
    have none : leftoverShop.supply.tokens = [] := by decide +kernel
    rw [Spells, none]
    nofun
  -- What is computed here is what the requests answer; the theorems say what follows from it.
  have created : Act.on (Shop.createGroup bareInput .null) leftoverShop = leftoverAnswer := rfl
  have sent : bareInput.truthy = true := rfl
  have reached := reachable_leftoverShop
  generalize leftoverAnswer = answer at checked rechecked created
  generalize leftoverShop = s at created reached spells
  generalize bareInput = bare at input created sent
  obtain ⟨outcome, s'⟩ := answer
  obtain ⟨group, answered, made⟩ := exists_of_any checked
  obtain rfl : outcome = .ok group := answered
  obtain ⟨shown, read, found⟩ := exists_of_any rechecked
  simp only [Bool.and_eq_true, decide_eq_true_eq, Option.isNone_iff_eq_none] at made found
  obtain ⟨something, id⟩ := made
  obtain ⟨⟨truthy, plain⟩, count⟩ := found
  have item : group.item "id" = .ok (.text (Gid.encode leftoverGroup)) :=
    ServiceCall.eq_ok_of_toOption (eq_of_toKey? id)
  -- No products or variants are listed, so that nothing is attached.
  obtain ⟨v', left, attaches⟩ := on_created (v := overRoute .inProcess s) ⟨rfl, rfl⟩ input
    sent created something item
  rw [Ware.product.on_before_unlisted rfl rfl, Ware.variant.on_before_unlisted rfl rfl]
    at attaches
  obtain ⟨v'', reads, -⟩ := on_group_answered named (.inl rfl) (left.inProcess ⟨rfl, rfl⟩)
    (by rw [left.moved.shop]; exact Prod.ext read rfl) truthy (by rw [plain]; rfl)
  refine ⟨_, v', ⟨rfl, rfl, reached⟩, spells, preOrder_options [] [], attaches,
    left.errors, shown, v'', reads, eq_of_toKey? count, fun offers => ?_⟩
  obtain ⟨items, -, none, counted⟩ := offers.products
  obtain rfl : items = [] := List.map_eq_nil_iff.1 none
  cases counted.symm.trans (eq_of_toKey? count)

/-- A product whose number is too long stops the call in a new shop, where the group has been
made. -/
theorem longNumber_refused : ∃ v v' : Service, v.client.network.InShop true ∧
    v.client.network.shop.Spells ∧ v.client.network.shop.NextUnused ∧
    v.client.network.shop.Endless ∧
    PreOrder (preOrderOptions [.int longNumber] []) "Pre-order" "pre-order" [.int longNumber] [] ∧
    Act.on (createGroup (preOrderOptions [.int longNumber] [])) v =
      (.error (.value .unwritable), v') ∧
    ∃ g plan links, Making true v.client.network.shop g plan links v' ∧
      g.name = .text "Pre-order" := by
  have spells : (Shop.new default (.fresh 0 0 [])).Spells := nofun
  have asked := preOrder_options [.int longNumber] []
  have unwritable : Value.allWritable [.int longNumber] = false := by
    rw [Value.allWritable, isWritable_longNumber, Bool.false_and]
  have endless := endless_new default 0 0
  obtain ran | ⟨g, plan, links, v', failed, making, name⟩ := createGroup_unwritable
    (v := overRoute .inProcess (.new default (.fresh 0 0 []))) ⟨rfl, rfl, .new _ _⟩ spells
    (nextUnused_new _ _) asked unwritable
  · exact absurd endless ran.finite
  · exact ⟨_, v', ⟨rfl, rfl, .new _ _⟩, spells, nextUnused_new _ _, endless, asked,
      failed, g, plan, links, making, name⟩

/-- A group that gets the identifier of a deleted one is read with the products of that one; and
where a product has a number that is too long, the call fails though the group has been made. -/
theorem createGroup_may_not_show :
    (∃ v v' : Service, v.client.network.InShop true ∧ v.client.network.shop.Spells ∧
      PreOrder (preOrderOptions [] []) "Pre-order" "pre-order" [] [] ∧
      Act.on (createGroup (preOrderOptions [] [])) v =
        (.ok (.text (Gid.encode leftoverGroup)), v') ∧ v'.errors = [] ∧
      ∃ shown v'', Act.on (Service.group (.text leftoverGroup)) v' = (.ok shown, v'') ∧
        shown.get? "productCount" = some (.int 1) ∧
        ¬ Offers shown (preOrderOptions [] []) "Pre-order" "pre-order" [] []) ∧
    ∃ v v' : Service, v.client.network.InShop true ∧ v.client.network.shop.Spells ∧
      v.client.network.shop.NextUnused ∧ v.client.network.shop.Endless ∧
      PreOrder (preOrderOptions [.int longNumber] []) "Pre-order" "pre-order" [.int longNumber] [] ∧
      Act.on (createGroup (preOrderOptions [.int longNumber] [])) v =
        (.error (.value .unwritable), v') ∧
      ∃ g plan links, Making true v.client.network.shop g plan links v' ∧
        g.name = .text "Pre-order" :=
  ⟨leftover_shown, longNumber_refused⟩

end Service
end Storefront
