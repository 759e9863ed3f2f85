import Storefront.Proofs.ServiceCalls

/-! # The same shop over either way

A call with clean arguments does the same in process as over a server.  What makes the difference is
only what the server does not show: the members of records whose names start with a certain mark.

* `ServiceCall.run_interchangeable` : calls with clean arguments answer the same over either way
* `ServiceCall.hidden_member_lost` : a hidden member is lost over the server -/

namespace Storefront
open Text (Sendable)
open Shop

/-! ### Answers -/

namespace Router

/-- What the handler of an operation answers is what the router answers to a document for it. -/
theorem on_dispatch_answered {factory : Option Factory} {o : Operation} {document : String}
    (hd : o.IsFor document) {fields : List (Key × Value)} {v : Value} {s s' : Shop}
    (h : Act.on (ownHandler factory o document (.record fields)) s = (.ok v, s'))
    (hv : v.isNull = false) :
    Act.on ((standard factory).dispatch (some document) (.record fields)) s =
      (.ok (some v), s') := by
  have given := Value.orElse_record fields
  rw [on_dispatch_isFor factory hd given, given, h]
  simp [answerOf, hv]

end Router

namespace Answer

/-- An action that succeeds has no errors to report. -/
theorem orErrors_ok {act : Act Shop Value} {v : Value} {s s' : Shop}
    (h : Act.on act s = (.ok v, s')) : Act.on (orErrors act) s = (.ok (.ok v), s') := by
  rw [orErrors, Act.on_tryCatch, Act.on_map, h]
  rfl

/-- A group that is found is answered. -/
theorem groupGet_answered {vars id raw v : Value} {s s' : Shop}
    (hid : vars.member "sellingPlanGroupId" = .ok id) (hraw : Gid.decodeValue id = .ok raw)
    (h : Act.on (Shop.group raw) s = (.ok v, s')) :
    Act.on (groupGet vars) s = (.ok (.ofFields [("sellingPlanGroup", v)]), s') := by
  rw [groupGet, hid, Act.on_bind_of_ok (Act.on_lift _ s), hraw, Act.on_bind_of_ok (Act.on_lift _ s),
    Act.on_bind_of_ok (orErrors_ok h)]
  rfl

end Answer

namespace Service

/-- A service for the owner of a shop, over a way that leads to it. -/
def overRoute (route : Route) (shop : Shop) : Service :=
  .new (.new shop (.standard (factoryOf true)) route .normal) false

/-- The same shop over both ways, the server being reached. -/
theorem paired_overRoute {shop : Shop} (h : (overRoute .server shop).client.Reaches) :
    Paired (overRoute .inProcess shop) (overRoute .server shop) :=
  ⟨rfl, ⟨true, rfl⟩, rfl, rfl, rfl, h, rfl, rfl⟩

/-- An answer without errors is handed on. -/
theorem askFor_answered {v v₁ : Service} {document field : String} {vars payload : Value}
    (asked : Act.on (ask document vars) { v with errors := [] } =
      (.ok (.ofFields [(field, payload)]), v₁))
    (ht : payload.truthy = true)
    (he : ((payload.get? "userErrors").getD .null).truthy = false) :
    Act.on (askFor document vars field) v = (.ok payload, v₁) := by
  have answered : (Value.ofFields [(field, payload)]).isNull = false := rfl
  unfold askFor
  rw [Act.on_bind_of_ok (Act.on_modify _ v), Act.on_bind_of_ok asked, if_neg (by simp [answered]),
    member_single, Act.on_bind_of_ok (Act.on_lift _ v₁), if_neg (by simp [ht])]
  simp [he]

/-! ### Reading a group over either way -/

/-- What a group is asked for with. -/
def groupVars (id : String) : List (Key × Value) :=
  [(.text "sellingPlanGroupId", .text (Gid.encode id))]

section

variable {id : String} (raw : Gid.isRaw id = true) (sendable : Sendable id.toList)

include raw sendable

/-- Reading a group sends its identifier under its encoded form. -/
theorem group_eq : Service.group (.text id) =
    askFor (Operation.groupGet.document "") (.record (groupVars id)) "sellingPlanGroup" := by
  have given : Gid.encodeText id = .ok (Gid.encode id) := by
    rw [Gid.encodeText, if_pos raw, Text.unencodable?_eq_none sendable]
  rw [Service.group, Gid.encodeValue, Gid.onText, given]
  rfl

variable {shop shop' : Shop} {g : Value}
  (found : Act.on (Shop.group (.text id)) shop = (.ok g, shop'))

include found

omit sendable in
/-- The router answers with the group that the shop finds. -/
theorem dispatch_group : Act.on ((Router.standard (factoryOf true)).dispatch
    (some (Operation.groupGet.document ""))
    (.record (groupVars id))) shop =
    (.ok (some (.ofFields [("sellingPlanGroup", g)])), shop') := by
  have read : Gid.decodeValue (.text (Gid.encode id)) = .ok (.text id) := by
    rw [Gid.decodeValue_text, Gid.decode_encode, Gid.decode_of_isRaw raw]
  exact Router.on_dispatch_answered (Operation.groupGet.isFor_document "")
    (Answer.groupGet_answered rfl read found) rfl

/-- In process the service answers the group as the shop returned it. -/
theorem group_inProcess (ht : g.truthy = true) (he : g.get? "userErrors" = none) :
    (Act.on (Service.group (.text id)) (overRoute .inProcess shop)).1 = .ok g := by
  obtain ⟨v, asked, -, -⟩ :=
    ask_inProcess (v := { overRoute .inProcess shop with errors := [] }) rfl
    (Operation.groupGet.isFor_document "").ne_empty
    ((congrArg (fun vars => Act.on (Router.dispatch _ _ vars) shop) (Value.orElse_record _)).trans
      (dispatch_group raw found))
    (Client.failureOf?_single (by decide) (by decide) g)
  rw [group_eq raw sendable, askFor_answered asked ht (by rw [he]; rfl)]

/-- Over a server it answers the group as it arrived. -/
theorem group_server (hreaches : (overRoute .server shop).client.Reaches) {received : Value}
    (harrives : Server.Arrives (.ofFields [("data", .ofFields [("sellingPlanGroup", g)])])
      (.ofFields [("data", .ofFields [("sellingPlanGroup", received)])]))
    (ht : received.truthy = true) (he : received.get? "userErrors" = none) :
    (Act.on (Service.group (.text id)) (overRoute .server shop)).1 = .ok received := by
  have clean : (Value.record (groupVars id)).Clean :=
    Value.clean_single (by decide) (.text (Gid.sendable_encode sendable))
  have dispatched := dispatch_group raw found
  rw [← Router.dispatch_trim] at dispatched
  obtain ⟨v, asked, -, -⟩ := ask_server (v := { overRoute .server shop with errors := [] })
    hreaches rfl
    (Text.sendable_trim (Operation.groupGet.sendable_document (by decide))) clean
      dispatched harrives
  rw [group_eq raw sendable, askFor_answered asked ht (by rw [he]; rfl)]

end

end Service

namespace ServiceCall

open Service

/-- A call with clean arguments, in a shop with clean data, does the same over either way: it
answers the same, leaves the same shop, and collects as many errors. -/
theorem run_interchangeable {v v' : Service} (paired : Paired v v')
    (h : Reachable v.client.network.shop) (hclean : v.client.network.shop.Clean)
    {call : ServiceCall}
    (hargs : call.arguments.Forall Value.Clean) :
    (Act.on call.run v').1 = (Act.on call.run v).1 ∧
      (Act.on call.run v').2.client.network.shop = (Act.on call.run v).2.client.network.shop ∧
      (Act.on call.run v').2.errors.length = (Act.on call.run v).2.errors.length := by
  have matched := call.run_agrees hargs v v' paired ⟨h.kept.owned, fun _ => hclean⟩
  exact ⟨matched.outcome, matched.paired.shop, matched.paired.collected⟩

/-- A shop that is reached under a path of the server's own site. -/
def siteContext : Context := { (default : Context) with graphqlUrl := "/api/1/graphql.json" }

/-- A shop under that path without entities. -/
def sampleShop : Shop := .new siteContext (.fresh 0 0 [])

/-- The address of the documents on the server's own site. -/
def siteUrl : Url := { Server.site with path := "/api/1/graphql.json" }

/-- A value that is found in the outcome is its answer. -/
theorem eq_ok_of_toOption {α : Type} {e : Except Fault α} {a : α} (h : e.toOption = some a) :
    e = .ok a := by
  cases e with
  | error f => cases h
  | ok b => rw [Option.some.inj h]

/-- Any shop under that path is reached over the server. -/
theorem reaches_overRoute {shop : Shop} (h : shop.context = siteContext) :
    (overRoute .server shop).client.Reaches := by
  have reached : (overRoute .server sampleShop).client.Reaches :=
    { url := ⟨siteUrl, eq_ok_of_toOption (by decide +kernel), eq_ok_of_toOption (by decide +kernel),
        eq_ok_of_toOption (by decide +kernel)⟩
      headers := ⟨[("Content-Type", "application/json"), ("X-Shopify-Access-Token", "")],
        eq_ok_of_toOption (by decide +kernel)⟩ }
  exact reached.congr h rfl

/-- Nothing is kept in the sample, and its base address is clean. -/
theorem clean_sampleShop : sampleShop.Clean where
  entities _ _ _ h := nomatch h
  tokens _ h := absurd h List.not_mem_nil
  base := by decide +kernel

/-- The options of a group with a plan that reserves on fulfillment. -/
def sampleOptions : Value :=
  .ofFields [("name", "Pre-order"), ("merchantCode", "deposit"), ("deposit", .int 20)]

/-- A group is made the same over either way. -/
theorem run_interchangeable_sample :
    let v := overRoute .inProcess sampleShop
    let v' := overRoute .server sampleShop
    Paired v v' ∧ Reachable v.client.network.shop ∧ v.client.network.shop.Clean ∧
      (createGroup sampleOptions).arguments.Forall Value.Clean ∧
      (Act.on (createGroup sampleOptions).run v').1 = (Act.on (createGroup sampleOptions).run v).1 ∧
      (Act.on (createGroup sampleOptions).run v').2.client.network.shop =
        (Act.on (createGroup sampleOptions).run v).2.client.network.shop ∧
      (Act.on (createGroup sampleOptions).run v').2.errors.length =
        (Act.on (createGroup sampleOptions).run v).2.errors.length := by
  intro v v'
  have paired : Paired v v' := paired_overRoute (reaches_overRoute rfl)
  have reached : Reachable v.client.network.shop := .new siteContext (.fresh 0 0 [])
  -- The arguments are written out, so that each of them is clean is decided.
  have args : (createGroup sampleOptions).arguments.Forall Value.Clean :=
    Value.clean_ofFields ["name", "merchantCode", "deposit"] rfl (by decide) (by decide)
      ⟨.text (by decide), .text (by decide), .int 20⟩
  exact ⟨paired, reached, clean_sampleShop, args,
    run_interchangeable paired reached clean_sampleShop args⟩

/-- The identifier of the group of `hiddenShop`. -/
def hiddenGroup : String := "gid://shopify/SellingPlanGroup/1"

/-- The request to make a group whose name has a hidden member. -/
def hiddenCreation : SideRequest :=
  .createGroup (.ofFields [("name", .ofFields [("_sa", .int 1)]), ("merchantCode", "deposit")])
    hiddenGroup

/-- A shop with a group whose name has a hidden member. -/
def hiddenShop : Shop := (Act.on (ShopRequest.side hiddenCreation).run sampleShop).2

/-- The members of the name of a group. -/
def nameMembers? (group : Value) : Option Nat :=
  match group.get? "name" with
  | some (.record members) => some members.length
  | _ => none

/-- The answer to a request for the group. -/
def hiddenAnswer : Except Fault Value × Shop := Act.on (Shop.group (.text hiddenGroup)) hiddenShop

/-- A hidden member of the name of a group is shown by the router itself, but not by the server. -/
theorem hidden_member_lost :
    let v := overRoute .inProcess hiddenShop
    let v' := overRoute .server hiddenShop
    Paired v v' ∧ Reachable v.client.network.shop ∧
      (Act.on (group hiddenGroup).run v').1 ≠ (Act.on (group hiddenGroup).run v).1 := by
  intro v v'
  have reached : Reachable hiddenShop := by
    rw [hiddenShop]
    exact (Reachable.new siteContext (.fresh 0 0 [])).request _
  have context : hiddenShop.context = siteContext := by
    rw [hiddenShop]
    exact (ShopRequest.run_steps _ _).context_eq
  have paired : Paired v v' := paired_overRoute (reaches_overRoute context)
  refine ⟨paired, reached, ?_⟩
  obtain ⟨g, joined⟩ := Act.eq_ok_of_toBool (p := hiddenAnswer) (by decide +kernel)
  have outcome : hiddenAnswer.1.toOption = some g := by rw [joined]; rfl
  -- What is said of `g` is checked of the answer.
  have plain : g.truthy = true ∧ g.get? "userErrors" = none ∧ nameMembers? g = some 1 := by
    have checked : hiddenAnswer.1.toOption.any (fun g => g.truthy && (g.get? "userErrors").isNone &&
      nameMembers? g = some 1) = true := by decide +kernel
    rw [outcome] at checked
    simpa [and_assoc] using checked
  have lossy : (Server.shown g).truthy = true ∧ (Server.shown g).get? "userErrors" = none ∧
      nameMembers? (Server.shown g) = some 0 ∧ (Server.shown g).Clean := by
    have checked : (hiddenAnswer.1.toOption.map Server.shown).any (fun g => g.truthy &&
      (g.get? "userErrors").isNone && nameMembers? g = some 0 && g.isClean) = true := by
      decide +kernel
    rw [outcome] at checked
    obtain ⟨⟨⟨truthy, plain⟩, members⟩, clean⟩ : ((_ ∧ _) ∧ _) ∧ _ := by simpa using checked
    exact ⟨truthy, plain, members, Value.clean_of_isClean clean⟩
  have arrives : Server.Arrives (.ofFields [("data", .ofFields [("sellingPlanGroup", g)])])
      (.ofFields [("data", .ofFields [("sellingPlanGroup", Server.shown g)])]) :=
    (Value.clean_single (by decide) (Value.clean_single (by decide) lossy.2.2.2)).sent_eq
  have first : (Act.on (group hiddenGroup).run v).1 = .ok g :=
    group_inProcess (by decide) (by decide) joined plain.1 plain.2.1
  have second : (Act.on (group hiddenGroup).run v').1 = .ok (Server.shown g) :=
    group_server (by decide) (by decide) joined paired.reaches arrives lossy.1 lossy.2.1
  rw [first, second]
  intro same
  have same := congrArg nameMembers? (Except.ok.inj same)
  rw [plain.2.2, lossy.2.2.1] at same
  cases same

end ServiceCall
end Storefront
