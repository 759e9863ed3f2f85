import Storefront.Proofs.AttributeFrame
import Storefront.Proofs.EditFollows

/-! # The attributes of a cart

The attributes of a cart are a map whose keys are compared in lower case: each holds what was set
last under its key, spelled as it was last, and they stay in the order in which the keys were first
set.  Attributes are set one at a time by the engine, or in a list by a document; a document is
taken apart into calls of the engine, unless one of its rows is incomplete.

* `Cart.HoldsLast.setAttribute` : setting one more attribute
* `Answer.on_cartAttributesUpdate` : what a list of rows comes to
* `AttributeHistory` : what was set of the attributes of a cart, while anything else was asked
* `attributes_hold_last` : the attributes after a history, and what a list does -/

namespace Storefront

open Act (Within)

namespace Cart

/-! ### Attributes in order -/

/-- There is one attribute under each key that was set, in the order in which the keys were first
set, and each is what was set last under its key. -/
structure HoldsLast (us as : List Attribute) : Prop where
  distinct : (foldedKeys as).Nodup
  order : foldedKeys as = (foldedKeys us).eraseDups
  last : ∀ a ∈ as, us.reverse.find? (fun u => foldedKey u.key = foldedKey a.key) = some a

/-- No update, no attribute. -/
theorem HoldsLast.nil : HoldsLast [] [] := ⟨List.nodup_nil, rfl, nofun⟩

/-- An attribute that is set takes the place of the one with its key. -/
theorem mem_setAttribute {a b : Attribute} {as : List Attribute} (h : (foldedKeys as).Nodup)
    (hb : b ∈ setAttribute a as) : b = a ∨ b ∈ as ∧ foldedKey b.key ≠ foldedKey a.key := by
  -- On the list as `setAttribute` walks it: it stops at the first attribute of the same key.
  induction as with
  | nil => exact .inl (List.mem_singleton.1 hb)
  | cons c cs ih =>
    obtain ⟨hnew, hcs⟩ := List.nodup_cons.1 h
    rw [setAttribute] at hb
    split at hb
    · rename_i same
      obtain rfl | hmem := List.mem_cons.1 hb
      · exact .inl rfl
      · -- what follows the attribute replaced has other keys
        refine .inr ⟨.tail _ hmem, fun again => hnew ?_⟩
        exact List.mem_map.2 ⟨b, hmem, again.trans same.symm⟩
    · rename_i other
      obtain rfl | hmem := List.mem_cons.1 hb
      · exact .inr ⟨.head _, other⟩
      · obtain rfl | ⟨hold, hne⟩ := ih hcs hmem
        · exact .inl rfl
        · exact .inr ⟨.tail _ hold, hne⟩

namespace HoldsLast

variable {us us' as : List Attribute}

/-- One more update: it replaces the value under its key or comes last. -/
theorem setAttribute (h : HoldsLast us as) (a : Attribute) :
    HoldsLast (us ++ [a]) (Cart.setAttribute a as) where
  distinct := nodup_setAttribute a h.distinct
  order := by
    have keys : foldedKeys (us ++ [a]) = foldedKeys us ++ [foldedKey a.key] := by simp [foldedKeys]
    have known : foldedKey a.key ∈ foldedKeys as ↔ foldedKey a.key ∈ foldedKeys us := by
      rw [h.order, List.mem_eraseDups]
    rw [foldedKeys_setAttribute, keys, List.eraseDups_append, h.order]
    -- an old key keeps its place and a new one is appended
    by_cases hmem : foldedKey a.key ∈ foldedKeys us
    · simp [List.removeAll, hmem]
    · simp [List.removeAll, hmem, List.eraseDups_cons]
  last b hb := by
    rw [List.reverse_append, List.reverse_singleton, List.singleton_append, List.find?_cons]
    obtain rfl | ⟨hold, hne⟩ := mem_setAttribute h.distinct hb
    · simp
    · simp only [Ne.symm hne, decide_false]
      exact h.last b hold

/-- Setting several attributes one after the other. -/
theorem foldl_setAttribute (h : HoldsLast us as) (us' : List Attribute) :
    HoldsLast (us ++ us') (us'.foldl (fun as a => Cart.setAttribute a as) as) := by
  induction us' generalizing us as with
  | nil => simpa using h
  | cons a us' ih => simpa using ih (h.setAttribute a)

end HoldsLast
end Cart

namespace Attribute

/-- An attribute with a key and a value. -/
def IsComplete (a : Attribute) : Prop := a.key.truthy = true ∧ a.value.truthy = true

/-- The row lists the attribute. -/
def IsRow (a : Attribute) (row : Value) : Prop :=
  row.item "key" = .ok a.key ∧ row.item "value" = .ok a.value

end Attribute

namespace Shop

variable {s s' : Shop} {id country : Value} {k : String} {c : Cart} {a : Attribute}

/-! ### Setting attributes in the engine -/

/-- An attribute is set even if the cart cannot be priced after that. -/
theorem exists_setAttribute (hid : Names id k) (hc : s.HasCart k c) (ha : a.IsComplete)
    (country : Value) : ∃ c', (Act.on (setAttribute id country a.key a.value) s).2.HasCart k c' ∧
      c'.attributes = Cart.setAttribute a c.attributes := by
  -- Both are given, so the draft is the cart with the attribute set.
  have draft : Act.on ((CartEdit.setAttribute a.key a.value).draft country (.made c)) s =
      (.ok (some (.made { c with attributes := Cart.setAttribute a c.attributes })), s) := by
    have both : ¬ (!a.key.truthy || !a.value.truthy) = true := by simp [ha.1, ha.2]
    show Act.on (liftM (withAttribute a.key a.value (.made c))) s = _
    rw [withAttribute, if_neg both]
    rfl
  have run := on_run_of_draft (e := .setAttribute a.key a.value) hid hc draft
  -- The run reprices the draft, which leaves its attributes.
  have leaves : LeavesAttributes False k _ _ := repriceCart_leavesAttributes k country
    (s.withCart k (({ c with attributes := Cart.setAttribute a c.attributes } : Cart).dated
      s.supply.timestamp))
  obtain ⟨c', hc', same⟩ := leaves.attributes False.elim _ (hasCart_withCart_self _ _ _)
  exact ⟨c', by rwa [← run] at hc', same⟩

/-- Sets attributes one after the other, as long as none fails. -/
def setEach (id country : Value) (as : List Attribute) : Act Shop (Option KeptCart) :=
  as.foldlM (fun _ a => setAttribute id country a.key a.value) none

/-- Setting attributes one after the other leaves the cart with each of them set in turn. -/
theorem foldlM_setAttribute {as : List Attribute} {cart answer : Option KeptCart}
    (hid : Names id k) (hc : s.HasCart k c) (has : ∀ a ∈ as, a.IsComplete)
    (h : Act.on (as.foldlM (fun _ a => setAttribute id country a.key a.value) cart) s =
      (.ok answer, s')) :
    ∃ c', s'.HasCart k c' ∧
      c'.attributes = as.foldl (fun as a => Cart.setAttribute a as) c.attributes := by
  -- The cart is generalised with the shop: each step starts from the cart the step before left.
  induction as generalizing s c cart with
  | nil =>
    obtain ⟨-, rfl⟩ := Prod.mk.inj h
    exact ⟨c, hc, rfl⟩
  | cons a as ih =>
    obtain ⟨complete, has⟩ := List.forall_mem_cons.1 has
    rw [List.foldlM_cons] at h
    obtain ⟨cart', s₁, hset, h⟩ := Act.on_bind_eq_ok.1 h
    obtain ⟨c₁, hc₁, set⟩ := exists_setAttribute hid hc complete country
    rw [hset] at hc₁
    obtain ⟨c', hc', rest⟩ := ih hc₁ has h
    exact ⟨c', hc', by rw [rest, set, List.foldl_cons]⟩

end Shop

open Shop

/-! ### Documents that list attributes -/

namespace Answer

variable {document : String} {vars id country : Value} {p : Document.Parsed} {k : String} {c : Cart}
  {rows : List Value} {as : List Attribute}

/-- Rows of complete attributes pass the check. -/
theorem allComplete_of_rows (listed : List.Forall₂ Attribute.IsRow as rows)
    (has : ∀ a ∈ as, a.IsComplete) : allComplete rows = .ok true := by
  induction listed with
  | nil => rfl
  | cons row _ ih =>
    obtain ⟨complete, has⟩ := List.forall_mem_cons.1 has
    rw [allComplete, Value.member_of_item row.1, Value.member_of_item row.2]
    simp only [bind, Except.bind, complete.1, complete.2, if_true]
    exact ih has

/-- Setting rows is setting the attributes they stand for. -/
theorem setRows_eq (listed : List.Forall₂ Attribute.IsRow as rows) (cart : Option KeptCart) :
    setRows id country rows cart =
      as.foldlM (fun _ a => setAttribute id country a.key a.value) cart := by
  induction listed generalizing cart with
  | nil => rfl
  | cons row _ ih =>
    rw [setRows, row.1, row.2, List.foldlM_cons, ← funext ih]
    rfl

/-- A list of complete rows is set row by row, in the market of the document. -/
theorem on_cartAttributesUpdate {s : Shop} (hp : Document.parse (some document) vars = .ok p)
    (hcart : cartIdOf vars = .ok id) (hid : Names id k) (hc : s.HasCart k c)
    (hrows : attributeRows vars = .ok rows) (listed : List.Forall₂ Attribute.IsRow as rows)
    (hne : as ≠ []) (has : ∀ a ∈ as, a.IsComplete) :
    Act.on (cartAttributesUpdate document vars) s =
      Act.on ((cartPayload .cartAttributesUpdate · []) <$> setEach id (countryOf p) as) s := by
  -- As many rows as attributes, so there is one.
  have nonempty : rows.isEmpty = false := by
    cases listed with
    | nil => exact absurd rfl hne
    | cons => rfl
  -- No guard of the handler holds, so it comes to setting the rows.
  unfold cartAttributesUpdate forKnownCart
  rw [hp, Act.on_bind_of_ok (Act.on_lift _ s), hcart, Act.on_bind_of_ok (Act.on_lift _ s),
    Act.on_bind_of_ok (on_hasCart hid hc), if_pos rfl, hrows, Act.on_bind_of_ok (Act.on_lift _ s),
    nonempty, allComplete_of_rows listed has]
  simp only [Bool.false_or]
  rw [Act.on_bind_of_ok (Act.on_lift _ s), if_neg nofun, setRows_eq listed, setEach]
  rfl

/-- Nothing is set if a row lacks its key or its value. -/
theorem cartAttributesUpdate_redraws
    (h : ∀ rows, attributeRows vars = .ok rows → allComplete rows ≠ .ok true) (document : String) :
    Within Redrawn (cartAttributesUpdate document vars) := by
  refine forKnownCart_within (fun _ _ h => h) _ _ _ fun id country hid =>
    .bind_lift fun rows hrows => .bind_lift fun complete hcomplete => ?_
  split
  · exact rejectedCart_within (fun _ _ h => h) _ _ _
  · rename_i accepted
    obtain ⟨-, rfl⟩ : rows ≠ [] ∧ complete = true := by simpa using accepted
    exact absurd hcomplete (h rows hrows)

end Answer

/-! ### Histories -/

/-- The document sets attributes of a cart, and lists them in rows. -/
structure ListsAttributes (document : Option String) (vars id : Value)
    (rows : List Value) : Prop where
  operation : Operation.ofDocument? document = some .cartAttributesUpdate
  cart : Answer.cartIdOf (vars.orElse (.record [])) = .ok id
  rows : Answer.attributeRows (vars.orElse (.record [])) = .ok rows

namespace Router

variable {document : Option String} {vars id : Value} {rows : List Value} {as : List Attribute}
  {p : Document.Parsed} {s s' : Shop} {k : String} {c : Cart}

/-- The router does with a list of complete rows what the engine does with one after the other. -/
theorem on_dispatch_attributes (hasFactory : Bool) (asked : ListsAttributes document vars id rows)
    (hid : Names id k) (hc : s.HasCart k c) (listed : List.Forall₂ Attribute.IsRow as rows)
    (hne : as ≠ [])
    (has : ∀ a ∈ as, a.IsComplete)
    (hp : Document.parse document (vars.orElse (.record [])) = .ok p) :
    (∀ answer s', Act.on (setEach id (Answer.countryOf p) as) s = (.ok answer, s') →
      Act.on ((standard (factoryOf hasFactory)).dispatch document vars) s =
        (.ok (some (Answer.cartPayload .cartAttributesUpdate answer [])), s')) ∧
    (∀ fault s', Act.on (setEach id (Answer.countryOf p) as) s = (.error fault, s') →
      Redrawn s' (Act.on ((standard (factoryOf hasFactory)).dispatch document vars) s).2 ∧
      ∀ answer, (Act.on ((standard (factoryOf hasFactory)).dispatch document vars) s).1 ≠
        .ok (some (Answer.cartPayload .cartAttributesUpdate answer []))) := by
  obtain ⟨signature, hs, handler⟩ :=
    handler?_of_ofDocument? (factoryOf hasFactory) asked.operation
  obtain ⟨text, rfl⟩ : ∃ text, document = some text := by
    cases document with
    | none => cases hs
    | some text => exact ⟨text, rfl⟩
  have dispatched := on_dispatch hp hs handler s
  have handled := Answer.on_cartAttributesUpdate hp asked.cart hid hc asked.rows listed hne has
  rw [Act.on_map] at handled
  rw [Option.getD_some, show ownHandler (factoryOf hasFactory) .cartAttributesUpdate text
    (vars.orElse (.record [])) = Answer.cartAttributesUpdate text
    (vars.orElse (.record [])) from rfl,
    handled] at dispatched
  constructor
  · intro answer s' h
    rw [dispatched, h]
    rfl
  · intro fault s' h
    rw [dispatched, h]
    dsimp only [Except.map]
    split
    · exact ⟨Std.Refl.refl s', fun _ same => by cases same⟩
    · obtain ⟨errors, s'', reported⟩ := Answer.faultErrors_succeeds fault s'
      have redrawn : Redrawn s' s'' := (Answer.faultErrors_redraws fault).of_on reported
      rw [reported]
      refine ⟨redrawn, fun answer same => ?_⟩
      -- What reports a fault has no cart.
      simp [refusal, Answer.cartPayload, Value.ofFields] at same

end Router

namespace Shop

/-- What was set of the attributes of a cart since it had none: by the engine, or by a document that
was answered with the cart.  In between anything is asked that neither sets its attributes nor makes
it again, and time passes. -/
inductive AttributeHistory (k : String) : List Attribute → Shop → Prop
  | none {s : Shop} {c : Cart} (hc : s.HasCart k c) (none : c.attributes = []) :
      AttributeHistory k [] s
  | called {us : List Attribute} {s : Shop} {id : Value} {a : Attribute}
      (h : AttributeHistory k us s) (hid : Names id k) (complete : a.IsComplete) (country : Value) :
      AttributeHistory k (us ++ [a]) (Act.on (setAttribute id country a.key a.value) s).2
  | dispatched {us as : List Attribute} {s s' : Shop} {hasFactory : Bool} {document : Option String}
      {vars id : Value} {rows : List Value} {answer : Option KeptCart} (h : AttributeHistory k us s)
      (asked : ListsAttributes document vars id rows) (hid : Names id k)
      (listed : List.Forall₂ Attribute.IsRow as rows) (hne : as ≠ [])
      (complete : ∀ a ∈ as, a.IsComplete)
      (answered : Act.on ((Router.standard (factoryOf hasFactory)).dispatch document vars) s =
        (.ok (some (Answer.cartPayload .cartAttributesUpdate answer [])), s')) :
      AttributeHistory k (us ++ as) s'
  | other {us : List Attribute} {s : Shop} {r : ShopRequest} (h : AttributeHistory k us s)
      (hset : ¬ r.SetsAttributes k) (hmake : ¬ r.Makes k s) : AttributeHistory k us
        (Act.on r.run s).2
  | passage {us : List Attribute} {s : Shop} (h : AttributeHistory k us s) (supply : Supply) :
      AttributeHistory k us { s with supply }

variable {k : String}

/-- The attributes of a cart are those that were set last under their keys. -/
theorem AttributeHistory.holdsLast {us : List Attribute} {s : Shop} (h : AttributeHistory k us s) :
    ∃ c, s.HasCart k c ∧ Cart.HoldsLast us c.attributes := by
  induction h with
  -- a cart without attributes, and no update
  | none hc none => exact ⟨_, hc, none ▸ .nil⟩
  -- one attribute set by the engine
  | @called us s id a h hid complete country ih =>
    obtain ⟨c, hc, holds⟩ := ih
    obtain ⟨c', hc', set⟩ := exists_setAttribute hid hc complete country
    exact ⟨c', hc', set ▸ holds.setAttribute a⟩
  -- a list of them set by a document that was answered
  | @dispatched us as s s' hasFactory document vars id rows answer h asked hid listed hne complete
      answered ih =>
    obtain ⟨c, hc, holds⟩ := ih
    cases hp : Document.parse document (vars.orElse (.record [])) with
    | error fault => cases (Router.on_dispatch_of_error hp s).symm.trans answered
    | ok p =>
      obtain ⟨set, failed⟩ :=
        Router.on_dispatch_attributes hasFactory asked hid hc listed hne complete hp
      rcases hr : Act.on (setEach id (Answer.countryOf p) as) s with ⟨fault | answer', s₁⟩
      · -- a row that failed would have left no answer
        exact absurd (congrArg Prod.fst answered) ((failed fault s₁ hr).2 answer)
      · obtain ⟨-, rfl⟩ := Prod.mk.inj ((set answer' s₁ hr).symm.trans answered)
        obtain ⟨c', hc', all⟩ := foldlM_setAttribute hid hc complete hr
        exact ⟨c', hc', all ▸ holds.foldl_setAttribute as⟩
  -- requests that set no attribute of this cart
  | other h hset hmake ih =>
    obtain ⟨c, hc, holds⟩ := ih
    obtain ⟨c', hc', same⟩ := ShopRequest.exists_sameAttributes hset hmake hc
    exact ⟨c', hc', same ▸ holds⟩
  -- elsewhere time passes or identifiers are supplied, and the cart stays
  | passage h supply ih => exact ih

/-- The attributes of a cart are a map whose keys are compared in lower case, in the order in which
the keys were first set; a cart is made without any.  A list of attributes does what its rows do one
after the other, and nothing if one of them lacks its key or its value. -/
theorem attributes_hold_last (k : String) :
    (∀ country given s c s', Act.on (createCart country given) s = (.ok (some c), s') →
      AttributeHistory c.id [] s') ∧
    (∀ us s, AttributeHistory k us s → ∃ c, s.HasCart k c ∧ Cart.HoldsLast us c.attributes) ∧
    (∀ hasFactory document vars id rows as p s c, ListsAttributes document vars id rows →
      Names id k → s.HasCart k c → List.Forall₂ Attribute.IsRow as rows → as ≠ [] →
      (∀ a ∈ as, a.IsComplete) → Document.parse document (vars.orElse (.record [])) = .ok p →
      let rowByRow := Act.on (setEach id (Answer.countryOf p) as) s
      let listwise := Act.on ((Router.standard (factoryOf hasFactory)).dispatch document vars) s
      (∀ answer s', rowByRow = (.ok answer, s') →
        listwise = (.ok (some (Answer.cartPayload .cartAttributesUpdate answer [])), s')) ∧
      (∀ fault s', rowByRow = (.error fault, s') → Redrawn s' listwise.2)) ∧
    (∀ hasFactory document vars rows s,
      Operation.ofDocument? document = some .cartAttributesUpdate →
      Answer.attributeRows (vars.orElse (.record [])) = .ok rows →
      (∃ row ∈ rows, ∃ name ∈ ["key", "value"], ∃ v, row.member name = .ok v ∧ v.truthy = false) →
      Redrawn s
        (Act.on ((Router.standard (factoryOf hasFactory)).dispatch document vars) s).2) := by
  -- a new cart has no attributes; any history holds the last values; a list is its rows in turn; an
  -- incomplete row stops the whole list
  refine ⟨fun country given s c s' h => ?_, fun us s h => h.holdsLast, ?_, ?_⟩
  · obtain ⟨none, -⟩ | ⟨key, k', s₁, -, -, -, -, made, rfl⟩ := createCart_eq_ok h
    · cases none
    · obtain rfl := Option.some.inj made
      exact .none (hasCart_withCart_self _ _ _) rfl
  · intro hasFactory document vars id rows as p s c asked hid hc listed hne complete hp
    obtain ⟨set, failed⟩ :=
      Router.on_dispatch_attributes hasFactory asked hid hc listed hne complete hp
    exact ⟨set, fun fault s' hr => (failed fault s' hr).1⟩
  · rintro hasFactory document vars rows s asked hrows ⟨row, hrow, name, hname, v, hv, falsy⟩
    refine Router.dispatch_within_of_operation (fun _ _ h => h) (fun o ho => ?_) s
    -- The check passed all rows though one lacks a part.
    obtain rfl := Option.some.inj (asked.symm.trans ho)
    refine Answer.cartAttributesUpdate_redraws (fun rows' hrows' complete => ?_) _
    obtain rfl := Except.ok.inj (hrows.symm.trans hrows')
    obtain ⟨w, hw, truthy⟩ := Answer.exists_member_of_allComplete complete row hrow name hname
    obtain rfl := Except.ok.inj (hv.symm.trans hw)
    cases truthy.symm.trans falsy

/-- A shop with a cart that has an attribute and a note. -/
def sampleMarked : Shop :=
  let set := Act.on (setAttribute sampleId .null "Gift" "yes") sampleCreated
  (Act.on (ShopRequest.cart (.edit sampleId .null (.setNote "Ring twice"))).run set.2).2

/-- The variables that list two more attributes of the cart, one under a key in other letters. -/
def sampleRowVars : Value := .ofFields [("cartId", sampleId), ("attributes", .list
  [.ofFields [("key", "Box"), ("value", "red")], .ofFields [("key", "GIFT"), ("value", "no")]])]

/-- The theorem at three updates, the last with the key of the first in other letters. -/
theorem attributes_hold_last_sample : ∃ s c, s.HasCart sampleId c ∧
    AttributeHistory sampleId [⟨"Gift", "yes"⟩, ⟨"Box", "red"⟩, ⟨"GIFT", "no"⟩] s ∧
    Cart.HoldsLast [⟨"Gift", "yes"⟩, ⟨"Box", "red"⟩, ⟨"GIFT", "no"⟩] c.attributes := by
  obtain ⟨made, hold, list, -⟩ := attributes_hold_last sampleId
  have named : Names sampleId sampleId := ⟨rfl, by decide⟩
  have created : AttributeHistory sampleId [] sampleCreated := by
    let answered := Act.on (createCart Market.home (.text sampleId)) (.new default (.fresh 0 0 []))
    -- The cart is created under the id it asks for, which running it shows.
    obtain ⟨c, h, id⟩ : ∃ c, answered = (.ok (some c), answered.2) ∧ c.id = sampleId := by
      have shown : answered.1.toOption.map (Option.map Cart.id) = some (some sampleId) := by
        decide +kernel
      revert shown
      rcases answered with ⟨f | _ | c, s⟩
      · exact nofun
      · exact nofun
      · exact fun shown => ⟨c, rfl, Option.some.inj (Option.some.inj shown)⟩
    have made := made _ _ _ _ _ h
    rwa [id] at made
  have marked : AttributeHistory sampleId [⟨"Gift", "yes"⟩] sampleMarked :=
    .other (.called (a := ⟨"Gift", "yes"⟩) created named ⟨rfl, rfl⟩ .null)
      (fun h => h.elim) (fun h => h.elim)
  -- Two rows more in one document, so the history has steps of both kinds.
  obtain ⟨c, hc, -⟩ := hold _ _ marked
  have isFor := Operation.cartAttributesUpdate.isFor_document ""
  have asked : ListsAttributes (some (Operation.cartAttributesUpdate.document ""))
    sampleRowVars sampleId
      [.ofFields [("key", "Box"), ("value", "red")],
        .ofFields [("key", "GIFT"), ("value", "no")]] :=
    ⟨by rw [Operation.ofDocument?, isFor.signature]; exact Operation.ofSignature?_signature _,
      rfl, rfl⟩
  have given : sampleRowVars.orElse (.record []) = .record _ := rfl
  obtain ⟨p, hp, -, hcontext⟩ := isFor.parse given
  have listed : List.Forall₂ Attribute.IsRow [⟨"Box", "red"⟩, ⟨"GIFT", "no"⟩]
      [.ofFields [("key", "Box"), ("value", "red")],
        .ofFields [("key", "GIFT"), ("value", "no")]] :=
    .cons ⟨rfl, rfl⟩ (.cons ⟨rfl, rfl⟩ .nil)
  have complete : ∀ a ∈ [Attribute.mk "Box" "red", ⟨"GIFT", "no"⟩], a.IsComplete := by
    simp [Attribute.IsComplete]
  have country : Answer.countryOf p = .null := by
    rw [Answer.countryOf, Document.Parsed.contextValue, hcontext rfl]
    rfl
  obtain ⟨answer, h⟩ := Act.eq_ok_of_toBool
    (p := Act.on (setEach sampleId .null [⟨"Box", "red"⟩, ⟨"GIFT", "no"⟩]) sampleMarked)
    (by decide +kernel)
  -- The list was answered, since its rows one by one were.
  have answered := (list false _ _ _ _ _ _ _ _ asked named hc listed (by simp) complete hp).1
    answer _
    (country ▸ h)
  have set := marked.dispatched asked named listed (by simp) complete answered
  obtain ⟨c', hc', holds⟩ := hold _ _ set
  exact ⟨_, c', hc', set, holds⟩

end Shop

end Storefront
