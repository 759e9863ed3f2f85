import Storefront.CommandLine.Run
import Storefront.Proofs.InShop

/-! # What a failing command tells

A command on a cart that fails prints what its service collected.  A mutation that answers with
nothing has collected an error, and so has a cart that is not read; only a cart that is there and
has no lines is not emptied without a word.

* `CommandLine.explains_runCart` : all other commands explain their failures
* `Service.emptyCart_eq_ok` : what was collected when a cart is not emptied
* `CommandLine.Commanded` : the services that command lines lead to
* `CommandLine.Commanded.unexplained_iff` : the command that fails without a word -/

namespace Storefront

open Act (Within Carries)
open Shop

namespace Service

variable {hasFactory : Bool} {v v' : Service}

/-! ### Calls of commands -/

/-- To add a line complains wherever it is answered with nothing. -/
theorem addLine_complains (cartId variant line planId : Value) :
    Complains hasFactory (addLine cartId variant line planId) := by
  refine .bind_lift fun key _ => .bind_lift fun lines _ =>
    .still_bind (.mapM (fun p => .lift _) _) fun additions => .bind_lift fun sent henc => ?_
  exact edit_complains (e := .addLines (.list additions)) (Value.elementsOrNone_list _) henc

/-- To update a line complains wherever it is answered with nothing. -/
theorem updateLine_complains (cartId lineId line : Value) :
    Complains hasFactory (updateLine cartId lineId line) := by
  refine .bind_lift fun key _ => .bind_lift fun lines _ =>
    .still_bind (.mapM (fun p => .lift _) _) fun changes => .bind_lift fun sent henc => ?_
  exact edit_complains (e := .updateLines (.list changes)) (Value.elementsOrNone_list _) henc

/-- To remove lines complains wherever it is answered with nothing. -/
theorem removeLines_complains (cartId lineIds : Value) :
    Complains hasFactory (removeLines cartId lineIds) := by
  refine .bind_lift fun sent henc => .bind_lift fun lineIds _ =>
    .still_bind (.mapM (fun p => .lift _) _) fun lineIds => ?_
  exact edit_complains (e := .removeLines (.list lineIds)) (Value.elementsOrNone_list _) henc

/-- To set the note complains wherever it is answered with nothing. -/
theorem setNote_complains (cartId note : Value) : Complains hasFactory (setNote cartId note) :=
  .bind_lift fun _ henc => edit_complains (e := .setNote note) rfl henc

/-- To set an attribute complains wherever it is answered with nothing. -/
theorem setAttribute_complains (cartId key value : Value) :
    Complains hasFactory (setAttribute cartId key value) :=
  .bind_lift fun _ henc => edit_complains (e := .setAttribute key value) rfl henc

/-- To set discount codes complains wherever it is answered with nothing. -/
theorem setDiscountCodes_complains (cartId codes : Value) :
    Complains hasFactory (setDiscountCodes cartId codes) :=
  .bind_lift fun _ henc => .bind_lift fun codes _ =>
    edit_complains (e := .setDiscount (.list codes)) (Value.elementsOrNone_list _) henc

/-- A service that asks the router of a shop that is reached goes on to do so. -/
abbrev Remains (hasFactory : Bool) : Service → Service → Prop :=
  Carries fun v => v.client.network.InShop hasFactory

/-- To make a cart leaves the router of a shop that is reached. -/
theorem newCart_remains (country : Value) : Within (Remains hasFactory) (newCart country) :=
  mutate_carries .cartCreate (Operation.cartCreate.isFor_document "").ne_empty _

/-- An edit is sent with the identifier of its cart. -/
theorem edit_remains (e : CartEdit) (vars : Value) :
    Within (Remains hasFactory) (mutate e.operation (e.operation.document "") vars) :=
  mutate_carries e.operation (e.operation.isFor_document "").ne_empty vars

/-- To add a line leaves the router of a shop that is reached. -/
theorem addLine_remains (cartId variant line planId : Value) :
    Within (Remains hasFactory) (addLine cartId variant line planId) :=
  .bind (.lift _) fun _ => .bind (.lift _) fun _ =>
    .bind (.mapM (fun _ => .lift _) _) fun additions =>
    .bind (.lift _) fun _ => edit_remains (.addLines (.list additions)) _

/-- To update a line leaves the router of a shop that is reached. -/
theorem updateLine_remains (cartId lineId line : Value) :
    Within (Remains hasFactory) (updateLine cartId lineId line) :=
  .bind (.lift _) fun _ => .bind (.lift _) fun _ =>
    .bind (.mapM (fun _ => .lift _) _) fun changes =>
    .bind (.lift _) fun _ => edit_remains (.updateLines (.list changes)) _

/-- To remove lines leaves the router of a shop that is reached. -/
theorem removeLines_remains (cartId lineIds : Value) :
    Within (Remains hasFactory) (removeLines cartId lineIds) :=
  .bind (.lift _) fun _ => .bind (.lift _) fun _ =>
    .bind (.mapM (fun _ => .lift _) _) fun lineIds =>
    edit_remains (.removeLines (.list lineIds)) _

/-- To empty a cart leaves the router of a shop that is reached: it is read, and its lines are
removed. -/
theorem emptyCart_remains (cartId country : Value) :
    Within (Remains hasFactory) (emptyCart cartId country) := by
  refine .bind (cart_carries _ _ _) fun w => ?_
  split
  · exact .pure _
  · refine .bind (.lift _) fun lineIds => ?_
    split
    · exact .pure _
    · exact .bind (removeLines_remains _ _) fun _ => .pure _

/-- To set the note leaves the router of a shop that is reached. -/
theorem setNote_remains (cartId note : Value) :
    Within (Remains hasFactory) (setNote cartId note) :=
  .bind (.lift _) fun _ => edit_remains (.setNote note) _

/-- To set an attribute leaves the router of a shop that is reached. -/
theorem setAttribute_remains (cartId key value : Value) :
    Within (Remains hasFactory) (setAttribute cartId key value) :=
  .bind (.lift _) fun _ => edit_remains (.setAttribute key value) _

/-- To set discount codes leaves the router of a shop that is reached. -/
theorem setDiscountCodes_remains (cartId codes : Value) :
    Within (Remains hasFactory) (setDiscountCodes cartId codes) :=
  .bind (.lift _) fun _ => .bind (.lift _) fun _ => edit_remains (.setDiscount (.list [])) _

end Service

namespace CommandLine

open Service

variable {hasFactory : Bool} {v v' : Service} {country : Value} {json : Bool} {outcome : Outcome}

/-- A failure only looks at what the service collected. -/
theorem failed_remains : Within (Remains hasFactory) failed := .bind .get fun _ => .pure _

/-- To show a cart is to read it, and to lay it out. -/
theorem showCart_remains (cartId country : Value) (json : Bool) :
    Within (Remains hasFactory) (showCart cartId country json) := by
  refine .bind (cart_carries _ _ _) fun w => ?_
  split
  · exact failed_remains
  · split
    · exact .pure _
    · exact .bind (.lift _) fun _ => .pure _

/-- A mutation is followed by showing the cart, or by a failure. -/
theorem afterMutation_remains (cartId country : Value) (json : Bool) :
    Within (Remains hasFactory) (afterMutation cartId country json) := by
  unfold afterMutation
  split
  · exact showCart_remains cartId country json
  · exact failed_remains

/-- Pairs that cannot be read end the command before the mutation. -/
theorem withLine_remains (quantity : Value) (pairs : List Value)
    {mutation : Value → Act Service Value}
    (h : ∀ line, Within (Remains hasFactory) (mutation line)) :
    Within (Remains hasFactory) (withLine quantity pairs country json mutation) := by
  refine .bind (.lift _) fun attributes => ?_
  cases attributes with
  | error message => exact .pure _
  | ok attributes => exact .bind (h _) fun _ => afterMutation_remains _ _ _

/-- A command leaves the service with the router of a shop that is reached. -/
theorem runCart_remains (country : Value) (json : Bool) (action : CartAction) :
    Within (Remains hasFactory) (runCart country json action) := by
  -- Each command makes one call on the service and may show the cart afterwards.
  match action with
  | .create =>
    refine .bind (newCart_remains country) fun cartId => ?_
    split
    · exact failed_remains
    · split
      · exact showCart_remains _ _ _
      · exact .pure _
  | .showCart cartId => exact showCart_remains cartId country json
  | .empty cartId =>
    refine .bind (emptyCart_remains cartId country) fun emptied => ?_
    split
    · exact showCart_remains _ _ _
    · exact failed_remains
  | .add cartId variant quantity pairs =>
    exact withLine_remains _ _ fun line => addLine_remains cartId variant line .null
  | .update cartId line quantity pairs =>
    exact withLine_remains _ _ fun input => updateLine_remains cartId line input
  | .remove cartId lines =>
    exact .bind (removeLines_remains _ _) fun _ => afterMutation_remains _ _ _
  | .note cartId note => exact .bind (setNote_remains _ _) fun _ => afterMutation_remains _ _ _
  | .attribute cartId key value =>
    exact .bind (setAttribute_remains _ _ _) fun _ => afterMutation_remains _ _ _
  | .discount cartId codes =>
    exact .bind (setDiscountCodes_remains _ _) fun _ => afterMutation_remains _ _ _

/-! ### What is told -/

/-- At least one of the lines about what went wrong tells of an error. -/
def Outcome.Explained (o : Outcome) : Prop := ∃ message, errorLine message ∈ o.errors

/-- Wherever the command ends with another code than zero, it tells why. -/
def Explains (hasFactory : Bool) (x : Act Service Outcome) : Prop :=
  ∀ v outcome v', v.client.network.InShop hasFactory → Act.on x v = (.ok outcome, v') →
    outcome.code ≠ 0 → outcome.Explained

/-- What is told of a failure is what the service collected. -/
theorem on_failed (v : Service) :
    Act.on failed v = (.ok ⟨1, [], v.errors.map fun e => errorLine e.display, none⟩, v) := rfl

/-- A failure is explained exactly if the service collected anything. -/
theorem explained_iff_of_failed (h : Act.on failed v = (.ok outcome, v')) :
    outcome.Explained ↔ v.errors ≠ [] := by
  rw [on_failed] at h
  obtain rfl := Except.ok.inj (congrArg Prod.fst h)
  constructor
  · -- The messages are those that were collected, and there is none.
    rintro ⟨message, told⟩ none
    simp [none] at told
  · intro some_
    obtain ⟨e, he⟩ := List.exists_mem_of_ne_nil _ some_
    exact ⟨e.display, List.mem_map_of_mem he⟩

/-- A command that is done ends with zero. -/
theorem code_eq_zero_of_done {output : List String}
    (h : Act.on (pure (Outcome.done output) : Act Service Outcome) v = (.ok outcome, v')) :
    outcome.code = 0 := by
  obtain rfl := Except.ok.inj (congrArg Prod.fst h)
  rfl

/-- A cart that is not read was complained about; one that is read ends with zero. -/
theorem explains_showCart (cartId country : Value) (json : Bool) :
    Explains hasFactory (showCart cartId country json) := by
  intro v outcome v' hv hr hcode
  obtain ⟨w, v₁, read, hr⟩ := Act.on_bind_eq_ok.1 hr
  split at hr
  · -- no cart was read, and the service said why
    rename_i null
    refine (explained_iff_of_failed hr).2 (cart_complains _ _ _ v w v₁ hv read ?_)
    cases w with
    | null => rfl
    | _ => cases null
  · -- a cart was read, so the command exits with zero
    split at hr
    · exact absurd (code_eq_zero_of_done hr) hcode
    · obtain ⟨lines, -, hr⟩ := Act.on_lift_bind_eq_ok.1 hr
      exact absurd (code_eq_zero_of_done hr) hcode

/-- A mutation that answers with nothing has collected an error, and it is told. -/
theorem explains_mutation {mutation : Act Service Value} (told : Complains hasFactory mutation)
    (remains : Within (Remains hasFactory) mutation) (country : Value) (json : Bool) :
    Explains hasFactory (mutation >>= fun cartId => afterMutation cartId country json) := by
  intro v outcome v' hv hr hcode
  obtain ⟨cartId, v₁, answered, hr⟩ := Act.on_bind_eq_ok.1 hr
  rw [afterMutation] at hr
  split at hr
  · exact explains_showCart _ _ _ v₁ outcome v' (remains.of_on answered hv) hr hcode
  · rename_i falsy
    exact (explained_iff_of_failed hr).2 (told v cartId v₁ hv answered (by simpa using falsy))

/-- Pairs that cannot be read are told at once; else the mutation explains itself. -/
theorem explains_withLine (quantity : Value) (pairs : List Value) (country : Value) (json : Bool)
    {mutation : Value → Act Service Value} (told : ∀ line, Complains hasFactory (mutation line))
    (remains : ∀ line, Within (Remains hasFactory) (mutation line)) :
    Explains hasFactory (withLine quantity pairs country json mutation) := by
  intro v outcome v' hv hr hcode
  obtain ⟨attributes, -, hr⟩ := Act.on_lift_bind_eq_ok.1 hr
  cases attributes with
  | error message =>
    obtain rfl := Except.ok.inj (congrArg Prod.fst hr)
    exact ⟨message, List.mem_singleton.2 rfl⟩
  | ok attributes =>
    exact explains_mutation (told _) (remains _) country json v outcome v' hv hr hcode

/-- Every command but one explains itself. -/
theorem explains_runCart (country : Value) (json : Bool) {action : CartAction}
    (h : ∀ cartId, action ≠ .empty cartId) : Explains hasFactory (runCart country json action) := by
  -- Emptying is the one command whose call can say no without recording why.
  match action with
  | .create =>
    intro v outcome v' hv hr hcode
    obtain ⟨cartId, v₁, answered, hr⟩ := Act.on_bind_eq_ok.1 hr
    -- no cart was made, and the service said why
    split at hr
    · rename_i falsy
      exact (explained_iff_of_failed hr).2
        (newCart_complains country v cartId v₁ hv answered (by simpa using falsy))
    · -- a cart was made and shown
      split at hr
      · exact explains_showCart _ _ _ v₁ outcome v'
          ((newCart_remains country).of_on answered hv) hr hcode
      · exact absurd (code_eq_zero_of_done hr) hcode
  | .showCart cartId => exact explains_showCart cartId country json
  | .empty cartId => exact absurd rfl (h cartId)
  | .add cartId variant quantity pairs =>
    exact explains_withLine _ _ _ _ (fun line => addLine_complains cartId variant line .null)
      fun line => addLine_remains cartId variant line .null
  | .update cartId line quantity pairs =>
    exact explains_withLine _ _ _ _ (fun input => updateLine_complains cartId line input)
      fun input => updateLine_remains cartId line input
  | .remove cartId lines =>
    exact explains_mutation (removeLines_complains _ _) (removeLines_remains _ _) country json
  | .note cartId note =>
    exact explains_mutation (setNote_complains _ _) (setNote_remains _ _) country json
  | .attribute cartId key value =>
    exact explains_mutation (setAttribute_complains _ _ _) (setAttribute_remains _ _ _) country json
  | .discount cartId codes =>
    exact explains_mutation (setDiscountCodes_complains _ _) (setDiscountCodes_remains _ _)
      country json

end CommandLine

/-! ### Emptying carts -/

namespace Service

variable {hasFactory : Bool} {v v' : Service} {id country : Value}

/-- The lines that are read of a cart are its own. -/
theorem lineIdsOf_toValue (c : Cart) :
    lineIdsOf c.toValue = .ok (c.lines.map fun l => .text (Gid.decode l.id)) := by
  -- From the cart to its edges, from an edge to its node, and from there to the identifier.
  have lines : c.toValue.item "lines" = .ok (edgesOf (c.lines.map (·.toValue))) := by
    simp [Cart.toValue, Value.ofFields, Value.item, Assoc.get?]
  have edges : (edgesOf (c.lines.map (·.toValue))).item "edges" =
      .ok (.list ((c.lines.map (·.toValue)).map fun n => .ofFields [("node", n)])) := by
    simp [edgesOf, Value.ofFields, Value.item, Assoc.get?]
  have each : ∀ l : Line, ((Value.ofFields [("node", l.toValue)]).item "node" >>= fun node =>
      node.item "id" >>= Gid.decodeValue) = .ok (.text (Gid.decode l.id)) := by
    intro l
    have node : (Value.ofFields [("node", l.toValue)]).item "node" = .ok l.toValue := by
      simp [Value.ofFields, Value.item, Assoc.get?]
    have member : l.toValue.item "id" = .ok (.text (Gid.encode l.id)) := by
      simp [Line.toValue, Value.ofFields, Value.item, Assoc.get?]
    rw [node]
    show l.toValue.item "id" >>= Gid.decodeValue = _
    rw [member]
    exact Gid.decodeValue_encoded l.id
  simp only [lineIdsOf, lines, edges, bind, Except.bind, Value.elements]
  rw [List.map_map, List.mapM_map]
  exact Act.mapM_eq_ok fun l _ => each l

/-- The cart that an identifier names has no lines. -/
def NamesEmpty (v : Service) (id : Value) : Prop :=
  ∃ k c, Names id k ∧ v.client.network.shop.HasCart k c ∧ c.lines = []

/-- Where a cart cannot be emptied, an error was collected, unless the cart is there and has no
lines; then none was. -/
theorem emptyCart_eq_ok (hv : v.client.network.InShop hasFactory) {emptied : Bool}
    (h : Act.on (emptyCart id country) v = (.ok emptied, v')) :
    v.NamesEmpty id ∧ emptied = false ∧ v'.errors = v.errors ∨
      ¬ v.NamesEmpty id ∧ (emptied = false → v'.errors ≠ []) := by
  obtain ⟨w, v₁, read, h⟩ := Act.on_bind_eq_ok.1 h
  obtain ⟨sent, henc, -⟩ := Act.on_lift_bind_eq_ok.1 read
  obtain ⟨w', v₂, read', cases_⟩ := cart_cases hv henc country (.bool false)
  obtain ⟨hw, rfl⟩ := Prod.mk.inj (read.symm.trans read')
  obtain rfl := Except.ok.inj hw
  rcases cases_ with ⟨rfl, unknown⟩
    | ⟨same, k, c, named, hc, ⟨key, qs, hl, rfl⟩ | ⟨unread, error, rfl⟩⟩
  · -- No cart is read, and that was collected.
    obtain ⟨hemptied, rfl⟩ := Prod.mk.inj h
    refine .inr ⟨fun ⟨k, c, named, hc, _⟩ => unknown k c named hc, fun _ => ?_⟩
    exact cart_complains _ _ _ v _ v₁ hv read rfl
  · -- An identifier names one cart.
    have only : ∀ k' c', Names id k' → v.client.network.shop.HasCart k' c' → c' = c := by
      intro k' c' named' hc'
      obtain rfl := named.eq named'
      exact Entity.cart.inj (Option.some.inj (hc'.symm.trans hc))
    have truthy : (c.quoted key qs).toValue.truthy = true := rfl
    rw [truthy, if_neg (by simp), lineIdsOf_toValue, Act.on_bind_of_ok (Act.on_lift _ v₁)] at h
    have length : (c.quoted key qs).lines.length = c.lines.length := by
      simp [Cart.quoted, hl]
    -- The cart has no lines, as it was kept.
    split at h
    · rename_i none
      have lines : c.lines = [] := by
        rw [List.isEmpty_iff, List.map_eq_nil_iff] at none
        simpa [none] using length.symm
      obtain ⟨hemptied, rfl⟩ := Prod.mk.inj h
      exact .inl ⟨⟨k, c, named, hc, lines⟩, (Except.ok.inj hemptied).symm, same⟩
    · -- It has lines, and removing them was answered with nothing.
      rename_i some_
      refine .inr ⟨?_, fun hemptied => ?_⟩
      · rintro ⟨k', c', named', hc', none⟩
        obtain rfl := only k' c' named' hc'
        refine some_ ?_
        rw [List.isEmpty_iff, List.map_eq_nil_iff]
        exact List.eq_nil_of_length_eq_zero (by simpa [none] using length)
      · subst hemptied
        obtain ⟨r, v₂, removed, h⟩ := Act.on_bind_eq_ok.1 h
        obtain ⟨hnull, rfl⟩ := Prod.mk.inj h
        refine removeLines_complains _ _ v₁ r v₂ ((cart_carries _ _ _).of_on read hv) removed ?_
        cases r with
        | null => rfl
        | _ => cases hnull
  · -- A report of errors has no lines to be removed.
    cases h

/-- A cart without lines is not emptied, and nothing is collected. -/
theorem on_emptyCart_of_namesEmpty (hv : v.client.network.InShop hasFactory) {sent : Value}
    (henc : Gid.encodeValue id = .ok sent) (h : v.NamesEmpty id) (country : String) :
    ∃ v', Act.on (emptyCart id (.text country)) v = (.ok false, v') ∧ v'.errors = v.errors := by
  obtain ⟨k, c, named, hc, none⟩ := h
  -- Without lines the cart can be read in any market.
  have readIn : c.ReadIn (.text country) :=
    ⟨exists_countryFor c country, by simp [Cart.Countable, none]⟩
  obtain ⟨w, v₁, read, cases_⟩ := cart_cases hv henc (.text country) (.bool false)
  -- the cart is not known, which it is
  rcases cases_ with ⟨-, unknown⟩ | ⟨same, k', c', named', hc', ⟨key, qs, hl, rfl⟩ | ⟨unread, -⟩⟩
  · -- it was read, and has no line to remove
    exact absurd hc (unknown k c named)
  · obtain rfl := named.eq named'
    obtain rfl := Entity.cart.inj (Option.some.inj (hc'.symm.trans hc))
    have lines : (c'.quoted key qs).lines = [] := by simp [Cart.quoted, none]
    refine ⟨v₁, ?_, same⟩
    have truthy : (c'.quoted key qs).toValue.truthy = true := rfl
    rw [emptyCart, Act.on_bind_of_ok read, truthy, if_neg (by simp), lineIdsOf_toValue, lines,
      Act.on_bind_of_ok (Act.on_lift _ v₁)]
    rfl
  · -- it could not be read, which it can
    obtain rfl := named.eq named'
    obtain rfl := Entity.cart.inj (Option.some.inj (hc'.symm.trans hc))
    exact absurd readIn unread

end Service

namespace CommandLine

open Service

variable {hasFactory : Bool} {v v' : Service} {country : Value} {json : Bool} {outcome : Outcome}

/-- A command that fails does so without a word exactly if it is to empty a cart that has no lines,
and nothing was collected before. -/
theorem runCart_unexplained_iff (hv : v.client.network.InShop hasFactory) {action : CartAction}
    (hr : Act.on (runCart country json action) v = (.ok outcome, v')) (hcode : outcome.code ≠ 0) :
    ¬ outcome.Explained ↔ v.errors = [] ∧ ∃ id, action = .empty id ∧ v.NamesEmpty id := by
  -- The case split is on emptying: only there may a failure have nothing to tell.
  by_cases isEmpty : ∃ id, action = .empty id
  · obtain ⟨id, rfl⟩ := isEmpty
    obtain ⟨emptied, v₁, answered, hr⟩ := Act.on_bind_eq_ok.1 hr
    rcases emptyCart_eq_ok hv answered with ⟨none, rfl, same⟩ | ⟨some_, told⟩
    · rw [if_neg Bool.false_ne_true] at hr
      rw [explained_iff_of_failed hr, same, not_not]
      exact ⟨fun h => ⟨h, id, rfl, none⟩, fun h => h.1⟩
    · have explained : outcome.Explained := by
        cases emptied with
        | true =>
          exact explains_showCart _ _ _ v₁ outcome v'
            ((emptyCart_remains id country).of_on answered hv) hr hcode
        | false => exact (explained_iff_of_failed hr).2 (told rfl)
      refine iff_of_false (not_not.2 explained) ?_
      rintro ⟨-, id', same, named⟩
      obtain rfl := CartAction.empty.inj same
      exact some_ named
  · have explained := explains_runCart country json (fun id h => isEmpty ⟨id, h⟩) v outcome v' hv hr
      hcode
    exact iff_of_false (not_not.2 explained) fun ⟨_, id, h, _⟩ => isEmpty ⟨id, h⟩

/-! ### Command lines -/

/-- What the program does with a command line. -/
def perform (settings : Settings) (words : List Value) : Act Service Outcome :=
  match Command.read words with
  | .ok command => run settings command
  | .error refusal => liftM refusal.outcome

/-- The cart services that command lines lead to, over the router of a shop without entities at
first.  Each command may have a service of its own or share that of the command before. -/
inductive Commanded (settings : Settings) (hasFactory : Bool) : Service → Prop
  | start (context : Context) (supply : Supply) (level : LogLevel) : Commanded settings hasFactory
      (.new (.new (.new context supply) (.standard (factoryOf hasFactory)) .inProcess level) true)
  | command {v : Service} (h : Commanded settings hasFactory v) (words : List String) :
      Commanded settings hasFactory (Act.on (perform settings (words.map .text)) v).2
  | renew {v : Service} (h : Commanded settings hasFactory v) :
      Commanded settings hasFactory (.new v.client.network true)
  /-- Time passes, and chance does what it will. -/
  | passage {v : Service} (h : Commanded settings hasFactory v) (supply : Supply) :
      Commanded settings hasFactory { v with client := { v.client with network :=
        { v.client.network with shop := { v.client.network.shop with supply } } } }

/-- A command line that cannot be read does not reach the service. -/
theorem perform_remains (settings : Settings) (words : List Value) :
    Within (Remains hasFactory) (perform settings words) := by
  unfold perform
  split
  · rename_i command _
    match command with
    | .serve host port => exact .pure _
    | .cart country json action => exact runCart_remains country json action
  · exact .lift _

/-- Command lines leave the router of a shop that is reached. -/
theorem Commanded.inShop {settings : Settings} (h : Commanded settings hasFactory v) :
    v.client.network.InShop hasFactory := by
  induction h with
  | start context supply level => exact ⟨rfl, rfl, .new context supply⟩
  | command h words ih => exact perform_remains settings _ _ ih
  | renew h ih => exact ⟨ih.route, ih.router, ih.reached⟩
  | passage h supply ih => exact ⟨ih.route, ih.router, ih.reached.passage supply⟩

/-- Whatever command lines led to a service: one more that acts on a cart and ends with another code
than zero prints no line that tells of an error exactly if it is to empty a cart that is there and
has no lines, and nothing was collected before. -/
theorem Commanded.unexplained_iff {settings : Settings} (h : Commanded settings hasFactory v)
    {words : List String} {action : CartAction}
    (hread : Command.read (words.map .text) = .ok (.cart country json action))
    (hr : Act.on (perform settings (words.map .text)) v = (.ok outcome, v'))
    (hcode : outcome.code ≠ 0) :
    ¬ outcome.Explained ↔ v.errors = [] ∧ ∃ id, action = .empty id ∧ v.NamesEmpty id := by
  rw [perform, hread] at hr
  exact runCart_unexplained_iff h.inShop hr hcode

/-! ### A cart that cannot be emptied -/

/-- The command line that makes a cart. -/
def createWords : List String := ["cart", "create"]

/-- The command line that empties it. -/
def emptyWords : List String := ["cart", "empty", "gid://shopify/Cart/Cart-1"]

/-- A service over a shop without entities. -/
def beforehand : Service :=
  .new (.new (.new default (.fresh 0 0 [])) (.standard (factoryOf true)) .inProcess .normal) true

/-- The service after a cart was made. -/
def afterwards : Service := (Act.on (perform .standard (createWords.map .text)) beforehand).2

/-- One command line leads to `afterwards`. -/
theorem commanded_afterwards : Commanded .standard true afterwards :=
  .command (.start default (.fresh 0 0 []) .normal) createWords

/-- Whether a shop has a cart without lines under an identifier. -/
def hasEmptyCart (s : Shop) (k : String) : Bool :=
  match s.cart? k with
  | some (.made c) => c.lines.isEmpty
  | _ => false

/-- The test finds what `NamesEmpty` says. -/
theorem namesEmpty_of_hasEmptyCart {id : Value} {k : String} (named : Names id k)
    (found : hasEmptyCart v.client.network.shop k = true) : v.NamesEmpty id := by
  unfold hasEmptyCart at found
  split at found
  · rename_i c hc
    exact ⟨k, c, named, cart?_eq_made.1 hc, List.isEmpty_iff.1 found⟩
  · cases found

/-- The cart is made without lines, and nothing is collected. -/
theorem made_afterwards :
    hasEmptyCart afterwards.client.network.shop "gid://shopify/Cart/Cart-1" = true ∧
      afterwards.errors.isEmpty = true := by
  decide +kernel

/-- Nothing was collected. -/
theorem errors_afterwards : afterwards.errors = [] := List.isEmpty_iff.1 made_afterwards.2

/-- The identifier of the command line names the cart without lines. -/
theorem namesEmpty_afterwards : afterwards.NamesEmpty "gid://shopify/Cart/Cart-1" :=
  namesEmpty_of_hasEmptyCart ⟨rfl, by decide⟩ made_afterwards.1

/-- The command line is read as one that empties the cart. -/
theorem read_emptyWords : Command.read (emptyWords.map .text) =
    .ok (.cart (.text Market.home) false (.empty "gid://shopify/Cart/Cart-1")) := by rfl

/-- To empty the new cart fails. -/
theorem exists_on_emptyWords : ∃ v', Act.on (perform .standard (emptyWords.map .text)) afterwards =
    (.ok ⟨1, [], [], none⟩, v') := by
  have encodable : Gid.encodeValue "gid://shopify/Cart/Cart-1" =
      .ok (.text (Gid.encode "gid://shopify/Cart/Cart-1")) :=
    Gid.encodeValue_of_encodable (by decide +kernel)
  obtain ⟨v', kept, same⟩ := on_emptyCart_of_namesEmpty commanded_afterwards.inShop encodable
    namesEmpty_afterwards Market.home
  refine ⟨v', ?_⟩
  rw [perform, read_emptyWords]
  show Act.on (runCart _ _ (.empty _)) afterwards = _
  rw [runCart, Act.on_bind_of_ok kept, if_neg Bool.false_ne_true, on_failed, same,
    errors_afterwards]
  rfl

/-- The theorem applies to the cart of the sample, which is not emptied. -/
theorem Commanded.unexplained_iff_sample : ∃ outcome v',
    Commanded .standard true afterwards ∧
    Command.read (emptyWords.map .text) =
      .ok (.cart (.text Market.home) false (.empty "gid://shopify/Cart/Cart-1")) ∧
    Act.on (perform .standard (emptyWords.map .text)) afterwards = (.ok outcome, v') ∧
    outcome.code ≠ 0 ∧ ¬ outcome.Explained := by
  obtain ⟨v', failed⟩ := exists_on_emptyWords
  have code : (1 : Nat) ≠ 0 := by decide
  exact ⟨_, v', commanded_afterwards, read_emptyWords, failed, code,
    (commanded_afterwards.unexplained_iff read_emptyWords failed code).2
      ⟨errors_afterwards, _, rfl, namesEmpty_afterwards⟩⟩

/-- A command that fails may print nothing at all. -/
theorem silent_failure : ¬ ∀ (v v' : Service) (words : List String) (country : Value) (json : Bool)
    (action : CartAction) (outcome : Outcome), Commanded .standard true v →
    Command.read (words.map .text) = .ok (.cart country json action) →
    Act.on (perform .standard (words.map .text)) v = (.ok outcome, v') → outcome.code ≠ 0 →
    outcome.Explained := by
  intro explained
  obtain ⟨v', failed⟩ := exists_on_emptyWords
  obtain ⟨message, told⟩ := explained _ v' _ _ _ _ _ commanded_afterwards read_emptyWords failed
    (by decide)
  cases told

end CommandLine

end Storefront
