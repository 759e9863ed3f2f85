import Storefront.Proofs.Dispatch

/-! # What a mutation answers with

Whoever asks for a mutation reads its payload: the member that shows what was done, and the errors.
The payload is made in three places.  A handler of carts shows what the engine gave, or reports that
it gave nothing; a handler of groups reports what was rejected; the router reports all other faults,
and then the member is missing.  Wherever it was made, errors are reported exactly if nothing is
shown. -/

namespace Storefront.Shop

/-- Whatever shop, document and variables: where the document asks for a mutation, dispatching it
fails, because it cannot be read or no identifier is left, or it is answered with a payload that
either shows a result or lists errors. -/
theorem Reachable.mutation_settled {s : Shop} (h : Reachable s) (hasFactory : Bool)
    {document : Option String} {o : Operation} {result : String} (ho : o.result? = some result)
    (hs : Document.signature? document = some o.signature) (vars : Value) :
    let outcome := (Act.on ((Router.standard (factoryOf hasFactory)).dispatch document vars) s).1
    (∃ fault, outcome = .error fault ∧
      (Document.parse document vars = .error fault ∨ fault = .exhausted)) ∨
    ∃ root payload, outcome = .ok (some (.ofFields [(root, payload)])) ∧
      payload.Settled result := by
  intro outcome
  cases hp : Document.parse document (vars.orElse (.record [])) with
  | error fault =>
    have unread : outcome = .error fault := congrArg Prod.fst (Router.on_dispatch_of_error hp s)
    rw [parse_orElse] at hp
    exact .inl ⟨fault, unread, .inl hp⟩
  | ok p =>
    -- Nothing is asked of the variables here, nor of the name that a fault is answered under.
    have dispatched := Router.dispatch_gives (factoryOf_cases hasFactory) (fit_false _) hp hs
      o.ofSignature?_signature (fun h => h.elim) (fun h => h.elim) h.kept
    rcases dispatched.2 with exhausted | ⟨v, answered, reply⟩
    · exact .inl ⟨.exhausted, exhausted, .inr rfl⟩
    · obtain ⟨root, payload, rfl, settled⟩ := reply.exists_settled ho
      exact .inr ⟨root, payload, answered, settled⟩

/-- Variables that ask for two attributes of the cart of the sample. -/
def sampleRows : Value :=
  .ofFields [("cartId", sampleId), ("attributes", .list [
    .ofFields [("key", "Gift"), ("value", "yes")], .ofFields [("key", "Card"), ("value", "no")]])]

/-- In the sample shop, one attribute is set after the other, and the cart is shown after
the last. -/
theorem Reachable.mutation_settled_sample :
    let document := some (Operation.cartAttributesUpdate.document "")
    let outcome := (Act.on ((Router.standard (factoryOf false)).dispatch document sampleRows)
      sample).1
    Reachable sample ∧ Operation.cartAttributesUpdate.result? = some "cart" ∧
      Document.signature? document = some Operation.cartAttributesUpdate.signature ∧
      ((∃ fault, outcome = .error fault ∧
        (Document.parse document sampleRows = .error fault ∨ fault = .exhausted)) ∨
      ∃ root payload, outcome = .ok (some (.ofFields [(root, payload)])) ∧
        payload.Settled "cart") := by
  have asked := (Operation.cartAttributesUpdate.isFor_document "").signature
  exact ⟨reachable_sample, rfl, asked,
    reachable_sample.mutation_settled false (o := .cartAttributesUpdate) rfl asked sampleRows⟩

end Storefront.Shop
