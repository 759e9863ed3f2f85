import Storefront.Client

/-! # Services

A service asks one interface of a shop for one kind of thing and collects what went wrong. -/

namespace Storefront

/-- A service: its client and the errors that it collected. -/
structure Service where
  client : Client
  errors : List Value

namespace Service

/-- A service of one interface that has not asked for anything. -/
def new (network : Network) (storefront : Bool) : Service := ⟨Client.new network storefront, []⟩

/-- Acts on the client. -/
def inClient {α : Type} (act : Act Client α) : Act Service α :=
  Act.onPart Service.client (fun c s => { s with client := c }) act

/-- Acts on the network. -/
def inNetwork {α : Type} (act : Act Network α) : Act Service α := inClient (Client.inNetwork act)

/-- Sends a document; the answer is null if that failed. -/
def ask (document : String) (vars : Value) : Act Service Value :=
  inClient (Client.ask document vars)

/-- Collects errors. -/
def collect (errors : List Value) : Act Service Unit :=
  modify fun s => { s with errors := s.errors ++ errors }

end Service
end Storefront
