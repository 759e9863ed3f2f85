import Storefront.LineInput

/-! # Connections to a shop

A `Context` says where a shop is and how to identify oneself to it; `endpointUrl` and `headers` are
what a request to one of its two interfaces needs. -/

namespace Storefront

/-- Where a shop is, and the tokens to identify oneself with.  Its members may be set to anything
after it has been checked. -/
structure Context where
  shopBaseUrl : Value
  apiVersion : Value
  storefrontAccessToken : Value
  accessToken : Value
  /-- The address that all requests go to, if it is not derived from the others. -/
  graphqlUrl : Value
  deriving Inhabited

namespace Context

/-- The version that is used unless another is asked for. -/
def defaultVersion : String := "2023-01"

/-- Checks the members of a context. -/
def check (fields : List (Key × Value)) : Except Fault Context := do
  let fields ← Checked.members fields
  Checked.orFault <|
    Checked.both (fun (base, version) (storefront, access, url) =>
        { shopBaseUrl := .text base
          apiVersion := .text version
          storefrontAccessToken := Value.ofText? storefront
          accessToken := Value.ofText? access
          graphqlUrl := Value.ofText? url })
      (Checked.both Prod.mk (Checked.field fields "shop_base_url" Checked.text none)
        (Checked.field fields "api_version" Checked.text (some defaultVersion)))
      (Checked.both (fun storefront (access, url) => (storefront, access, url))
        (Checked.field fields "storefront_access_token" Checked.text? (some none))
        (Checked.both Prod.mk (Checked.field fields "access_token" Checked.text? (some none))
          (Checked.field fields "graphql_url" Checked.text? (some none))))

/-- A context as a record. -/
def toValue (c : Context) : Value :=
  .ofFields [("shop_base_url", c.shopBaseUrl), ("api_version", c.apiVersion),
    ("storefront_access_token", c.storefrontAccessToken), ("access_token", c.accessToken),
    ("graphql_url", c.graphqlUrl)]

/-- The context with one member set, unless it has no such member. -/
def set? (c : Context) (name : String) (v : Value) : Option Context :=
  match name with
  | "shop_base_url" => some { c with shopBaseUrl := v }
  | "api_version" => some { c with apiVersion := v }
  | "storefront_access_token" => some { c with storefrontAccessToken := v }
  | "access_token" => some { c with accessToken := v }
  | "graphql_url" => some { c with graphqlUrl := v }
  | _ => none

/-- The address of an interface of the shop: the one for customers, or the one for its owner. -/
def endpointUrl (c : Context) (storefront : Bool) : Value :=
  if c.graphqlUrl.truthy then c.graphqlUrl
  else .text ("https://" ++ c.shopBaseUrl.display ++ (if storefront then "" else "/admin") ++
    "/api/" ++ c.apiVersion.display ++ "/graphql.json")

/-- The headers of a request to an interface of the shop. -/
def headers (c : Context) (storefront : Bool) : List (String × Value) :=
  [("Content-Type", .text "application/json"),
    if storefront then ("X-Shopify-Storefront-Access-Token", c.storefrontAccessToken.orElse "")
    else ("X-Shopify-Access-Token", c.accessToken.orElse "")]

end Context
end Storefront
