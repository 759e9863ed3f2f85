import Storefront.Context
import Storefront.Log

/-! # Settings

What the environment determines: the shop to talk to, how long to wait for it, and how much to
record. -/

namespace Storefront

/-- The settings of a client. -/
structure Settings where
  shopBaseUrl : String
  apiVersion : String
  storefrontAccessToken : String
  accessToken : String
  graphqlUrl : String
  /-- How many seconds to wait for an answer. -/
  timeout : Float
  logLevel : String

namespace Settings

/-- The settings of an empty environment. -/
def standard : Settings := ⟨"mock.myshopify.com", Context.defaultVersion, "", "", "", 30, "normal"⟩

/-- The names of the variables that the settings are read from. -/
def vars : List String :=
  ["SHOPIFY_SHOP_BASE_URL", "SHOPIFY_API_VERSION", "SHOPIFY_STOREFRONT_ACCESS_TOKEN",
    "SHOPIFY_ACCESS_TOKEN", "SHOPIFY_GRAPHQL_URL", "SHOPIFY_HTTP_TIMEOUT", "SHOPIFY_LOG_LEVEL"]

/-- The settings of an environment. -/
def ofEnvironment (lookUp : String → Option String) : Except Fault Settings := do
  let timeout ← match lookUp "SHOPIFY_HTTP_TIMEOUT" with
    | none => pure standard.timeout
    | some s => (Value.text s).realNumber
  return {
    shopBaseUrl := (lookUp "SHOPIFY_SHOP_BASE_URL").getD standard.shopBaseUrl
    apiVersion := (lookUp "SHOPIFY_API_VERSION").getD standard.apiVersion
    storefrontAccessToken := (lookUp "SHOPIFY_STOREFRONT_ACCESS_TOKEN").getD ""
    accessToken := (lookUp "SHOPIFY_ACCESS_TOKEN").getD ""
    graphqlUrl := (lookUp "SHOPIFY_GRAPHQL_URL").getD ""
    timeout
    logLevel := Text.lower ((lookUp "SHOPIFY_LOG_LEVEL").getD standard.logLevel) }

/-- A text, or null if it is empty. -/
def nonempty (s : String) : Value := if s = "" then .null else .text s

/-- The shop that the settings name. -/
def context (s : Settings) : Context :=
  { shopBaseUrl := s.shopBaseUrl
    apiVersion := s.apiVersion
    storefrontAccessToken := nonempty s.storefrontAccessToken
    accessToken := nonempty s.accessToken
    graphqlUrl := nonempty s.graphqlUrl }

/-- How much the settings ask to be recorded. -/
def level (s : Settings) : LogLevel := LogLevel.ofName s.logLevel

/-- The settings as a record, each under the name of its variable. -/
def toValue (s : Settings) : Value :=
  .ofFields [("SHOPIFY_SHOP_BASE_URL", s.shopBaseUrl), ("SHOPIFY_API_VERSION", s.apiVersion),
    ("SHOPIFY_STOREFRONT_ACCESS_TOKEN", s.storefrontAccessToken),
    ("SHOPIFY_ACCESS_TOKEN", s.accessToken), ("SHOPIFY_GRAPHQL_URL", s.graphqlUrl),
    ("SHOPIFY_HTTP_TIMEOUT", .float s.timeout), ("SHOPIFY_LOG_LEVEL", s.logLevel)]

end Settings
end Storefront
