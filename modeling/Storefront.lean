import Storefront.Main
import Storefront.Service.CurrentCart
import Storefront.Service.Groups
import Storefront.Proofs.Act
import Storefront.Proofs.Gid
import Storefront.Proofs.Step
import Storefront.Proofs.SideSteps
import Storefront.Proofs.CartSteps
import Storefront.Proofs.Pricing
import Storefront.Proofs.Requests
import Storefront.Proofs.Coherent
import Storefront.Proofs.Records
import Storefront.Proofs.Commit
import Storefront.Proofs.Rejections
import Storefront.Proofs.Costs
import Storefront.Proofs.Failures
import Storefront.Proofs.Outcomes
import Storefront.Proofs.Lines
import Storefront.Proofs.TwoLevel
import Storefront.Proofs.ReadBack
import Storefront.Proofs.Sendable
import Storefront.Proofs.Clean
import Storefront.Proofs.ActionSpec
import Storefront.Proofs.Magnitude
import Storefront.Proofs.StoreInvariant
import Storefront.Proofs.SideOperationSpec
import Storefront.Proofs.CartOperationSpec
import Storefront.Proofs.AnswerSpec
import Storefront.Proofs.Documents
import Storefront.Proofs.Dispatch
import Storefront.Proofs.Asking
import Storefront.Proofs.Encoded
import Storefront.Proofs.EditFollows
import Storefront.Proofs.CartCalls
import Storefront.Proofs.CleanRequests
import Storefront.Proofs.Interchange
import Storefront.Proofs.ServiceCalls
import Storefront.Proofs.EitherWay
import Storefront.Proofs.Links
import Storefront.Proofs.PlanLinks
import Storefront.Proofs.Interrupted
import Storefront.Proofs.LeftBehind
import Storefront.Proofs.CartReads
import Storefront.Proofs.Reviving
import Storefront.Proofs.Naming
import Storefront.Proofs.Noninterference
import Storefront.Proofs.Rereading
import Storefront.Proofs.Payloads
import Storefront.Proofs.SideBySide
import Storefront.Proofs.Commuting
import Storefront.Proofs.Remembering
import Storefront.Proofs.Scripted
import Storefront.Proofs.Resetting
import Storefront.Proofs.Silence
import Storefront.Proofs.Codec
import Storefront.Proofs.Endless
import Storefront.Proofs.GroupViews
import Storefront.Proofs.GroupReads
import Storefront.Proofs.GroupOrder
import Storefront.Proofs.Paging
import Storefront.Proofs.InShop
import Storefront.Proofs.Commands
import Storefront.Proofs.GroupMaking
import Storefront.Proofs.CatalogueNames
import Storefront.Proofs.PreOrders
import Storefront.Proofs.Overflow
import Storefront.Proofs.Batches
import Storefront.Proofs.Portions
import Storefront.Proofs.Relining
import Storefront.Proofs.Additions
import Storefront.Proofs.Updates
import Storefront.Proofs.Removals
import Storefront.Proofs.Emptying
import Storefront.Proofs.AttributeFrame
import Storefront.Proofs.Attributes
import Storefront.Proofs.TwoViews
import Storefront.Proofs.Joins
import Storefront.Proofs.LinkFrame
import Storefront.Proofs.Attachments
import Storefront.Proofs.Nesting
import Storefront.Proofs.Replies
import Storefront.Proofs.Directives
import Storefront.Proofs.Selections
import Storefront.Proofs.Literals
import Storefront.Proofs.LineAttributes
import Storefront.Proofs.LinkSets
import Storefront.Proofs.Amounts
import Storefront.Proofs.LineViews
import Storefront.Proofs.PlanRecords
import Storefront.Proofs.CartDates
import Storefront.Proofs.Tokens
import Storefront.Proofs.Bodiless
import Storefront.Proofs.Formatting
import Storefront.Proofs.StoreHistory
