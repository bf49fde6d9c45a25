import Proximity.Systems.Run
import Proximity.Systems.Collection
import Proximity.Systems.Checks
import Proximity.Systems.RedisList
import Proximity.Systems.Tally
import Proximity.Systems.Decimal
import Proximity.Models.Account
import Proximity.Models.Catalogue
import Proximity.Models.Order
import Proximity.Dispatch.Places
import Proximity.Orders.Authorization
import Proximity.Accounts.Issuance
import Proximity.Accounts.Privilege
import Proximity.Accounts.Identity
import Proximity.Catalogue.Authorization
import Proximity.ResetPassword.Validity
import Proximity.Carts.Repricing
import Proximity.Carts.Units
import Proximity.Carts.Totals
import Proximity.Orders.Changes
import Proximity.Orders.Flags
import Proximity.Systems.Query
import Proximity.Orders.Listing
import Proximity.Orders.Tabs
import Proximity.Orders.Returns
import Proximity.Apps.ReturnScreen
import Proximity.Orders.Refunds
import Proximity.Orders.Creation
import Proximity.Carts.Bounds
import Proximity.Carts.Edits
import Proximity.Systems.Interleaving
import Proximity.Carts.Import
import Proximity.Carts.GuestCart
import Proximity.Models.Policy
import Proximity.Orders.PreOrder
import Proximity.Apps.Checkout
import Proximity.Apps.Modes
import Proximity.Orders.Placed
import Proximity.Apps.Encoders
import Proximity.Apps.OrderForms
import Proximity.Apps.Deposit
import Proximity.Orders.EffectivePolicy
import Proximity.Systems.Joi
import Proximity.Systems.Json
import Proximity.Apps.PolicyCodec
import Proximity.Apps.PolicyRoundTrip
import Proximity.Apps.PolicyAcceptance
import Proximity.Apps.PolicyForm
import Proximity.Catalogue.Links
import Proximity.Catalogue.LinkRuns
import Proximity.Catalogue.Discounts
import Proximity.Apps.CartBoxes
import Proximity.Apps.StoredCart
import Proximity.Carts.Agreement
import Proximity.Dispatch.Lifecycle
import Proximity.Catalogue.Statistics
import Proximity.Notifications.Service
import Proximity.Notifications.Independence
import Proximity.Orders.Atomicity
import Proximity.Catalogue.Ratings
import Proximity.Catalogue.Housing
import Proximity.Catalogue.Images
import Proximity.Systems.Files
import Proximity.Catalogue.PastImages
import Proximity.Catalogue.PartialUpdate
import Proximity.Systems.Binary64
import Proximity.Systems.DecimalText
import Proximity.Systems.JsonTokens
import Proximity.Systems.JsonParser
import Proximity.Systems.JsonTemplate
import Proximity.Systems.JsonNumbers
import Proximity.Apps.ProductForm
import Proximity.Apps.HandBuilt
import Proximity.Apps.AddressText
import Proximity.Systems.Rotation
import Proximity.Dispatch.Alone
import Proximity.Dispatch.Waiting
import Proximity.Systems.FirstLeast
import Proximity.Dispatch.Nearest
import Proximity.Carts.Distinct
import Proximity.Orders.PreOrderCheck
import Proximity.Orders.Ordering
import Proximity.Orders.Recipients
import Proximity.Carts.Pruning
import Proximity.Carts.Payable
import Proximity.Systems.Pointwise
import Proximity.Categories.Service
import Proximity.Categories.Creation
import Proximity.Categories.Selection
import Proximity.Apps.Contacts
import Proximity.Apps.DeliveryPrice
import Proximity.Apps.CartChecks
import Proximity.Apps.ProductOptions
import Proximity.Apps.ProductKind
import Proximity.Systems.JsonEncoder
import Proximity.Apps.WorkingTime
import Proximity.Apps.StoreForm
import Proximity.Apps.CategoryProducts
import Proximity.Apps.FormEncoding
import Proximity.Systems.Totals
import Proximity.Apps.StoreRevenue
import Proximity.Systems.Calendar
import Proximity.Catalogue.Views
import Proximity.Catalogue.ViewPeriods
import Proximity.Catalogue.ViewReports
import Proximity.Apps.VariantFilter
import Proximity.Systems.Paging
import Proximity.Catalogue.Search
import Proximity.Catalogue.SearchPages
import Proximity.Systems.Walk
import Proximity.Systems.Slices
import Proximity.Systems.Grouped
import Proximity.Systems.Meeting
import Proximity.Routing.DynamicGraph
import Proximity.Routing.Multigraph
import Proximity.Routing.QueryHeap
import Proximity.Routing.ContractorSearch
import Proximity.Routing.ContractNode
import Proximity.Routing.ContractGraph
import Proximity.Routing.Contractible
import Proximity.Routing.Permutation
import Proximity.Routing.Renumber
import Proximity.Routing.RenumberGraph
import Proximity.Routing.Runs
import Proximity.Routing.ContractLoop
import Proximity.Routing.GraphContractorAdaptors
import Proximity.Routing.Hierarchy
import Proximity.Routing.Progress
import Proximity.Routing.StaticGraph
import Proximity.Routing.QueryGraph
import Proximity.Routing.ChSearch
import Proximity.Routing.ChSearchRules
import Proximity.Routing.ChSearchInvariant
import Proximity.Routing.ChSearchFailures
import Proximity.Routing.ChSearchExact
import Proximity.Routing.ChRoute
import Proximity.Routing.Unpacking
import Proximity.Routing.ShortestRoute
