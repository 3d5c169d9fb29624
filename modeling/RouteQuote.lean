import RouteQuote.Abi.Codec
import RouteQuote.Abi.Router
import RouteQuote.Address
import RouteQuote.Amount
import RouteQuote.Binary64
import RouteQuote.Chain
import RouteQuote.CommandLine.Grammar
import RouteQuote.CommandLine.Run
import RouteQuote.CommandLine.Usage
import RouteQuote.Environment
import RouteQuote.Error
import RouteQuote.Hash.Keccak
import RouteQuote.Http.Message
import RouteQuote.Http.Service
import RouteQuote.Input
import RouteQuote.Json.Forms
import RouteQuote.Json.Reader
import RouteQuote.Json.Record
import RouteQuote.Json.Value
import RouteQuote.Keyed
import RouteQuote.Log
import RouteQuote.Main
import RouteQuote.Proofs.Abi.Extension
import RouteQuote.Proofs.Abi.Lengths
import RouteQuote.Proofs.Abi.Parts
import RouteQuote.Proofs.Abi.RoundTrip
import RouteQuote.Proofs.Abi.Truncation
import RouteQuote.Proofs.Abi.Words
import RouteQuote.Proofs.Address.Digits
import RouteQuote.Proofs.Amount.Numerals
import RouteQuote.Proofs.Chain.Registry
import RouteQuote.Proofs.FirstFault
import RouteQuote.Proofs.Http.ChainList
import RouteQuote.Proofs.Http.Quotes
import RouteQuote.Proofs.Input.Addresses
import RouteQuote.Proofs.Input.Amounts
import RouteQuote.Proofs.Input.ChainLists
import RouteQuote.Proofs.Json.Acceptance
import RouteQuote.Proofs.Json.Amounts
import RouteQuote.Proofs.Json.Arrays
import RouteQuote.Proofs.Json.Declared
import RouteQuote.Proofs.Json.Forms
import RouteQuote.Proofs.Json.Grammar
import RouteQuote.Proofs.Json.Layout
import RouteQuote.Proofs.Json.Numbers
import RouteQuote.Proofs.Json.QuoteText
import RouteQuote.Proofs.Json.Records
import RouteQuote.Proofs.Json.Scalars
import RouteQuote.Proofs.Json.Scan
import RouteQuote.Proofs.Json.Skipped
import RouteQuote.Proofs.Json.Strings
import RouteQuote.Proofs.Json.Unambiguity
import RouteQuote.Proofs.Keyed
import RouteQuote.Proofs.Router.Exchange
import RouteQuote.Proofs.Router.Replies
import RouteQuote.Proofs.Router.Requests
import RouteQuote.Proofs.Sdk.Adjustment
import RouteQuote.Proofs.Sdk.BestRoute
import RouteQuote.Proofs.Sdk.BridgeCourse
import RouteQuote.Proofs.Sdk.BridgeQuote
import RouteQuote.Proofs.Sdk.Deposit
import RouteQuote.Proofs.Sdk.NativeToken
import RouteQuote.Proofs.Sdk.Operation
import RouteQuote.Proofs.Sdk.QuoteShape
import RouteQuote.Proofs.Sdk.Transactions
import RouteQuote.Proofs.Sdk.Unroutable
import RouteQuote.Proofs.Sdk.Withdrawal
import RouteQuote.Proofs.Settings.BlankVariables
import RouteQuote.Proofs.Settings.ChainSpellings
import RouteQuote.Proofs.Settings.Connect
import RouteQuote.Proofs.Settings.Documents
import RouteQuote.Proofs.Settings.Layers
import RouteQuote.Proofs.Settings.Load
import RouteQuote.Proofs.Settings.Precedence
import RouteQuote.Proofs.Settings.Values
import RouteQuote.Proofs.Text.Bytes
import RouteQuote.Proofs.Text.Words
import RouteQuote.Router.Plan
import RouteQuote.Router.Read
import RouteQuote.Router.Rpc
import RouteQuote.Router.Script
import RouteQuote.Sdk.Basic
import RouteQuote.Sdk.Operation
import RouteQuote.Sdk.Quotes
import RouteQuote.Settings.Basic
import RouteQuote.Settings.Convert
import RouteQuote.Settings.Load
import RouteQuote.Settings.Node
import RouteQuote.Text.Basic
import RouteQuote.Text.Bytes
import RouteQuote.Text.Lowercase
import RouteQuote.Text.Printing
import RouteQuote.Toml
import RouteQuote.Url
