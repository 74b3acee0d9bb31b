import AccountAbstraction.Js.Json
import AccountAbstraction.Js.OrderedMap
import AccountAbstraction.Js.Hex
import AccountAbstraction.Run
import AccountAbstraction.Js.BigInt
import AccountAbstraction.Abi
import AccountAbstraction.Ethers
import AccountAbstraction.Bundler.Rpc
import AccountAbstraction.Bundler.Simulation
import AccountAbstraction.Bundler.State
import AccountAbstraction.Bundler.Lookup
import AccountAbstraction.Bundler.Invariant
import AccountAbstraction.Bundler.Lifecycle
import AccountAbstraction.Bundler.Duplicates
import AccountAbstraction.Bundler.Outcome
import AccountAbstraction.Bundler.Acceptance
import AccountAbstraction.Bundler.Attribution
import AccountAbstraction.Bundler.Isolation
import AccountAbstraction.Proxy.HandleBundler
import AccountAbstraction.Proxy.Admission
import AccountAbstraction.Proxy.Refinement
import AccountAbstraction.Contracts.Evm
import AccountAbstraction.Contracts.Paymaster
import AccountAbstraction.Contracts.Sponsorship
import AccountAbstraction.Contracts.Account
import AccountAbstraction.Contracts.Calls
import AccountAbstraction.Contracts.Authorization
import AccountAbstraction.Contracts.Factory
import AccountAbstraction.Proxy.UserOpLog
import AccountAbstraction.Client.UserOp
import AccountAbstraction.Client.Agreement
import AccountAbstraction.Js.Text
import AccountAbstraction.Js.Base64
import AccountAbstraction.Js.Number
import AccountAbstraction.Js.JsonParse
import AccountAbstraction.Auth.Cookie
import AccountAbstraction.Auth.Keys
import AccountAbstraction.Auth.Privy
import AccountAbstraction.Auth.Refetch
import AccountAbstraction.Client.Session
import AccountAbstraction.Bundler.Gate
import AccountAbstraction.Contracts.Batch
import AccountAbstraction.Contracts.Verdict
import AccountAbstraction.Failure
import AccountAbstraction.Newest
import AccountAbstraction.Proxy.FailsClosed
import AccountAbstraction.Proxy.WriteLog
import AccountAbstraction.Auth.Rejection
import AccountAbstraction.Proxy.HandleSession
import AccountAbstraction.Proxy.LogIndependence
import AccountAbstraction.Proxy.Receipt
import AccountAbstraction.Auth.CookieRoundTrip
import AccountAbstraction.Bundler.RoundTrip
import AccountAbstraction.Bundler.Estimate
import AccountAbstraction.Client.GasLimits
import AccountAbstraction.Bundler.Soundness
import AccountAbstraction.Bundler.Body
import AccountAbstraction.Client.RevertData
import AccountAbstraction.Js.Url
import AccountAbstraction.Proxy.History
import AccountAbstraction.Abi.Signature
import AccountAbstraction.Bundler.Keycloak
import AccountAbstraction.Proxy.InnerCalls
import AccountAbstraction.Proxy.Guards
import AccountAbstraction.Proxy.Backend
import AccountAbstraction.Proxy.Authority
import AccountAbstraction.Proxy.SignedWrites
import AccountAbstraction.Proxy.Ledger
import AccountAbstraction.Proxy.Serving
import AccountAbstraction.Proxy.Rows
import AccountAbstraction.Batches
import AccountAbstraction.Bundler.Fairness
import AccountAbstraction.Outline
import AccountAbstraction.Js.Legible
import AccountAbstraction.Js.Shape
import AccountAbstraction.Proxy.Wire
import AccountAbstraction.Js.Ascii
import AccountAbstraction.Client.Delivery
import AccountAbstraction.Client.Send
