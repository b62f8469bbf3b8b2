import LightningDeposit.World
import LightningDeposit.Proofs.Binary64.Rounding
import LightningDeposit.Proofs.Binary64.Value
import LightningDeposit.Proofs.Rate.Pricing
import LightningDeposit.Proofs.Rate.Accuracy
import LightningDeposit.Proofs.Json.Literal
import LightningDeposit.Proofs.Json.RoundTrip
import LightningDeposit.Proofs.Rate.Lookup
import LightningDeposit.Proofs.Client.Call
import LightningDeposit.Proofs.Invoice.Amount
import LightningDeposit.Proofs.Invoice.Charged
import LightningDeposit.Proofs.Charge.Shape
import LightningDeposit.Proofs.Invoice.Settlement
import LightningDeposit.Proofs.Stream.Polling
import LightningDeposit.Proofs.Stream.Run
import LightningDeposit.Proofs.Stream.Closing
import LightningDeposit.Proofs.Stream.Delivery
import LightningDeposit.Proofs.Stream.Counting
import LightningDeposit.Proofs.World.Session
import LightningDeposit.Proofs.World.OpenStreams
import LightningDeposit.Proofs.World.Cancelling
import LightningDeposit.Proofs.Rate.Written
import LightningDeposit.Proofs.World.Refreshing
import LightningDeposit.Proofs.Url.Percent
import LightningDeposit.Proofs.Url.Path
import LightningDeposit.Proofs.Client.ChargeAddress
import LightningDeposit.Proofs.Backend.Setup
import LightningDeposit.Proofs.Wire.RoundTrip
import LightningDeposit.Proofs.Backend.Success
import LightningDeposit.Proofs.Client.Origin
import LightningDeposit.Proofs.Backend.Secrecy
import LightningDeposit.Proofs.World.Dialogue
import LightningDeposit.Proofs.World.Secrecy
import LightningDeposit.Proofs.World.Traffic
import LightningDeposit.Proofs.World.Failures
import LightningDeposit.Proofs.Binary64.Monotone
import LightningDeposit.Proofs.Rate.Monotone
import LightningDeposit.Proofs.Stream.Turns
import LightningDeposit.Proofs.World.CancelledWaits
import LightningDeposit.Proofs.Client.Verdict
import LightningDeposit.Proofs.Text.Strip
import LightningDeposit.Proofs.Json.Word
import LightningDeposit.Proofs.Backend.Balance
import LightningDeposit.Proofs.Settings.Overlay
import LightningDeposit.Proofs.Stream.Adapter
import LightningDeposit.Proofs.World.AdaptedStreams
import LightningDeposit.Proofs.Json.Spelling
import LightningDeposit.Proofs.Json.Lexing
import LightningDeposit.Proofs.Json.Grammar
import LightningDeposit.Proofs.Charge.Words
import LightningDeposit.Proofs.Wire.WalletBalance
import LightningDeposit.Proofs.Json.Members
import LightningDeposit.Proofs.Settings.Defaults
import LightningDeposit.Proofs.Json.Layout
import LightningDeposit.Proofs.Json.Growth
import LightningDeposit.Proofs.Wire.Additions
import LightningDeposit.Proofs.Backend.Satoshis
import LightningDeposit.Proofs.Text.Utf8Forms
import LightningDeposit.Proofs.Stream.CheckingId
import LightningDeposit.Proofs.Text.Case
import LightningDeposit.Proofs.Currency.Words
