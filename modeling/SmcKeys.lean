import SmcKeys.Bench.Callers
import SmcKeys.Bench.Clients
import SmcKeys.Main
import SmcKeys.Proofs.ClientWalk
import SmcKeys.Proofs.Codec
import SmcKeys.Proofs.Notice
import SmcKeys.Proofs.Request
import SmcKeys.Proofs.Binding
import SmcKeys.Proofs.Freshness
import SmcKeys.Proofs.Calls
import SmcKeys.Proofs.WriteGate
import SmcKeys.Proofs.Alone
import SmcKeys.Proofs.Bank
import SmcKeys.Proofs.Transparency
import SmcKeys.Proofs.RoundTrip
import SmcKeys.Proofs.WireForm
import SmcKeys.Proofs.CacheEffect
import SmcKeys.Proofs.WrittenSize
import SmcKeys.Proofs.CallOrder
import SmcKeys.Proofs.StatusPairs
import SmcKeys.Proofs.Economy
import SmcKeys.Proofs.Mirror
import SmcKeys.Proofs.LastError
import SmcKeys.Proofs.ReadBack
import SmcKeys.Proofs.CommandFailures
import SmcKeys.Proofs.Ledger
import SmcKeys.Proofs.UsageErrors
import SmcKeys.Proofs.DataInvalid
import SmcKeys.Proofs.ReadBuffer
import SmcKeys.Proofs.Likeness
import SmcKeys.Proofs.Boundary
import SmcKeys.Proofs.Dealings
import SmcKeys.Proofs.WriteSteps
import SmcKeys.Proofs.OutcomeLaw
import SmcKeys.Proofs.Ascii
import SmcKeys.Proofs.HexDigits
import SmcKeys.Proofs.SessionRoundTrip
import SmcKeys.Proofs.History
import SmcKeys.Proofs.Accounting
import SmcKeys.Proofs.WriteBack
import SmcKeys.Proofs.WritePipeline
import SmcKeys.Proofs.CodeText
import SmcKeys.Proofs.CodeOrder
import SmcKeys.Proofs.HexGrammar
import SmcKeys.Proofs.Terminators
import SmcKeys.Proofs.JsonObject
import SmcKeys.Proofs.Unambiguity
import SmcKeys.Proofs.Custody
