import BearerGate.Hook.Standard
import BearerGate.Hook.Tap
import BearerGate.Keys.HealthDesk
import BearerGate.Main
import BearerGate.Proofs.Auth.Onward
import BearerGate.Proofs.Bag.Report
import BearerGate.Proofs.Hook.Nesting
import BearerGate.Proofs.Keys.HealthChecks
import BearerGate.Proofs.Keys.Lifetime
import BearerGate.Proofs.Keys.Published
import BearerGate.Proofs.Keys.SideBySide
import BearerGate.Proofs.Keys.Unusable
import BearerGate.Proofs.Metrics.Series
import BearerGate.Proofs.Rpc.Body
import BearerGate.Proofs.Rpc.Route
import BearerGate.Proofs.Server.Accounts
import BearerGate.Proofs.Server.Conservation
import BearerGate.Proofs.Server.Health
import BearerGate.Proofs.Server.InStep
import BearerGate.Proofs.Server.Lifecycle
import BearerGate.Proofs.Server.Likeness
import BearerGate.Proofs.Server.Refusal
import BearerGate.Proofs.Server.UsualStages
import BearerGate.Proofs.Settings.KeyEndpoint
import BearerGate.Proofs.Settings.Padding
import BearerGate.Proofs.Token.Accounting
import BearerGate.Proofs.Token.Backing
import BearerGate.Proofs.Token.Forward
import BearerGate.Proofs.Token.InForce
import BearerGate.Proofs.Token.Permissions
import BearerGate.Proofs.Token.Spellings
import BearerGate.Server.Greeter
import BearerGate.Server.Handlers
import BearerGate.Server.Internal
import BearerGate.Server.Router
import BearerGate.Token.Traffic
