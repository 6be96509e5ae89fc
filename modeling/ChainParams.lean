import ChainParams.Main
import ChainParams.FileTree
import ChainParams.PooledTransaction
import ChainParams.Json.Form
import ChainParams.Proofs.History
import ChainParams.Proofs.KeyRemapping
import ChainParams.Proofs.EnrollmentOrder
import ChainParams.Proofs.CompactNormalForm
import ChainParams.Proofs.CompactFloor
import ChainParams.Proofs.CompactExact
import ChainParams.Proofs.CompactCanonical
import ChainParams.Proofs.CompactOrder
import ChainParams.Proofs.WindowBounds
import ChainParams.Proofs.WindowArithmetic
import ChainParams.Proofs.Clamping
import ChainParams.Proofs.RuleOrder
import ChainParams.Proofs.Inheritance
import ChainParams.Proofs.KnownNetworks
import ChainParams.Proofs.RegistrationOrder
import ChainParams.Proofs.NameLookup
import ChainParams.Proofs.HexText
import ChainParams.Proofs.Numeral
import ChainParams.Proofs.HashText
import ChainParams.Proofs.HashOrder
import ChainParams.Proofs.JsonText
import ChainParams.Proofs.CalendarDays
import ChainParams.Proofs.TimestampText
import ChainParams.Proofs.DataForms
import ChainParams.Proofs.ToolAnswers
import ChainParams.Proofs.JsonForms
import ChainParams.Proofs.ByteText
import ChainParams.Proofs.WordText
import ChainParams.Proofs.SummaryText
import ChainParams.Proofs.OptionPlacement
