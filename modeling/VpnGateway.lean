import VpnGateway.Text.Lowercase
import VpnGateway.Text.Quoted
import VpnGateway.Text.Digit
import VpnGateway.Text.Numeral
import VpnGateway.Text.Hex
import VpnGateway.Text.Utf8
import VpnGateway.Text.CommaList
import VpnGateway.Text.Blank
import VpnGateway.Text.Terminal
import VpnGateway.Hostname
import VpnGateway.Network
import VpnGateway.Duration.Words
import VpnGateway.Credential
import VpnGateway.Rule.Apply
import VpnGateway.Provider.Vpn
import VpnGateway.Provider.Resolver
import VpnGateway.Provider.Cyberghost
import VpnGateway.Setting.Key
import VpnGateway.Error
import VpnGateway.Log.Filter
import VpnGateway.Log.Layout
import VpnGateway.File.Tree
import VpnGateway.Reading.Alias
import VpnGateway.Settings.Read
import VpnGateway.Settings.Document
import VpnGateway.Settings.Report
import VpnGateway.Settings.Outline
import VpnGateway.Diagnosis
import VpnGateway.CommandLine.Program
import VpnGateway.Main
import VpnGateway.Proofs.Pem
import VpnGateway.Proofs.Address
import VpnGateway.Proofs.CommaLists
import VpnGateway.Proofs.Duration
import VpnGateway.Proofs.Verdict
import VpnGateway.Proofs.Reading
import VpnGateway.Proofs.CredentialBytes
import VpnGateway.Proofs.Answers
import VpnGateway.Proofs.RenamedSettings
import VpnGateway.Proofs.Footprint
import VpnGateway.Proofs.Order
import VpnGateway.Proofs.WellFormed
import VpnGateway.Proofs.Variables
import VpnGateway.Proofs.Shows
import VpnGateway.Proofs.Groups
import VpnGateway.Proofs.Kept
import VpnGateway.Proofs.Operations
import VpnGateway.Proofs.EmptyValues
import VpnGateway.Proofs.Session
import VpnGateway.Proofs.ProcessVariables
import VpnGateway.Proofs.Secrecy
import VpnGateway.Proofs.Layout
import VpnGateway.Proofs.RoundTrip
import VpnGateway.Proofs.FirstBlock
import VpnGateway.Proofs.Base64Bits
import VpnGateway.Proofs.Blocks
import VpnGateway.Proofs.FormerKey
import VpnGateway.Proofs.ClientKey
import VpnGateway.Proofs.Grounds
import VpnGateway.Proofs.Diagnosis
import VpnGateway.Proofs.Arguments
import VpnGateway.Proofs.ExitCode
import VpnGateway.Proofs.Json
import VpnGateway.Proofs.Pretty
import VpnGateway.Proofs.DurationWords
import VpnGateway.Proofs.Document
import VpnGateway.Proofs.Controls
import VpnGateway.Proofs.Injection
import VpnGateway.Proofs.Hostname
import VpnGateway.Proofs.Tokens
import VpnGateway.Proofs.DurationValue
import VpnGateway.Proofs.Fractions
import VpnGateway.Proofs.Locations
import VpnGateway.Proofs.Provenance
import VpnGateway.Proofs.Integers
import VpnGateway.Proofs.Networks
import VpnGateway.Proofs.ListRules
