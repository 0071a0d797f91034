import ObjectVault.Backend.Memory
import ObjectVault.Backend.Recorded
import ObjectVault.Backend.Scripted
import ObjectVault.Json.Forms
import ObjectVault.Main
import ObjectVault.ObjectKey.Namespace
import ObjectVault.Proofs.Client.Bracket
import ObjectVault.Proofs.Client.Journal
import ObjectVault.Proofs.Client.Replies
import ObjectVault.Proofs.CommandLine.Processes
import ObjectVault.Proofs.Directory.Runs
import ObjectVault.Proofs.Directory.Tenants
import ObjectVault.Proofs.Discretion.Runs
import ObjectVault.Proofs.Memory.Guards
import ObjectVault.Proofs.ObjectKey.Fitting
import ObjectVault.Proofs.ObjectKey.Separation
import ObjectVault.Proofs.Payload.Exchange
import ObjectVault.Proofs.Service.Contract
import ObjectVault.Proofs.Settings.RoundTrip
import ObjectVault.Proofs.CommandLine.Spelling
import ObjectVault.Proofs.CommandLine.Mentions
import ObjectVault.Proofs.CommandLine.Reports
import ObjectVault.Proofs.Settings.Strings
import ObjectVault.Proofs.ObjectKey.Texts
import ObjectVault.Proofs.Json.NormalForms
import ObjectVault.Proofs.Careful.Calls
import ObjectVault.Proofs.Directory.Removal
