import SubnetRouter.Config.Json
import SubnetRouter.Config.Reader
import SubnetRouter.Files.Tree
import SubnetRouter.Main
import SubnetRouter.Proofs.Abi.Functions
import SubnetRouter.Proofs.Abi.Loading
import SubnetRouter.Proofs.Abi.Stores
import SubnetRouter.Proofs.ActorAddress.Encoding
import SubnetRouter.Proofs.ActorAddress.HexOutcome
import SubnetRouter.Proofs.ActorAddress.WireForm
import SubnetRouter.Proofs.CommandLine.Arguments
import SubnetRouter.Proofs.CommandLine.DryRun
import SubnetRouter.Proofs.CommandLine.RegistryOptions
import SubnetRouter.Proofs.CommandLine.Sources
import SubnetRouter.Proofs.CommandLine.SubnetArgument
import SubnetRouter.Proofs.CommandLine.Summary
import SubnetRouter.Proofs.CommandLine.Tokens
import SubnetRouter.Proofs.Config.WrittenForm
import SubnetRouter.Proofs.ContractAddress.Bytes
import SubnetRouter.Proofs.Provider.EqualIds
import SubnetRouter.Proofs.Provider.LoadedMethods
import SubnetRouter.Proofs.Provider.Routing
import SubnetRouter.Proofs.Provider.Sessions
import SubnetRouter.Proofs.Registry.Duplicates
import SubnetRouter.Proofs.Registry.Frame
import SubnetRouter.Proofs.Registry.Keys
import SubnetRouter.Proofs.Registry.SharedKeys
import SubnetRouter.Proofs.Registry.Spelling
import SubnetRouter.Proofs.SubnetId.Ancestry
import SubnetRouter.Proofs.SubnetId.CanonicalForm
import SubnetRouter.Proofs.SubnetId.Rejection
import SubnetRouter.Proofs.SubnetId.SingleActor
import SubnetRouter.Proofs.Text.Decimal
import SubnetRouter.Proofs.Text.Hexadecimal
import SubnetRouter.Text.Quoted
