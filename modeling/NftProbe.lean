import NftProbe.Abi.Call
import NftProbe.Abi.Decode
import NftProbe.Abi.Encode
import NftProbe.Abi.Error
import NftProbe.Abi.Json
import NftProbe.Abi.Token
import NftProbe.Address
import NftProbe.Bytes
import NftProbe.Chain.Block
import NftProbe.Chain.Receipt
import NftProbe.Cli.Parse
import NftProbe.Cli.Spec
import NftProbe.Client.Error
import NftProbe.Client.Faults
import NftProbe.Client.Interface
import NftProbe.Client.Rpc
import NftProbe.Config.Settings
import NftProbe.Config.Similarity
import NftProbe.Contract.Artifact
import NftProbe.Contract.Calls
import NftProbe.Contract.Transfer
import NftProbe.Contract.Views
import NftProbe.Defaults
import NftProbe.ErrorChain
import NftProbe.Ether
import NftProbe.Files
import NftProbe.Hex
import NftProbe.Idna.BidiRule
import NftProbe.Idna.Joiners
import NftProbe.Idna.Mapping
import NftProbe.Idna.Punycode
import NftProbe.Idna.ToAscii
import NftProbe.Json.Double
import NftProbe.Json.Read
import NftProbe.Json.Value
import NftProbe.Keccak
import NftProbe.Log
import NftProbe.Main
import NftProbe.Network
import NftProbe.Poc
import NftProbe.Program
import NftProbe.Proofs.Abi.Halting
import NftProbe.Proofs.Abi.Layout
import NftProbe.Proofs.Abi.RoundTrip
import NftProbe.Proofs.Abi.Typing
import NftProbe.Proofs.AddressText
import NftProbe.Proofs.Client.Ends
import NftProbe.Proofs.Contract.Results
import NftProbe.Proofs.Contract.TransferLogs
import NftProbe.Proofs.Run.Audit
import NftProbe.Proofs.Run.ChainCheck
import NftProbe.Proofs.Run.Completes
import NftProbe.Proofs.Run.Deploy
import NftProbe.Proofs.Run.Endings
import NftProbe.Proofs.Run.Exec
import NftProbe.Proofs.Run.Gates
import NftProbe.Proofs.Run.Histories
import NftProbe.Proofs.Run.Metadata
import NftProbe.Proofs.Run.Mint
import NftProbe.Proofs.Run.MintOutcomes
import NftProbe.Proofs.Run.MintedIds
import NftProbe.Proofs.Run.Mutations
import NftProbe.Proofs.Run.Passing
import NftProbe.Proofs.Run.Phases
import NftProbe.Proofs.Run.Records
import NftProbe.Proofs.Run.Returns
import NftProbe.Proofs.Run.Totality
import NftProbe.Proofs.Run.Transcript
import NftProbe.Proofs.Run.Transfer
import NftProbe.Proofs.Run.TransferOutcomes
import NftProbe.Proofs.Run.Validation
import NftProbe.Proofs.Run.Workflow
import NftProbe.Proofs.Sim.Answers
import NftProbe.Proofs.Sim.Blocks
import NftProbe.Proofs.Sim.Calls
import NftProbe.Proofs.Sim.Collection
import NftProbe.Proofs.Sim.Constants
import NftProbe.Proofs.Sim.Effects
import NftProbe.Proofs.Sim.Freshness
import NftProbe.Proofs.Sim.FullRun
import NftProbe.Proofs.Sim.Identities
import NftProbe.Proofs.Sim.Minting
import NftProbe.Proofs.Sim.Operations
import NftProbe.Proofs.Sim.Reads
import NftProbe.Proofs.Sim.Revalidation
import NftProbe.Proofs.Sim.Runs
import NftProbe.Proofs.Sim.StaleReads
import NftProbe.Proofs.Sim.Transfers
import NftProbe.Run.ChainCheck
import NftProbe.Run.Context
import NftProbe.Run.Deploy
import NftProbe.Run.Error
import NftProbe.Run.Expectations
import NftProbe.Run.Mint
import NftProbe.Run.Orchestrator
import NftProbe.Run.Outcome
import NftProbe.Run.Phase
import NftProbe.Run.Report
import NftProbe.Run.Step
import NftProbe.Run.Transfer
import NftProbe.Run.Validation
import NftProbe.Sim.Chain
import NftProbe.Sim.Collection
import NftProbe.Sim.Config
import NftProbe.Sim.Execute
import NftProbe.Table
import NftProbe.Text.Bidi
import NftProbe.Text.CombiningClass
import NftProbe.Text.Decomposition
import NftProbe.Text.GraphemeExtend
import NftProbe.Text.Marks
import NftProbe.Text.Normalization
import NftProbe.Text.Packed
import NftProbe.Text.Printable
import NftProbe.Text.Quoted
import NftProbe.Text.Ranges
import NftProbe.Text.Whitespace
import NftProbe.U64
import NftProbe.Url
import NftProbe.Word
