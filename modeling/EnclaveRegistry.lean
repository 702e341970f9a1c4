import EnclaveRegistry.Gateway.Service
import EnclaveRegistry.Gateway.Settings
import EnclaveRegistry.Main
import EnclaveRegistry.Proofs.Gateway.Registration
import EnclaveRegistry.Proofs.Keeper.Atomicity
import EnclaveRegistry.Proofs.Keeper.Provenance
import EnclaveRegistry.Proofs.Keeper.Refinement
import EnclaveRegistry.Proofs.Schema.Record
import EnclaveRegistry.Proofs.Store.Key
import EnclaveRegistry.Proofs.Store.Memory
import EnclaveRegistry.Store.Unfiltered
import EnclaveRegistry.Proofs.Keeper.Footprint
import EnclaveRegistry.Proofs.Keeper.MasterKey
import EnclaveRegistry.Proofs.Attestation.Nitro
import EnclaveRegistry.Proofs.Json.Text
import EnclaveRegistry.Proofs.Text.Base64
import EnclaveRegistry.Proofs.Json.Numeral
import EnclaveRegistry.Proofs.Json.Tree
import EnclaveRegistry.Proofs.Schema.Json
import EnclaveRegistry.Proofs.Genesis.Document
import EnclaveRegistry.Proofs.Keeper.Restoration
import EnclaveRegistry.Proofs.Gateway.Restart
import EnclaveRegistry.Proofs.Schema.Field
import EnclaveRegistry.Proofs.Genesis.Migration
import EnclaveRegistry.Proofs.Genesis.Version
import EnclaveRegistry.Proofs.Attestation.Mock
import EnclaveRegistry.Proofs.Keeper.EnclaveCall
import EnclaveRegistry.Proofs.Genesis.Body
import EnclaveRegistry.Proofs.Program
import EnclaveRegistry.Proofs.Tool.Migration
import EnclaveRegistry.Proofs.Gateway.Reachable
import EnclaveRegistry.Proofs.Gateway.Consistency
import EnclaveRegistry.Proofs.Http.Target
import EnclaveRegistry.Proofs.Tool.Delivery
import EnclaveRegistry.Proofs.Schema.Canonical
import EnclaveRegistry.Proofs.Schema.Kind
import EnclaveRegistry.Proofs.Keeper.Audit
import EnclaveRegistry.Proofs.Keeper.Admission
import EnclaveRegistry.Proofs.Keeper.Loading
import EnclaveRegistry.Proofs.Keeper.Provisioning
import EnclaveRegistry.Proofs.Keeper.Enumeration
import EnclaveRegistry.Proofs.Gateway.Listing
import EnclaveRegistry.Proofs.Keeper.Commutation
import EnclaveRegistry.Proofs.Cbor.ByteString
import EnclaveRegistry.Proofs.Attestation.SignedMessage
import EnclaveRegistry.Proofs.Store.History
import EnclaveRegistry.Proofs.Attestation.Chain
import EnclaveRegistry.Proofs.Cbor.Spelling
import EnclaveRegistry.Proofs.Attestation.Document
import EnclaveRegistry.Proofs.Json.Size
import EnclaveRegistry.Proofs.Schema.Size
import EnclaveRegistry.Proofs.Keeper.Start
import EnclaveRegistry.Proofs.Tool.Report
import EnclaveRegistry.Proofs.Text.Sextet
import EnclaveRegistry.Proofs.Schema.ByteText
