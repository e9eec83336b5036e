import AeadEnvelope.Main
import AeadEnvelope.Proofs.Session
import AeadEnvelope.Proofs.Context.Canonicalization
import AeadEnvelope.Proofs.TagLength.AlteredLength
import AeadEnvelope.Proofs.TagLength.AlteredVersion
import AeadEnvelope.Proofs.TagLength.Completion
import AeadEnvelope.Proofs.TagLength.Layout
import AeadEnvelope.Proofs.TagLength.Reencoding
import AeadEnvelope.Proofs.MaskKey
import AeadEnvelope.Proofs.TagLength.LegacyLayout
import AeadEnvelope.Proofs.AssociatedData.Canonicalization
import AeadEnvelope.Proofs.VarintFrame.Layout
import AeadEnvelope.Proofs.VarintFrame.Binding
import AeadEnvelope.Proofs.Inspection
import AeadEnvelope.Proofs.FaultClasses
import AeadEnvelope.Proofs.Audit
import AeadEnvelope.Proofs.TagLength.Concealment
import AeadEnvelope.Proofs.Command.FailClosed
import AeadEnvelope.Proofs.Command.RoundTrip
import AeadEnvelope.Proofs.AssociatedData.Listing
import AeadEnvelope.Proofs.AssociatedData.Recanonicalization
import AeadEnvelope.Proofs.AssociatedData.Refusal
import AeadEnvelope.Proofs.Context.Grammar
import AeadEnvelope.Proofs.Context.CanonicalOrder
import AeadEnvelope.Proofs.Context.Completion
import AeadEnvelope.Proofs.Context.Provenance
import AeadEnvelope.Proofs.Base128.Position
import AeadEnvelope.Proofs.Base128.Succession
import AeadEnvelope.Proofs.Cursor
