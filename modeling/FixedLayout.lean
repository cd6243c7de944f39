import FixedLayout.Access
import FixedLayout.Access.Lemmas
import FixedLayout.Base64.Blocks
import FixedLayout.Base64.Decode
import FixedLayout.Base64.Encode
import FixedLayout.Base64.Vector
import FixedLayout.Builder.Lemmas
import FixedLayout.Builder.Memory
import FixedLayout.Builder.Write
import FixedLayout.Proofs.Agreement
import FixedLayout.Proofs.BitString
import FixedLayout.Proofs.Blocks
import FixedLayout.Proofs.Bounds
import FixedLayout.Proofs.Canonical
import FixedLayout.Proofs.Capacity
import FixedLayout.Proofs.Checked
import FixedLayout.Proofs.Concatenation
import FixedLayout.Proofs.Fieldwise
import FixedLayout.Proofs.FinalAlignment
import FixedLayout.Proofs.Finishing
import FixedLayout.Proofs.FirstError
import FixedLayout.Proofs.Grammar
import FixedLayout.Proofs.Growth
import FixedLayout.Proofs.Handles
import FixedLayout.Proofs.InPlace
import FixedLayout.Proofs.Lossless
import FixedLayout.Proofs.Mismatch
import FixedLayout.Proofs.Mutation
import FixedLayout.Proofs.Orderly
import FixedLayout.Proofs.Outcome
import FixedLayout.Proofs.Padding
import FixedLayout.Proofs.Positions
import FixedLayout.Proofs.RawWrites
import FixedLayout.Proofs.Refusal
import FixedLayout.Proofs.Repacking
import FixedLayout.Proofs.Reservation
import FixedLayout.Proofs.RoundTrip
import FixedLayout.Proofs.Storage
import FixedLayout.Proofs.Symbols
import FixedLayout.Proofs.Translation
import FixedLayout.Proofs.Transport
import FixedLayout.Proofs.Utf8
import FixedLayout.Proofs.Vectors
import FixedLayout.Record.Edit
import FixedLayout.Record.Text
import FixedLayout.Record.View
import FixedLayout.Scalar.Lemmas
import FixedLayout.Step
import FixedLayout.Word.Lemmas
