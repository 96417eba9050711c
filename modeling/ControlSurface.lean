import ControlSurface.Service.App
import ControlSurface.Text.Encoding
import ControlSurface.Value.Finite
import ControlSurface.Proofs.Rounding
import ControlSurface.Proofs.Clock
import ControlSurface.Proofs.Limiter.Log
import ControlSurface.Proofs.Limiter.Budget
import ControlSurface.Proofs.Entries
import ControlSurface.Proofs.Generator.Declaration
import ControlSurface.Proofs.Limiter.Isolation
import ControlSurface.Proofs.Members
import ControlSurface.Proofs.Notes
import ControlSurface.Proofs.Header.Slots
import ControlSurface.Proofs.Limiter.Archive
import ControlSurface.Proofs.Limiter.Refusal
import ControlSurface.Proofs.Schema.Idempotence
import ControlSurface.Proofs.Schema.Preservation
import ControlSurface.Proofs.Text.Indent
import ControlSurface.Proofs.Unlabelled
import ControlSurface.Proofs.Header.BringUp
import ControlSurface.Proofs.Header.Declared
import ControlSurface.Proofs.Header.Dependence
import ControlSurface.Proofs.Header.Failure
import ControlSurface.Proofs.Header.Typed
import ControlSurface.Proofs.Service.Reordering
import ControlSurface.Proofs.Service.Upload
import ControlSurface.Proofs.Limiter.Thrift
import ControlSurface.Proofs.Limiter.Staleness
import ControlSurface.Proofs.Selection
import ControlSurface.Proofs.Generator.Rendered
import ControlSurface.Proofs.Text.Paragraphs
import ControlSurface.Proofs.Header.Readback
import ControlSurface.Proofs.Header.Composition
import ControlSurface.Proofs.Header.Indentation
