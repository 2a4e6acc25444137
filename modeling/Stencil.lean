import Stencil.Main
import Stencil.Session
import Stencil.Proofs.Forest
import Stencil.Proofs.Descriptor
import Stencil.Proofs.Lineage
import Stencil.Proofs.Listing
import Stencil.Proofs.Untyped
import Stencil.Proofs.Index
import Stencil.Proofs.Linking
import Stencil.Proofs.Erasure
import Stencil.Proofs.Session
import Stencil.Proofs.Disk
import Stencil.Proofs.Path
import Stencil.Proofs.Output
import Stencil.Proofs.Collecting
import Stencil.Proofs.Rerun
import Stencil.Proofs.Detour
import Stencil.Proofs.Merging
import Stencil.Proofs.InOrder
import Stencil.Proofs.Listed
import Stencil.Proofs.Overlay
import Stencil.Proofs.Layers
import Stencil.Proofs.Spelling
import Stencil.Proofs.Stages
import Stencil.Proofs.Outcome
import Stencil.Proofs.Mirror
import Stencil.Proofs.Flattening
import Stencil.Proofs.Containment
import Stencil.Proofs.Relocation
import Stencil.Proofs.FieldType
import Stencil.Proofs.Reference
import Stencil.Proofs.Items
import Stencil.Proofs.DescriptorSet
import Stencil.Proofs.FileName
import Stencil.Proofs.Writing
import Stencil.Proofs.ServiceName
import Stencil.Proofs.Wrapping
