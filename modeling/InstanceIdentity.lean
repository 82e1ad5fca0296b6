import InstanceIdentity.Catalogue
import InstanceIdentity.Census
import InstanceIdentity.Session
import InstanceIdentity.Proofs.Chain
import InstanceIdentity.Proofs.Denotation
import InstanceIdentity.Proofs.Detection
import InstanceIdentity.Proofs.Independence
import InstanceIdentity.Proofs.Insertion
import InstanceIdentity.Proofs.MediaTypes
import InstanceIdentity.Proofs.Projection
import InstanceIdentity.Proofs.RoundTrip
import InstanceIdentity.Proofs.Slashes
import InstanceIdentity.Proofs.Status
import InstanceIdentity.Proofs.Suppression
import InstanceIdentity.Proofs.Deadlines
import InstanceIdentity.Proofs.NormalForm
import InstanceIdentity.Proofs.BaseAddresses
import InstanceIdentity.Proofs.Places
import InstanceIdentity.Proofs.Wording
import InstanceIdentity.Proofs.EqualPlaces
import InstanceIdentity.Proofs.WrittenForms
