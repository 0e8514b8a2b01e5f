import Winnow.Main
import Winnow.Proofs.Calendar.Defaults
import Winnow.Proofs.Calendar.Rendering
import Winnow.Proofs.Filter.Complement
import Winnow.Proofs.Filter.Composition
import Winnow.Proofs.Filter.Containers
import Winnow.Proofs.Filter.Containment
import Winnow.Proofs.Filter.Decoded
import Winnow.Proofs.Filter.Exactness
import Winnow.Proofs.Filter.FirstFault
import Winnow.Proofs.Filter.Instants
import Winnow.Proofs.Filter.Numerals
import Winnow.Proofs.Filter.Rejection
import Winnow.Proofs.Service.Origins
import Winnow.Proofs.Service.Page
import Winnow.Proofs.Service.Runs
import Winnow.Proofs.Service.Target
