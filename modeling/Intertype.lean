import Intertype.Annotation
import Intertype.Body
import Intertype.Composition
import Intertype.Config
import Intertype.Config.Source
import Intertype.Decimal.Reading
import Intertype.Proofs.Annotation.Integers
import Intertype.Proofs.Annotation.Readable
import Intertype.Proofs.Body.Running
import Intertype.Proofs.Composition.Content
import Intertype.Proofs.Composition.Layouts
import Intertype.Proofs.Composition.Lines
import Intertype.Proofs.Composition.Meaning
import Intertype.Proofs.Composition.Reordering
import Intertype.Proofs.Config.Failing
import Intertype.Proofs.Config.Keeping
import Intertype.Proofs.Decimal.RoundTrip
import Intertype.Proofs.Imports.FirstCome
import Intertype.Proofs.Imports.Unambiguous
import Intertype.Proofs.Introduction.Building
import Intertype.Proofs.Text.Utf8
import Intertype.Proofs.TypeRef.Lossless
import Intertype.Proofs.TypeRef.RoundTrip
import Intertype.Proofs.TypeRef.Variables
import Intertype.Settings
import Intertype.TypeRef.Reader
import Intertype.Yaml.Reading
