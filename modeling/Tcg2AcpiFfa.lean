import Tcg2AcpiFfa.Basic
import Tcg2AcpiFfa.Aml
import Tcg2AcpiFfa.PossibleResource
import Tcg2AcpiFfa.PossibleResourceCorrect
import Tcg2AcpiFfa.PossibleResourceBounds
import Tcg2AcpiFfa.ResourceTemplate
import Tcg2AcpiFfa.PossibleResourceTwoRuns
import Tcg2AcpiFfa.Hid
import Tcg2AcpiFfa.PPVersion
import Tcg2AcpiFfa.Publish
import Tcg2AcpiFfa.Driver
