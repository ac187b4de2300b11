import SvdGen.CaseFolding
import SvdGen.Python
import SvdGen.Hjson
import SvdGen.Element
import SvdGen.Register
import SvdGen.Registers
import SvdGen.Reserved
import SvdGen.Clusters
import SvdGen.Device
import SvdGen.Indent
import SvdGen.Serialize
import SvdGen.Convert
import SvdGen.Progress
import SvdGen.Reader
import SvdGen.ReadBack
import SvdGen.ReadIndent
import SvdGen.Parse
import SvdGen.ReadParsed
import SvdGen.Markup
import SvdGen.Lex
import SvdGen.Namespace
import SvdGen.ReadFile
import SvdGen.Names
import SvdGen.ReadDocument
