import Scaffold.Generator
import Scaffold.Json.Printer
import Scaffold.Markup.Form
import Scaffold.Proofs.Assembly.BodyRegion
import Scaffold.Proofs.Assembly.EscapedSigns
import Scaffold.Proofs.Assembly.Filling
import Scaffold.Proofs.Assembly.IdentifierLine
import Scaffold.Proofs.Assembly.Selector
import Scaffold.Proofs.Assembly.TemplateLiteral
import Scaffold.Proofs.BodyTable.Registrations
import Scaffold.Proofs.DarkMode.Files
import Scaffold.Proofs.Generator.Branding
import Scaffold.Proofs.Generator.OneName
import Scaffold.Proofs.Generator.Path
import Scaffold.Proofs.Generator.Reports
import Scaffold.Proofs.Generator.Spelling
import Scaffold.Proofs.Generator.TwoRoutes
import Scaffold.Proofs.Markup.Building
import Scaffold.Proofs.Markup.RoundTrip
import Scaffold.Proofs.Markup.Tokens
import Scaffold.Proofs.Markup.UniqueReading
import Scaffold.Proofs.PageName.Compact
import Scaffold.Proofs.PageName.Declaration
import Scaffold.Proofs.PageName.Stability
import Scaffold.Proofs.Request.RequestJson
import Scaffold.Proofs.Respelling.Comments
import Scaffold.Proofs.Respelling.Indented
import Scaffold.Proofs.Snippet.Accepted
import Scaffold.Proofs.Snippet.Runs
import Scaffold.Template.Reader
