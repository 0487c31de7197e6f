import RequestRouter.Unicode.Script
import RequestRouter.Unicode.LetterCase
import RequestRouter.Regex.Pattern
import RequestRouter.Regex.Flags
import RequestRouter.Regex.ClassExpr
import RequestRouter.Regex.Token
import RequestRouter.Regex.Lexer
import RequestRouter.Regex.Basic
import RequestRouter.Text.Quoted
import RequestRouter.Vars
import RequestRouter.Header
import RequestRouter.Path
import RequestRouter.Query
import RequestRouter.Method
import RequestRouter.Text.Scalar
import RequestRouter.Request
import RequestRouter.Response
import RequestRouter.Matcher
import RequestRouter.Template.Basic
import RequestRouter.Routing.Site
import RequestRouter.Routing.Url
import RequestRouter.Routing.Dispatch
import RequestRouter.Routing.Outline
import RequestRouter.Proofs.Template.Compiled
import RequestRouter.Proofs.Template.Reading
import RequestRouter.Proofs.Template.Tiling
import RequestRouter.Proofs.Bindings
import RequestRouter.Proofs.Template.MatchLanguage
import RequestRouter.Proofs.Routing.Calls
import RequestRouter.Proofs.Routing.FirstMatch
import RequestRouter.Proofs.Routing.Names
import RequestRouter.Proofs.Template.Checking
import RequestRouter.Proofs.Template.Building
import RequestRouter.Proofs.Template.Delimited
import RequestRouter.Proofs.Routing.RoundTrip
import RequestRouter.Proofs.Routing.BuiltUrl
import RequestRouter.Proofs.Routing.FailedCalls
import RequestRouter.Proofs.Routing.CheckOrder
import RequestRouter.Proofs.Routing.GivenNames
import RequestRouter.Proofs.Template.Acceptance
import RequestRouter.Proofs.Routing.FactorySteps
import RequestRouter.Proofs.Routing.LaterCalls
import RequestRouter.Proofs.Routing.Redirects
import RequestRouter.Proofs.Matcher
import RequestRouter.Proofs.Template.Renaming
import RequestRouter.Proofs.Routing.RouteVariables
import RequestRouter.Proofs.Routing.Dispatch
import RequestRouter.Proofs.Spelling
import RequestRouter.Proofs.Query
import RequestRouter.Proofs.Routing.EventLog
import RequestRouter.Proofs.Template.GroupIndices
