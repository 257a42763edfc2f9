import ResultPages.Main
import ResultPages.Proofs.CommandLine.Order
import ResultPages.Proofs.Link.Shape
import ResultPages.Proofs.Link.Vocabulary
import ResultPages.Proofs.Link.Whole
import ResultPages.Proofs.Service.Answer
import ResultPages.Proofs.Service.Delivered
import ResultPages.Proofs.Service.Relevant
import ResultPages.Proofs.CommandLine.Grammar
import ResultPages.Proofs.CommandLine.Precedence
import ResultPages.Proofs.CommandLine.Verbosity
import ResultPages.Proofs.Text.Quoted
import ResultPages.Proofs.Http.PathText
import ResultPages.Proofs.Service.Reported
import ResultPages.Proofs.Service.Correlation
import ResultPages.Proofs.Query.Encoded
import ResultPages.CommandLine.Action
import ResultPages.Proofs.Link.Ordinary
import ResultPages.Proofs.CommandLine.Findings
import ResultPages.Proofs.CommandLine.Action
import ResultPages.Proofs.Log.LevelText
import ResultPages.Proofs.CommandLine.Alone
import ResultPages.Proofs.Export.Domain
import ResultPages.Proofs.Link.Canonical
import ResultPages.Proofs.Export.Settings
import ResultPages.Proofs.Health.Document
import ResultPages.Proofs.Host.Labels
