import ChatOpening.Main
import ChatOpening.Provider.Completion
import ChatOpening.Proofs.Text.Cut
import ChatOpening.Proofs.Text.Encoding
import ChatOpening.Proofs.Text.WhiteSpace
import ChatOpening.Proofs.Text.LowerCase
import ChatOpening.Proofs.Text.Order
import ChatOpening.Proofs.Text.Stray
import ChatOpening.Proofs.Dictionary
import ChatOpening.Proofs.Json.Grammar
import ChatOpening.Proofs.Json.Yields
import ChatOpening.Proofs.Json.Tracking
import ChatOpening.Proofs.Json.Textual
import ChatOpening.Proofs.Json.TextualValues
import ChatOpening.Proofs.Json.Spelling
import ChatOpening.Proofs.Json.Numerals
import ChatOpening.Proofs.Json.Passing
import ChatOpening.Proofs.Json.Meaning
import ChatOpening.Proofs.Json.Readers
import ChatOpening.Proofs.Json.Fitting
import ChatOpening.Proofs.Json.Unambiguous
import ChatOpening.Proofs.Json.Layouts
import ChatOpening.Proofs.Json.Written
import ChatOpening.Proofs.Json.Arranged
import ChatOpening.Proofs.Json.Stray
import ChatOpening.Proofs.Json.StrayValues
import ChatOpening.Proofs.Json.Documents
import ChatOpening.Proofs.Opening.FirstMessages
import ChatOpening.Proofs.Opening.MessageIds
import ChatOpening.Proofs.Opening.Requests
import ChatOpening.Proofs.Opening.Presentations
import ChatOpening.Proofs.Opening.Metadata
import ChatOpening.Proofs.Opening.LoadedTemplates
import ChatOpening.Proofs.Http.Stages
import ChatOpening.Proofs.Http.Agreement
import ChatOpening.Proofs.Http.Records
import ChatOpening.Proofs.Http.KeyGate
import ChatOpening.Proofs.Http.Keyless
import ChatOpening.Proofs.Http.Routes
import ChatOpening.Proofs.Template
import ChatOpening.Proofs.Provider.Names
import ChatOpening.Proofs.Provider.Clients
import ChatOpening.Proofs.Startup.Stages
import ChatOpening.Proofs.Startup.Secrets
import ChatOpening.Proofs.Http.Redirects
import ChatOpening.Proofs.Provider.Completions
import ChatOpening.Proofs.Provider.Prompts
import ChatOpening.Proofs.Provider.Replies
import ChatOpening.Proofs.Startup.CommandLine
import ChatOpening.Proofs.Startup.Sources
