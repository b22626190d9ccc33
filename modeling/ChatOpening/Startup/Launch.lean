import ChatOpening.Http.Router
import ChatOpening.Startup.Arguments
import ChatOpening.Address.Socket
import ChatOpening.Text.Quoted

/-!
# From arguments to a server

The server is set up in stages: the client is built if the arguments enable it, the templates are loaded, the address
is read, and a socket is bound to it. The first stage that fails ends the launch, so no later one is entered or
logged. The configuration is logged before all of them.

Keys are never logged.
-/

namespace ChatOpening

/-- Why a socket cannot be bound. -/
structure BindFault where
  reason : String
  deriving DecidableEq, Repr

/-- Where sockets are bound. -/
abbrev Sockets := SocketAddress → Except BindFault Unit

/-- Why the server does not start. -/
inductive LaunchFault where
  | provider (name : Provider.UnknownName)
  | client (fault : ClientFault)
  | templates (path : String) (fault : TemplatesFault)
  | address
  | binding (address : SocketAddress) (fault : BindFault)
  deriving DecidableEq, Repr

namespace LaunchFault

def message : LaunchFault → String
  | provider name => name.message
  | client fault => fault.message
  | templates path fault => s!"Failed to load prompts file '{path}': {fault.message}"
  | address => "invalid socket address syntax"
  | binding a fault => s!"Failed to bind HTTP server to {a.written}: {fault.reason}"

/-- How the fault is shown where its kind has to be seen. -/
def diagnostic : LaunchFault → String
  | provider name => "ParseLlmTypeError \x7b message: " ++ Text.quoted name.message ++ " \x7d"
  | address => "AddrParseError(Socket)"
  | fault => Text.quoted fault.message

end LaunchFault

namespace Arguments

/-- The key for the provider; an empty text is none. -/
def chatKey (args : Arguments) : Option String :=
  if args.chatApiKey = "" then none else some args.chatApiKey

/-- What the client is built from, if the arguments name a kind of providers. -/
def clientConfig (args : Arguments) : Except Provider.UnknownName ClientConfig :=
  match Provider.ofText args.chatLlmType with
  | .error name => .error name
  | .ok provider =>
    .ok {
      provider
      apiKey := args.chatKey
      model := args.chatModel
      baseUrl := args.chatBaseUrl }

/-- The client that the arguments ask for. -/
def client (args : Arguments) : Except LaunchFault Client :=
  match args.clientConfig with
  | .error name => .error (.provider name)
  | .ok config =>
    match Client.ofConfig config with
    | .error fault => .error (.client fault)
    | .ok client => .ok client

/-- What is logged about a client. -/
def clientBuilt (client : Client) : Journal.Record :=
  Journal.info .core (s!"Chat client configured: Type={client.provider.name}, Model={client.model}, BaseURL=" ++
    Text.quotedOption (some client.baseUrl))

/-- The stage of the client. -/
def clientStage (args : Arguments) : Journal.Logged LaunchFault (Option Client) :=
  if args.enableLlm then
    Journal.Logged.andThen (.quiet args.client) fun client => .ok (some client) [clientBuilt client]
  else .ok none [Journal.info .core "Chat LLM client disabled"]

/-- The stage of the templates. -/
def templatesStage (files : Files) (args : Arguments) : Journal.Logged LaunchFault IntroTemplates :=
  match args.promptsPath with
  | none => .ok IntroTemplates.builtIn []
  | some path => Journal.Logged.mapFault (LaunchFault.templates path) (IntroTemplates.load files path)

/-- The service that the arguments ask for. -/
def service (files : Files) (args : Arguments) : Journal.Logged LaunchFault OpeningService :=
  Journal.Logged.andThen args.clientStage fun client =>
    Journal.Logged.andThen (args.templatesStage files) fun templates => .ok { client, templates } []

/-- What is logged about the arguments. -/
def configuration (args : Arguments) : List Journal.Record :=
  let provider := if args.enableLlm then [s!"Chat LLM Type: {args.chatLlmType}"] else []
  let source := args.promptsPath.getD "built-in"
  let lines :=
    ["--- Core Configuration ---", s!"Server Address: {args.serverAddr}", s!"Chat LLM Enabled: {args.enableLlm}"]
      ++ provider ++ [s!"Prompts Path: {source}", "-------------------------"]
  lines.map (Journal.info .core)

end Arguments

/-- A server: where it listens, what it answers with, and the key that its clients have to send. -/
structure Server where
  address : String
  service : OpeningService
  key : Option String
  deriving DecidableEq

namespace Server

/-- The server with the key that counts, and what is logged about the key. -/
def configured (address : String) (service : OpeningService) (key : Option String) : Server × List Journal.Record :=
  let key := Http.Gate.effectiveKey key
  let record :=
    if key.isSome then Journal.info .server "Server configured with API Key authentication."
    else Journal.warn .server "Server configured WITHOUT API Key authentication. Endpoints are open."
  ({ address, service, key }, [record])

def router (s : Server) : Http.Router :=
  ⟨s.service, .ofKey s.key⟩

/-- The stages of the address and of the socket. -/
def listen (sockets : Sockets) (s : Server) : Journal.Logged LaunchFault SocketAddress :=
  match SocketAddress.ofText? s.address with
  | none => .quiet (.error .address)
  | some address =>
    match sockets address with
    | .error fault => .quiet (.error (.binding address fault))
    | .ok () => .ok address [Journal.info .api s!"Starting HTTP API server on: http://{address.written}"]

end Server

/-- A server that listens. -/
structure Listening where
  address : SocketAddress
  router : Http.Router

namespace Arguments

/-- What is logged about the client that a service holds. -/
def clientHeld (service : OpeningService) : List Journal.Record :=
  service.client.toList.map fun client =>
    Journal.info .core s!"Chat init service holds LLM client for model {client.model}"

/-- The stages behind that of the service. -/
def serve (sockets : Sockets) (args : Arguments) (service : OpeningService) : Journal.Logged LaunchFault Listening :=
  let (server, logs) := Server.configured args.serverAddr service args.serverApiKey
  Journal.Logged.andThen (.ok () (clientHeld service ++ logs)) fun () =>
    Journal.Logged.andThen (server.listen sockets) fun address => .ok { address, router := server.router } []

/-- All stages, until the server listens. -/
def launch (files : Files) (sockets : Sockets) (args : Arguments) : Journal.Logged LaunchFault Listening :=
  Journal.Logged.andThen (.ok () args.configuration) fun () =>
    Journal.Logged.andThen (args.service files) (args.serve sockets)

end Arguments

end ChatOpening
