import ChatOpening.Http.Exchange
import ChatOpening.Journal
import ChatOpening.Number.Numeral
import ChatOpening.Provider.Config

/-!
# Completions

A client asks its provider to complete a prompt. It posts the model and the prompt as a JSON object to a place below
its address, and takes the completion out of the reply: the kinds of providers differ in the place, in the object, and
in what they reply. Of several choices in a reply the first one counts, but all of them have to be well formed.

Only a completion is logged, with its length in bytes; a fault is not.
-/

namespace ChatOpening

/-- What a provider answers to a prompt. -/
structure Completion where
  response : String
  deriving DecidableEq, Repr

/-- What is said by one side of a chat. -/
structure Turn where
  role : String
  content : String
  deriving DecidableEq, Repr

structure Choice where
  message : Turn
  deriving DecidableEq, Repr

/-- The reply of a provider that offers choices. -/
structure Choices where
  choices : List Choice
  deriving DecidableEq, Repr

/-- The reply of a provider that generates a text. -/
structure Generated where
  response : String
  deriving DecidableEq, Repr

namespace Completion

instance : Json.Described Completion where
  schema := .record "CompletionResponse" <| .field "response" .text .none
  toCarrier c := (c.response, ())
  ofCarrier := fun (response, ()) => { response }
  ofCarrier_toCarrier _ := rfl

instance : Json.Described Generated where
  schema := .record "OllamaGenerateResponse" <| .field "response" .text .none
  toCarrier g := (g.response, ())
  ofCarrier := fun (response, ()) => { response }
  ofCarrier_toCarrier _ := rfl

def turnSchema : Json.Schema :=
  .record "ChatTurn" <| .field "role" .text <| .field "content" .text .none

instance : Json.Described Turn where
  schema := turnSchema
  toCarrier t := (t.role, t.content, ())
  ofCarrier := fun (role, content, ()) => { role, content }
  ofCarrier_toCarrier _ := rfl

def choiceSchema : Json.Schema :=
  .record "ChatCompletionChoice" <| .field "message" turnSchema .none

instance : Json.Described Choice where
  schema := choiceSchema
  toCarrier c := (Json.Described.toCarrier c.message, ())
  ofCarrier := fun (message, ()) => { message := Json.Described.ofCarrier message }
  ofCarrier_toCarrier _ := rfl

instance : Json.Described Choices where
  schema := .record "ChatCompletionResponse" <| .field "choices" (.list choiceSchema) .none
  toCarrier c := (c.choices.map Json.Described.toCarrier, ())
  ofCarrier := fun (choices, ()) => { choices := choices.map Json.Described.ofCarrier }
  ofCarrier_toCarrier c := by
    have h : (c.choices.map Json.Described.toCarrier).map Json.Described.ofCarrier = c.choices := by
      rw [List.map_map]
      exact List.map_id'' (fun choice => Json.Described.ofCarrier_toCarrier choice) c.choices
    simp only [h]

end Completion

/-- Why there is no completion. -/
inductive CompletionFault where
  | exchange (fault : Http.ExchangeFault)
  | undecodable
  | noChoices
  deriving DecidableEq, Repr

def CompletionFault.message : CompletionFault → String
  | .exchange fault => fault.message
  | .undecodable => "error decoding response body"
  | .noChoices => "Chat completion returned no choices"

namespace Provider

/-- The place below the address of a provider that prompts are posted to. -/
def promptPath : Provider → String
  | ollama => "/api/generate"
  | openai => "/v1/chat/completions"

/-- The part of the service that speaks to a provider. -/
def origin : Provider → Journal.Origin
  | ollama => .ollama
  | openai => .openai

/-- The most tokens that a completion may have. -/
def mostTokens : Nat := 2048

/-- What is posted for a prompt. -/
def prompted (provider : Provider) (model prompt : String) : Json.Value :=
  match provider with
  | ollama => .object [("model", .text model), ("prompt", .text prompt), ("stream", .truth false)]
  | openai =>
    .object [
      ("model", .text model),
      ("messages", .array [.object [("role", .text "user"), ("content", .text prompt)]]),
      ("temperature", .number (.fraction Binary64.one)),
      ("max_completion_tokens", .number (.integer mostTokens)),
      ("store", .truth false)]

/-- The completion in the body of a reply. -/
def completion (provider : Provider) (body : Bytes) : Except CompletionFault Completion :=
  match provider with
  | ollama =>
    match Json.decode Generated body with
    | .error _ => .error .undecodable
    | .ok generated => .ok ⟨generated.response⟩
  | openai =>
    match Json.decode Choices body with
    | .error _ => .error .undecodable
    | .ok offered =>
      match offered.choices with
      | [] => .error .noChoices
      | first :: _ => .ok ⟨first.message.content⟩

end Provider

namespace Client

/-- An address without the slashes at its end. -/
def withoutSlashes (address : String) : String :=
  String.ofList (address.toList.reverse.dropWhile (· = '/')).reverse

/-- Where the client posts prompts to. -/
def place (c : Client) : String :=
  withoutSlashes c.baseUrl ++ c.provider.promptPath

/-- What the client authorizes its requests with. Blanks at the end of a header do not count. -/
def authorization (c : Client) : Option String :=
  c.key.map fun key =>
    String.ofList (("Bearer " ++ key).toList.reverse.dropWhile fun b => b = ' ' || b = '\t').reverse

/-- What is logged about a completion. -/
def completed (c : Client) (completion : Completion) : Journal.Record :=
  Journal.debug c.provider.origin
    s!"{c.provider.title} model {c.model} returned {completion.response.utf8ByteSize} chars"

/-- Asks for the completion of a prompt, after the requests in `past`. The requests that were answered are
returned, too. -/
def complete (network : Http.Network) (past : List Http.Outgoing) (c : Client) (prompt : String) :
    Journal.Logged CompletionFault Completion × List Http.Outgoing :=
  match network.post past c.place c.authorization (c.provider.prompted c.model prompt).written with
  | (.error fault, requests) => (.quiet (.error (.exchange fault)), requests)
  | (.ok body, requests) =>
    match c.provider.completion body with
    | .error fault => (.quiet (.error fault), requests)
    | .ok completion => (.ok completion [c.completed completion], requests)

end Client

end ChatOpening
