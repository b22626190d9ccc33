import ChatOpening.Json.Schema

/-!
# Conversations

What the service is asked for and what it answers: a request names a simulation and a user, a response holds the first
messages of a chat and some members that describe the request. Each type has its schema, by which its elements are
read and written; the names of the fields are those of the backend.
-/

namespace ChatOpening

open Json (Schema Fields Described Value)

/-- The kinds of messages. -/
inductive MessageKind where
  | text
  deriving DecidableEq, Repr

/-- Who speaks. -/
structure Character where
  id : Int64
  name : String
  avatar : Option String
  deriving DecidableEq, Repr

structure Message where
  id : String
  kind : MessageKind
  author : Character
  content : String
  hasHint : Bool
  /-- Seconds the user has to reply. -/
  responseTimeLimit : Option UInt32
  deriving DecidableEq, Repr

/-- A chat as the backend keeps it; it has no id until the backend has stored it. -/
structure Chat where
  chatId : Option String
  skillId : Int64
  simulationId : Int64
  messages : List Message
  success : Bool
  deriving DecidableEq, Repr

/-- A simulation with the topics that it exercises, the most important one first. -/
structure Simulation where
  name : String
  description : String
  topics : List String
  deriving DecidableEq, Repr

structure User where
  name : String
  deriving DecidableEq, Repr

structure OpeningRequest where
  simulation : Simulation
  user : User
  deriving DecidableEq, Repr

structure OpeningResponse where
  chat : Chat
  metadata : List (String × Value)
  deriving Repr

namespace Conversation

/-- A message that is a text, without hint and without limit. -/
def textMessage (id : String) (author : Character) (content : String) : Message :=
  { id, kind := .text, author, content, hasHint := false, responseTimeLimit := none }

def messageKindSchema : Schema :=
  .variant ["Text"]

def characterSchema : Schema :=
  .record "CharacterInfo" <|
    .field "id" .int64 <| .field "name" .text <| .field "avatar" (.optional .text) .none

def messageSchema : Schema :=
  .record "BackendMessage" <|
    .field "id" .text <| .field "message_type" messageKindSchema <| .field "author" characterSchema <|
    .field "content" .text <| .field "has_hint" .truth <| .field "response_time_limit" (.optional .uint32) .none

def chatSchema : Schema :=
  .record "BackendChat" <|
    .field "chat_id" (.optional .text) <| .field "skill_id" .int64 <| .field "simulation_id" .int64 <|
    .field "messages" (.list messageSchema) <| .field "success" .truth .none

def simulationSchema : Schema :=
  .record "SimulationInfo" <|
    .field "name" .text <| .field "description" .text <| .field "variables" (.list .text) .none

def userSchema : Schema :=
  .record "UserInfo" <| .field "name" .text .none

def requestSchema : Schema :=
  .record "GenerateChatMessagesRequest" <|
    .field "simulation" simulationSchema <| .field "user" userSchema .none

def responseSchema : Schema :=
  .record "GenerateChatMessagesResponse" <|
    .field "chat" chatSchema <| .field "metadata" .object .none

instance : Described MessageKind where
  schema := messageKindSchema
  toCarrier _ := ⟨0, by decide⟩
  ofCarrier _ := .text
  ofCarrier_toCarrier _ := rfl

instance : Described Character where
  schema := characterSchema
  toCarrier c := (c.id, c.name, c.avatar, ())
  ofCarrier := fun (id, name, avatar, ()) => { id, name, avatar }
  ofCarrier_toCarrier _ := rfl

instance : Described Message where
  schema := messageSchema
  toCarrier m :=
    (m.id, Described.toCarrier m.kind, Described.toCarrier m.author, m.content, m.hasHint, m.responseTimeLimit, ())
  ofCarrier := fun (id, kind, author, content, hasHint, responseTimeLimit, ()) =>
    { id
      kind := Described.ofCarrier kind
      author := Described.ofCarrier author
      content
      hasHint
      responseTimeLimit }
  ofCarrier_toCarrier _ := rfl

instance : Described Chat where
  schema := chatSchema
  toCarrier c :=
    (c.chatId, c.skillId, c.simulationId, c.messages.map Described.toCarrier, c.success, ())
  ofCarrier := fun (chatId, skillId, simulationId, messages, success, ()) =>
    { chatId, skillId, simulationId, messages := messages.map Described.ofCarrier, success }
  ofCarrier_toCarrier c := by
    have h : (c.messages.map Described.toCarrier).map Described.ofCarrier = c.messages := by
      rw [List.map_map]
      exact List.map_id'' (fun m => Described.ofCarrier_toCarrier m) c.messages
    simp only [h]

instance : Described Simulation where
  schema := simulationSchema
  toCarrier s := (s.name, s.description, s.topics, ())
  ofCarrier := fun (name, description, topics, ()) => { name, description, topics }
  ofCarrier_toCarrier _ := rfl

instance : Described User where
  schema := userSchema
  toCarrier u := (u.name, ())
  ofCarrier := fun (name, ()) => { name }
  ofCarrier_toCarrier _ := rfl

instance : Described OpeningRequest where
  schema := requestSchema
  toCarrier r := (Described.toCarrier r.simulation, Described.toCarrier r.user, ())
  ofCarrier := fun (simulation, user, ()) =>
    { simulation := Described.ofCarrier simulation, user := Described.ofCarrier user }
  ofCarrier_toCarrier _ := rfl

instance : Described OpeningResponse where
  schema := responseSchema
  toCarrier r := (Described.toCarrier r.chat, r.metadata, ())
  ofCarrier := fun (chat, metadata, ()) => { chat := Described.ofCarrier chat, metadata }
  ofCarrier_toCarrier r := by
    show OpeningResponse.mk (Described.ofCarrier (Described.toCarrier r.chat)) r.metadata = r
    rw [Described.ofCarrier_toCarrier]

end Conversation

end ChatOpening
