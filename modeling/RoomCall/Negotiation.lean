import RoomCall.Announcement
import RoomCall.Description.Section
import RoomCall.Engine.Basic

/-!
# One negotiation

A negotiation owns the media engine of one call and knows how far the exchange of descriptions has
come. It is driven from two sides: the phone that owns it asks for its operations when messages
arrive, and the engine's callbacks are handed to it. Both sides answer with notices for the phone.

The local description is reported once, together with all candidates, when the engine has finished
looking for them. From then on every local description is a renegotiation. The stage follows the
engine's search for a network path, but only after the description was reported; what the search
reports earlier is remembered.

Every request made of the engine and every callback it posts is kept in `traffic` until the owner
collects it.

Whatever moves a negotiation to another stage takes the way to move as its last argument. It is
`moveTo` wherever a negotiation runs. That it is an argument lets one ask whether another way to
move could be told from it.
-/

namespace RoomCall

/-- Which side of the exchange a negotiation is on. -/
inductive Role where
  | offering
  | answering
  deriving DecidableEq, Inhabited, Repr

/-- Something a phone has to act on. -/
inductive Notice where
  /-- The local offer is ready, with its candidates. -/
  | offerCreated (description : String) (candidates : List Candidate)
  /-- The local answer is ready, with its candidates. -/
  | answerCreated (description : String) (candidates : List Candidate)
  /-- A new local description is ready during the call. -/
  | renegotiate (description : String) (kind : DescriptionKind)
  /-- The negotiation moved to another stage. -/
  | progressChanged (stage : Progress)
  /-- Video arrives from a user. -/
  | remoteVideo (user : UserId)
  /-- The negotiation cannot go on. -/
  | failed (ending : Ending)
  deriving DecidableEq, Inhabited, Repr

/-- Why an operation of a negotiation was refused. -/
inductive NegotiationError where
  /-- The offer has no audio codec that can be used. -/
  | noCompatibleCodec
  /-- The operation is not allowed at the current stage. -/
  | wrongStage (stage : Progress)
  /-- The engine refused. -/
  | media (fault : Engine.Fault)
  deriving DecidableEq, Inhabited, Repr

def NegotiationError.name : NegotiationError → String
  | .noCompatibleCodec => "NoCompatibleCodec"
  | .wrongStage _ => "InvalidState"
  | .media _ => "Media"

def NegotiationError.message : NegotiationError → String
  | .noCompatibleCodec => "Remote offer has no compatible audio codec"
  | .wrongStage stage => "Operation not allowed in state " ++ stage.name
  | .media fault => "Media error: " ++ fault.message

/-- What passes between a negotiation and its engine. -/
inductive Traffic where
  | request (content : Engine.Request)
  | callback (content : Engine.Callback)
  deriving DecidableEq, Inhabited, Repr

/-- The state of one negotiation. -/
structure Negotiation (ε : Type) where
  id : SessionId
  engine : ε
  role : Option Role := none
  progress : Progress := .disconnected
  hasPipeline : Bool := false
  /-- What the engine reported last about the search for a network path. -/
  ice : Engine.IceState := .new
  localDescription : Option String := none
  localCandidates : List Candidate := []
  /-- Whether the engine has finished looking for candidates. -/
  gathered : Bool := false
  /-- Whether the local description has been reported. -/
  described : Bool := false
  remoteUser : Option UserId := none
  /-- The user who announced each remote stream. -/
  remoteStreams : List (String × UserId) := []
  /-- Requests and callbacks that the owner has not collected, oldest first. -/
  traffic : List Traffic := []

namespace Negotiation

variable {ε : Type} [MediaEngine ε]

/-- Makes a request of the engine. -/
def ask (negotiation : Negotiation ε) (request : Engine.Request) :
    Negotiation ε × Option Engine.Fault :=
  let response := MediaEngine.respond negotiation.engine request
  ({ negotiation with
      engine := response.engine
      traffic := negotiation.traffic ++ .request request :: response.callbacks.map .callback },
    response.fault)

/-- Makes a request that engines have no way to refuse. -/
def tell (negotiation : Negotiation ε) (request : Engine.Request) : Negotiation ε :=
  (negotiation.ask request).1

/-- Moves to another stage, if that is allowed. -/
def moveTo (negotiation : Negotiation ε) (stage : Progress) : Negotiation ε × List Notice :=
  if negotiation.progress.canBecome stage then
    ({ negotiation with progress := stage }, [.progressChanged stage])
  else
    (negotiation, [])

/-- A way to move to another stage. -/
abbrev Mover (ε : Type) := Negotiation ε → Progress → Negotiation ε × List Notice

/-- Builds the pipeline. If the engine refuses, the negotiation is where it was and nothing is
reported. -/
def build (negotiation : Negotiation ε) (pipeline : Engine.Pipeline) (move : Mover ε := moveTo) :
    Negotiation ε × Except NegotiationError (List Notice) :=
  let (initiating, first) := move negotiation .initiating
  match initiating.ask (.build pipeline) with
  | (asked, some fault) => ((move asked .disconnected).1, .error (.media fault))
  | (asked, none) =>
      let (initiated, second) := move { asked with hasPipeline := true } .initiated
      (initiated, .ok (first ++ second))

/-- The streams with one more, which belongs to the given user from now on. -/
def rememberStream (streams : List (String × UserId)) (name : String) (user : UserId) :
    List (String × UserId) :=
  (name, user) :: streams.filter fun entry => entry.1 ≠ name

/-- The streams with all those that a description of a user announces. -/
def rememberStreams (streams : List (String × UserId)) (description : String) (user : UserId) :
    List (String × UserId) :=
  ((Description.sections description).filterMap Description.Section.stream).foldl
    (fun known name => rememberStream known name user) streams

/-- The user who announced a stream. -/
def userForStream? (negotiation : Negotiation ε) (name : String) : Option UserId :=
  (negotiation.remoteStreams.find? fun entry => entry.1 = name).map Prod.snd

/-- Hands a remote description to the engine. The user and the streams are remembered whether or
not the engine accepts it. -/
def applyRemote (negotiation : Negotiation ε) (description : String) (kind : DescriptionKind)
    (user : UserId) : Negotiation ε × Option Engine.Fault :=
  { negotiation with
    remoteUser := some user
    remoteStreams := rememberStreams negotiation.remoteStreams description user }.ask
      (.applyRemote kind description)

/-- Hands remote candidates to the engine, without the marks that no more will come. -/
def addRemoteCandidates (negotiation : Negotiation ε) (candidates : List Candidate) :
    Negotiation ε :=
  match candidates.filter fun candidate => !candidate.isEndMark with
  | [] => negotiation
  | usable => negotiation.tell (.addCandidates usable)

/-- Starts the offering side: builds the pipeline and asks for an offer. Once a negotiation is
under way this does nothing. -/
def start (negotiation : Negotiation ε) (pipeline : Engine.Pipeline) (move : Mover ε := moveTo) :
    Negotiation ε × Except NegotiationError (List Notice) :=
  if negotiation.progress ≠ .disconnected then
    (negotiation, .ok [])
  else
    match { negotiation with role := some .offering }.build pipeline move with
    | (built, .error error) => (built, .error error)
    | (built, .ok notices) => (built.tell .offer, .ok notices)

/-- Starts the answering side for an offer and the candidates that came with it. -/
def acceptOffer (negotiation : Negotiation ε) (pipeline : Engine.Pipeline) (offer : String)
    (candidates : List Candidate) (user : UserId) (move : Mover ε := moveTo) :
    Negotiation ε × Except NegotiationError (List Notice) :=
  if negotiation.progress ≠ .disconnected then
    (negotiation, .error (.wrongStage negotiation.progress))
  else if !Description.hasCompatibleAudio offer then
    (negotiation, .error .noCompatibleCodec)
  else
    match { negotiation with role := some .answering }.build pipeline move with
    | (built, .error error) => (built, .error error)
    | (built, .ok notices) =>
        match built.applyRemote offer .offer user with
        | (applied, some fault) => (applied, .error (.media fault))
        | (applied, none) => ((applied.addRemoteCandidates candidates).tell .answer, .ok notices)

/-- Applies the answer to the local offer, and the candidates that came with it. -/
def acceptAnswer (negotiation : Negotiation ε) (answer : String) (candidates : List Candidate)
    (user : UserId) : Negotiation ε × Except NegotiationError Unit :=
  if negotiation.progress ≠ .offerSent then
    (negotiation, .error (.wrongStage negotiation.progress))
  else
    match negotiation.applyRemote answer .answer user with
    | (applied, some fault) => (applied, .error (.media fault))
    | (applied, none) => (applied.addRemoteCandidates candidates, .ok ())

/-- Applies a description sent during the call. An offer is answered with the same pipeline. -/
def renegotiate (negotiation : Negotiation ε) (description : String) (user : UserId)
    (isAnswer : Bool) : Negotiation ε × Except NegotiationError Unit :=
  if !negotiation.hasPipeline || !negotiation.progress.isNegotiated then
    (negotiation, .error (.wrongStage negotiation.progress))
  else if isAnswer then
    match negotiation.applyRemote description .answer user with
    | (applied, some fault) => (applied, .error (.media fault))
    | (applied, none) => (applied, .ok ())
  else
    match negotiation.applyRemote description .offer user with
    | (applied, some fault) => (applied, .error (.media fault))
    | (applied, none) => (applied.tell .answer, .ok ())

/-- Hands remote candidates to the engine; without a pipeline they are dropped. -/
def acceptCandidates (negotiation : Negotiation ε) (candidates : List Candidate) :
    Negotiation ε :=
  if negotiation.hasPipeline then negotiation.addRemoteCandidates candidates else negotiation

/-- Takes the pipeline down. Doing so again changes nothing. -/
def finish (negotiation : Negotiation ε) (move : Mover ε := moveTo) :
    Negotiation ε × List Notice :=
  let ended :=
    if negotiation.hasPipeline then { negotiation.tell .finish with hasPipeline := false }
    else negotiation
  if ended.progress ≠ .disconnected then move ended .disconnected else (ended, [])

/-- Whether the search for a network path has begun on a running pipeline. Only then the
microphone can be muted. -/
def canMute (negotiation : Negotiation ε) : Bool :=
  negotiation.hasPipeline && Progress.connecting.rank ≤ negotiation.progress.rank

/-- Whether the microphone is muted. -/
def isMuted (negotiation : Negotiation ε) : Bool :=
  negotiation.canMute && MediaEngine.isMuted negotiation.engine

/-- Mutes or unmutes the microphone. -/
def setMuted (negotiation : Negotiation ε) (muted : Bool) :
    Negotiation ε × Except NegotiationError Unit :=
  if !negotiation.canMute then
    (negotiation, .error (.wrongStage negotiation.progress))
  else
    match negotiation.ask (.setMuted muted) with
    | (asked, some fault) => (asked, .error (.media fault))
    | (asked, none) => (asked, .ok ())

/-- Switches the camera and answers whether it is on now. -/
def toggleCamera (negotiation : Negotiation ε) : Negotiation ε × Except NegotiationError Bool :=
  if !negotiation.hasPipeline then
    (negotiation, .error (.wrongStage negotiation.progress))
  else
    match negotiation.ask .toggleCamera with
    | (asked, some fault) => (asked, .error (.media fault))
    | (asked, none) => (asked, .ok (MediaEngine.hasCameraOn asked.engine))

/-- Whether the local description is out and no network path is being tried yet. -/
def isAwaitingIce (negotiation : Negotiation ε) : Bool :=
  negotiation.progress = .offerSent || negotiation.progress = .answerSent

/-- Moves on to trying network paths, once the local description is out. -/
def beginConnecting (negotiation : Negotiation ε) (move : Mover ε := moveTo) :
    Negotiation ε × List Notice :=
  if negotiation.isAwaitingIce then move negotiation .connecting else (negotiation, [])

/-- Brings the stage in line with what the engine reported last about the search. -/
def followIce (negotiation : Negotiation ε) (move : Mover ε := moveTo) :
    Negotiation ε × List Notice :=
  match negotiation.ice with
  | .checking => negotiation.beginConnecting move
  | .connected | .completed =>
      let (begun, first) := negotiation.beginConnecting move
      if begun.progress = .connecting then
        let (connected, second) := move begun .connected
        (connected, first ++ second)
      else
        (begun, first)
  | .failed =>
      if negotiation.progress ≠ .iceFailed then
        let (failed, first) := move negotiation .iceFailed
        (failed, first ++ [.failed .iceFailed])
      else
        (negotiation, [])
  | .new | .disconnected | .closed => (negotiation, [])

/-- Reports the local description with its candidates, unless that has been done or there is none
yet. -/
def report (negotiation : Negotiation ε) (move : Mover ε := moveTo) :
    Negotiation ε × List Notice :=
  if negotiation.described || negotiation.progress ≠ .initiated then
    (negotiation, [])
  else
    match negotiation.localDescription with
    | none => (negotiation, [])
    | some description =>
        let described := { negotiation with described := true }
        let candidates := negotiation.localCandidates
        match negotiation.role with
        | some .offering =>
            let (sent, moved) := move described .offerSent
            (sent, .offerCreated description candidates :: moved)
        | some .answering =>
            let (sent, moved) := move described .answerSent
            (sent, .answerCreated description candidates :: moved)
        | none => (described, [])

/-- Reports the local description and then follows the search, which may have gone on already. -/
def reportAndFollow (negotiation : Negotiation ε) (move : Mover ε := moveTo) :
    Negotiation ε × List Notice :=
  let (reported, first) := negotiation.report move
  let (followed, second) := reported.followIce move
  (followed, first ++ second)

/-- The user a started stream belongs to: the one who announced it, or else the other side. -/
def streamUser? (negotiation : Negotiation ε) (stream : Option String) : Option UserId :=
  (stream >>= negotiation.userForStream?) <|> negotiation.remoteUser

/-- Handles a callback of the engine while the pipeline is there. -/
def handleRunning (negotiation : Negotiation ε) :
    Engine.Callback → (move : Mover ε := moveTo) → Negotiation ε × List Notice
  | .negotiationNeeded, _ =>
      if negotiation.described && negotiation.progress.isNegotiated then
        (negotiation.tell .offer, [])
      else
        (negotiation, [])
  | .localDescription description kind, move =>
      if negotiation.described then
        (negotiation, [.renegotiate description kind])
      else
        let described := { negotiation with localDescription := some description }
        if described.gathered then described.reportAndFollow move else (described, [])
  | .localCandidate candidate, _ =>
      ({ negotiation with localCandidates := negotiation.localCandidates ++ [candidate] }, [])
  | .gatheringComplete, move => { negotiation with gathered := true }.reportAndFollow move
  | .iceChanged state, move => { negotiation with ice := state }.followIce move
  | .remoteStream stream medium, _ =>
      match medium, negotiation.streamUser? stream with
      | .video, some user => (negotiation, [.remoteVideo user])
      | _, _ => (negotiation, [])
  | .pipelineFailed message, _ => (negotiation, [.failed (.mediaFailed message)])
  | .endOfStream, _ => (negotiation, [.failed (.mediaFailed "end of stream")])

/-- Handles a callback of the engine; without a pipeline it is dropped. -/
def handle (negotiation : Negotiation ε) (callback : Engine.Callback) (move : Mover ε := moveTo) :
    Negotiation ε × List Notice :=
  if negotiation.hasPipeline then negotiation.handleRunning callback move else (negotiation, [])

/-- Hands the uncollected traffic to the owner. -/
def collect (negotiation : Negotiation ε) : Negotiation ε × List Traffic :=
  ({ negotiation with traffic := [] }, negotiation.traffic)

end Negotiation

end RoomCall
